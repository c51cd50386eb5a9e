import Reckoner.Main
import Reckoner.Chain.Roster
import Reckoner.Resource
import Reckoner.Tool
import Reckoner.Json.Fault
import Reckoner.Proofs.Agent.Alike
import Reckoner.Proofs.Agent.Recording
import Reckoner.Proofs.Agent.Agreement
import Reckoner.Proofs.Agent.Failures
import Reckoner.Proofs.Agent.Replay
import Reckoner.Proofs.Agent.Factorials
import Reckoner.Proofs.Calendar.Times
import Reckoner.Proofs.Chain.Roster
import Reckoner.Proofs.Chain.Decision
import Reckoner.Proofs.Cli.Asking
import Reckoner.Proofs.Cli.Ports
import Reckoner.Proofs.Config.Variables
import Reckoner.Proofs.Conversation
import Reckoner.Proofs.Decimal.Places
import Reckoner.Proofs.Evaluation.Exponents
import Reckoner.Proofs.Evaluation.Faults
import Reckoner.Proofs.Phrase.Documented
import Reckoner.Proofs.Phrase.Fragments
import Reckoner.Proofs.Phrase.Shadows
import Reckoner.Proofs.Phrase.Tables
import Reckoner.Proofs.FrontEnds
import Reckoner.Proofs.History.Search
import Reckoner.Proofs.Resource
import Reckoner.Proofs.Views
import Reckoner.Proofs.Web.Calculation
import Reckoner.Proofs.Web.Effects
