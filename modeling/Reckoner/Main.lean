import Reckoner.Cli.Execution
import Reckoner.Config.Dotenv
import Reckoner.Web.Api
import Reckoner.Web.Wire
import Std.Async.DNS
import Std.Async.TCP
import Std.Time.DateTime.Timestamp

/-!
# The program

* `main`: runs a command line on the standard streams.

What is said and done is decided by the rest of the library; here it is read, printed
and sent.
-/

namespace Reckoner.Program

/-! ## Surroundings -/

/-- The present time. -/
def now : IO Binary64 := do
  let time ← Std.Time.Timestamp.now
  let milliseconds := time.toMillisecondsSinceUnixEpoch.val
  return .ofRatio (milliseconds < 0) milliseconds.natAbs 1

/-- The variables that the configuration knows, as they are set. -/
def environment : IO Environment := do
  let set ← Config.variableNames.filterMapM fun name => do
    let value? ← IO.getEnv name
    return value?.map fun value => (name, value)
  return fun name => (set.find? (·.1 = name)).map (·.2)

/-- The environment file of the working directory, if it can be read. -/
def environmentFile : IO (Option String) := do
  try
    return some (← IO.FS.readFile ".env")
  catch _ =>
    return none

/-- Writes the lines of some records. -/
def writeLog (logger : Logger) (log : List LogRecord) : IO Unit := do
  for record in log do
    if let some line := logger.recordLine? record then
      (← IO.getStderr).putStrLn line

/-- Writes a text at once. -/
def write (text : String) : IO Unit := do
  let output ← IO.getStdout
  output.putStr text
  output.flush

/-! ## Conversations -/

/-- Answers some lines, and says whether one of them ends the conversation. -/
def answerLines (logger : Logger) : Agent → List String → IO (Agent × Bool)
  | agent, [] => return (agent, false)
  | agent, line :: rest => do
      if isExitCommand line then return (agent, true)
      let reply := agent.answerText (← now) line
      writeLog logger reply.log
      write (Repl.turnText Repl.defaultPrompt reply.outcome.text)
      answerLines logger reply.agent rest

/-- Answers lines until an exit command or the end of the input. -/
partial def converse (logger : Logger) (agent : Agent) : IO Unit := do
  let typed ← (← IO.getStdin).getLine
  unless typed.isEmpty do
    let lines := (Text.lines typed.toList).map String.ofList
    let (next, ended) ← answerLines logger agent lines
    unless ended do converse logger next

/-! ## Serving -/

/-- The address that a host and a port name. -/
def resolve (address : Cli.Address) : IO Std.Net.SocketAddress := do
  let port := UInt16.ofNat address.port
  let found ← (Std.Async.DNS.getAddrInfo address.host "").block
  match found.toList with
  | .v4 addr :: _ => return .v4 { addr, port }
  | .v6 addr :: _ => return .v6 { addr, port }
  | [] => throw (IO.userError s!"no address for {address.host}")

/-- The request of a client, once all of it has come. -/
partial def receive (client : Std.Async.TCP.Socket.Client) (come : ByteArray) :
    IO (Option Web.HttpRequest) := do
  match Web.Arrival.read come with
  | .request r => return some r
  | .malformed => return none
  | .incomplete =>
      match ← (client.recv? 65536).block with
      | some more => receive client (come ++ more)
      | none => return none

/-- Serves one client after another. -/
partial def serve (logger : Logger) (settings : Web.ApiSettings)
    (server : Std.Async.TCP.Socket.Server) (agent : Agent) : IO Unit := do
  let client ← server.accept.block
  let next ←
    try
      match ← receive client .empty with
      | none => pure agent
      | some request =>
          let exchange := Web.respond settings (← now) agent request
          writeLog logger exchange.log
          (client.send (exchange.response.bytes (request.method = "HEAD"))).block
          client.shutdown.block
          pure exchange.agent
    catch _ => pure agent
  serve logger settings server next

/-- Listens at an address and serves. -/
def listen (logger : Logger) (config : Config) (agent : Agent) (address : Cli.Address) :
    IO Unit := do
  let server ← Std.Async.TCP.Socket.Server.mk
  server.bind (← resolve address)
  server.listen 511
  let bound := { address with port := (← server.getSockName).port.toNat }
  writeLog logger (Cli.listen agent bound).log
  serve logger { historyLimit := config.settings.historyDisplayLimit } server agent

/-! ## Commands -/

/-- Runs an invocation, and returns its exit code. -/
def perform (logger : Logger) (config : Config) (agent : Agent) :
    Cli.Invocation → IO UInt32
  | .ask words => do
      let execution := Cli.ask (← now) agent words
      writeLog logger execution.log
      write execution.output
      return UInt32.ofNat execution.exitCode
  | .repl => do
      write (Repl.opening Repl.defaultPrompt)
      converse logger agent
      write Repl.closing
      return 0
  | .web address => do
      listen logger config agent address
      return 0

/-- Says why a command line leads to no command, and returns the exit code. -/
def finish (config : Config) (ending : Cli.Ending) : IO UInt32 := do
  let stream ← if ending.isError then IO.getStderr else IO.getStdout
  stream.putStr (ending.text config)
  return UInt32.ofNat ending.exitCode

/-- Runs a command line with a configuration. -/
def run (config : Config) (words : List String) : IO UInt32 := do
  let logger : Logger := { name := Logger.defaultName, threshold? := some config.logLevel }
  match Agent.new? config.settings, Cli.parse config words with
  | .error bad, _ =>
      IO.eprintln bad.message
      return 1
  | .ok _, .error ending => finish config ending
  | .ok agent, .ok invocation => perform logger config agent invocation

end Reckoner.Program

/-- Runs a command line in the environment of the process. -/
def main (words : List String) : IO UInt32 := do
  let file? ← Reckoner.Program.environmentFile
  match Reckoner.Config.loadWithFile (← Reckoner.Program.environment) file? with
  | .ok config => Reckoner.Program.run config words
  | .error error =>
      IO.eprintln error.message
      return 1
