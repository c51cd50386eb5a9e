import Reckoner.Text.Blank
import Reckoner.Text.LowerCase

/-!
# Input

* `RawInput`: what a front end hands over.
* `normalize?`: a question without superfluous blanks.
* `isExitCommand`: the words that end a conversation.
-/

namespace Reckoner

/-- What a front end hands over: a text, or something else. -/
inductive RawInput where
  | text (s : String)
  | other
deriving DecidableEq, Repr

/-- A text without blanks at its ends and with single spaces inside, if anything is
    left of it. -/
def normalizeText? (s : String) : Option String :=
  match Text.squeeze (Text.trim s.toList) with
  | [] => none
  | cleaned => some (String.ofList cleaned)

/-- The question in an input, if there is one. -/
def RawInput.normalize? : RawInput → Option String
  | text s => normalizeText? s
  | other => none

/-- The words that end a conversation. -/
def exitCommands : List String :=
  ["quit", "exit", "bye", "goodbye"]

/-- Whether a line is one of the words that end a conversation; letter case and the
    blanks around it do not matter. -/
def isExitCommand (line : String) : Bool :=
  exitCommands.contains (String.ofList (Text.lower (Text.trim line.toList)))

end Reckoner
