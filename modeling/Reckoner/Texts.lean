import Reckoner.History
import Reckoner.Value

/-!
# Texts

What the agent tells the user.

* `Texts.answer`, `Texts.error`, `Texts.history`: answers, errors and the history.
* `Texts.help`, `welcome`, `goodbye`, `notUnderstood`: the fixed texts.
-/

namespace Reckoner.Texts

/-- Lines with a line end between them. -/
def joinLines (lines : List String) : String :=
  "\n".intercalate lines

/-! ## Answers, errors and history -/

def answer (value : Value) : String :=
  s!"The answer is {value.text}"

def error (message : String) : String :=
  s!"Error: {message}"

/-- What is shown for a history without entries. -/
def emptyHistory : String :=
  "No calculation history yet."

/-- The line under the heading of the history. -/
def rule : String :=
  String.ofList (List.replicate 60 '─')

/-- One line of the history; `place` counts from zero. -/
def historyLine (entry : Entry) (place : Nat) : String :=
  s!"{place + 1}. {entry.query} = {entry.result}"

/-- Entries as a numbered list. -/
def history (entries : List Entry) : String :=
  if entries.isEmpty then emptyHistory
  else
    joinLines
      ("Calculation History:" :: rule ::
        entries.zipIdx.map fun (entry, place) => historyLine entry place)

/-! ## Fixed texts -/

def help : String :=
  joinLines
    ["Available Operations:",
     "─────────────────────",
     "",
     "Basic Arithmetic:",
     "  • Addition: \"What's 5 + 3?\", \"Add 10 and 20\"",
     "  • Subtraction: \"10 minus 3\", \"Subtract 3 from 10\"",
     "  • Multiplication: \"5 times 4\", \"Multiply 6 and 7\"",
     "  • Division: \"Divide 20 by 5\", \"What's 100 / 4?\"",
     "",
     "Powers and Roots:",
     "  • Power: \"2 to the power of 3\", \"2 ^ 10\", \"5 squared\", \"4 cubed\"",
     "  • Square root: \"Square root of 81\", \"sqrt(144)\"",
     "  • Cube root: \"Cube root of 27\"",
     "",
     "Trigonometry (angles in degrees):",
     "  • \"sin of 30 degrees\", \"cos(45)\", \"tan of 60\"",
     "",
     "Logarithms:",
     "  • \"log of 100\", \"ln(5)\"",
     "",
     "Factorials:",
     "  • \"5 factorial\", \"factorial of 7\", \"6!\"",
     "",
     "Special Commands:",
     "  • 'history' - Show calculation history",
     "  • 'clear' - Clear calculation history",
     "  • 'help' - Show this help message",
     "  • 'quit' - Exit the program"]

def welcome : String :=
  joinLines
    ["╔════════════════════════════════════════════════════════════╗",
     "║          Welcome to Calculator Agent!                      ║",
     "║                                                            ║",
     "║  I can help you with mathematical calculations.            ║",
     "║  Just ask me naturally, like:                              ║",
     "║    • \"What's 25 + 17?\"                                     ║",
     "║    • \"Calculate square root of 144\"                        ║",
     "║    • \"What's 5 squared?\"                                   ║",
     "║    • \"sin of 30 degrees\"                                   ║",
     "║                                                            ║",
     "║  Type 'help' for more examples                             ║",
     "║  Type 'history' to see past calculations                   ║",
     "║  Type 'quit' to exit                                       ║",
     "╚════════════════════════════════════════════════════════════╝"]

def notUnderstood : String :=
  joinLines
    ["I couldn't understand that question. Please try again.",
     "",
     "Examples of questions I can answer:",
     "  • \"What's 2 + 2?\"",
     "  • \"Calculate square root of 144\"",
     "  • \"What's 5 squared?\"",
     "",
     "Type 'help' for more examples."]

def goodbye : String :=
  "Thank you for using Calculator Agent! Goodbye! 👋"

def historyCleared : String :=
  "History cleared!"

end Reckoner.Texts
