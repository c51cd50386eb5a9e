import Reckoner.Cli.Command

/-!
# Scanned words

A command line as a list of words, and which of them are switches.

* `Given`: a switch that a word gives, with its value.
* `WordReading`, `readWord`: what one word is, for the switches that are known.
* `Scan`, `scan`: what a list of words is.
-/

namespace Reckoner.Cli

/-- A switch on the command line. -/
inductive Given where
  | flag (s : Switch)
  | value (s : Switch) (text : String)
deriving DecidableEq, Repr

/-! ## One word -/

/-- What a word is. -/
inductive WordReading where
  /-- A switch; its value, if it takes one, is the next word. -/
  | switch (s : Switch)
  /-- A switch and its value, with an equals sign between them. -/
  | assigned (s : Switch) (text : String)
  /-- One or more letters of switches without values, and other letters after them. -/
  | letters (found : List Switch) (rest : List Char)
  /-- A word that looks like a switch, but is none of those that are known. -/
  | unknown
  | plain
deriving DecidableEq, Repr

/-- The switches that some letters begin with, and the other letters. -/
def readLetters (known : List Switch) : List Char → List Switch × List Char
  | [] => ([], [])
  | letter :: rest =>
      match known.find? (·.letter? = some letter) with
      | some s =>
          let (found, after) := readLetters known rest
          (s :: found, after)
      | none => ([], letter :: rest)

/-- The switch with a value that a word assigns, if it does. -/
def readAssignment? (known : List Switch) (word : String) : Option (Switch × String) :=
  match word.toList.span (· ≠ '=') with
  | (name, '=' :: text) =>
      (known.find? fun s => s.takesValue && s.long = String.ofList name).map
        fun s => (s, String.ofList text)
  | _ => none

/-- Whether a word looks like a switch: a dash alone does not. -/
def looksLikeSwitch (word : String) : Bool :=
  match word.toList with
  | '-' :: _ :: _ => true
  | _ => false

/-- What a word is, for the switches that are known. -/
def readWord (known : List Switch) (word : String) : WordReading :=
  match known.find? (·.isTyped word) with
  | some s => .switch s
  | none =>
      match readAssignment? known word with
      | some (s, text) => .assigned s text
      | none =>
          if looksLikeSwitch word then
            match readLetters known (word.toList.drop 1) with
            | ([], _) => .unknown
            | (found, rest) => .letters found rest
          else .plain

/-! ## All words -/

/-- What a list of words is. -/
structure Scan where
  given : List Given
  /-- The words before the first unknown one. -/
  operands : List String
  /-- The first unknown word, and the words after it that are no known switches. -/
  unknown : List String
  /-- A switch at the end without the value that it takes. -/
  valueless? : Option Switch
deriving DecidableEq, Repr

namespace Scan

def empty : Scan :=
  { given := [], operands := [], unknown := [], valueless? := none }

def give (given : List Given) (s : Scan) : Scan :=
  { s with given := given ++ s.given }

/-- The scan with some words more, which are operands as long as no word was unknown. -/
def push (words : List String) (unknownBefore : Bool) (s : Scan) : Scan :=
  if unknownBefore then { s with unknown := words ++ s.unknown }
  else { s with operands := words ++ s.operands }

end Scan

/-- The word that ends the switches. -/
def terminator : String :=
  "--"

/-- What is left of a group of letters after the switches in it. -/
def leftoverWords (rest : List Char) : List String :=
  if rest.isEmpty then [] else [String.ofList ('-' :: rest)]

/-- Scans words, of which one before may have been unknown. -/
def scanFrom (known : List Switch) : (unknownBefore : Bool) → List String → Scan
  | _, [] => .empty
  | unknownBefore, word :: rest =>
      if word = terminator then
        Scan.empty.push (if unknownBefore then word :: rest else rest) unknownBefore
      else
        match readWord known word with
        | .plain => (scanFrom known unknownBefore rest).push [word] unknownBefore
        | .unknown => (scanFrom known true rest).push [word] true
        | .assigned s text => (scanFrom known unknownBefore rest).give [.value s text]
        | .letters found others =>
            let unknown := unknownBefore || !others.isEmpty
            ((scanFrom known unknown rest).push (leftoverWords others) unknown).give
              (found.map .flag)
        | .switch s =>
            if s.takesValue then
              match rest with
              | [] => { Scan.empty with valueless? := some s }
              | text :: later => (scanFrom known unknownBefore later).give [.value s text]
            else (scanFrom known unknownBefore rest).give [.flag s]

/-- Scans words for the switches that are known. -/
def scan (known : List Switch) (words : List String) : Scan :=
  scanFrom known false words

end Reckoner.Cli
