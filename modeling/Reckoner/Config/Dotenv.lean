import Reckoner.Config.Basic
import Reckoner.Phrase.Phrasing

/-!
# Environment files

A file of assignments `NAME=value`, which may be exported, quoted and commented.

* `Dotenv.assignmentAt?`: the assignment at the start of a line, and what follows.
* `Dotenv.assignments`: all assignments of a file, in order.
* `Dotenv.extend`: an environment with the assignments of a file for the variables
  that are not set.

A name may stand lines below the blanks that lead to it, and a quoted value may hold
line ends.  Where a line fits in several ways, the longest pieces are tried first.
-/

namespace Reckoner.Dotenv

/-! ## Lines -/

/-- Whether a line ends where `rest` follows. -/
def endsLine : (rest : List Char) → Bool
  | [] => true
  | c :: _ => Text.isLineEnd c

/-- A file with a line feed for every other line end. -/
def normalizeLines : List Char → List Char
  | [] => []
  | '\r' :: '\n' :: rest => '\n' :: normalizeLines rest
  | '\r' :: rest => '\n' :: normalizeLines rest
  | c :: rest => c :: normalizeLines rest

/-! ## Pieces of a line -/

/-- The tails after a run of blanks, longest run first. -/
def afterBlanks (s : List Char) : List (List Char) :=
  restsOfRun Text.isBlank s []

/-- The tails after a run of characters with `p` that is not empty, longest first. -/
def afterSome (p : Char → Bool) : List Char → List (List Char)
  | [] => []
  | c :: rest => if p c then restsOfRun p rest [] else []

/-- The tails after the word `export` and blanks, and the text itself. -/
def afterExport (s : List Char) : List (List Char) :=
  let word := "export".toList
  (if word.isPrefixOf s then afterSome Text.isBlank (s.drop word.length) else []) ++ [s]

/-- A character of a name. -/
def isNameChar (c : Char) : Bool :=
  isWordChar c || c == '.' || c == '-'

/-- The tails after an equals sign with blanks around it, or after a colon with a
    blank; after the sign, the fewest blanks first. -/
def afterSeparator (s : List Char) : List (List Char) :=
  let equals :=
    match Text.trimStart s with
    | '=' :: rest => (afterBlanks rest).reverse
    | _ => []
  let colon :=
    match s with
    | ':' :: rest => (afterSome Text.isBlank rest).reverse
    | _ => []
  equals ++ colon

/-- The tails after a closing quote; a quote after a backslash closes only if nothing
    else fits. -/
def afterQuote (quote : Char) : List Char → List (List Char)
  | [] => []
  | '\\' :: c :: rest =>
      if c = quote then afterQuote quote rest ++ [rest] else afterQuote quote (c :: rest)
  | c :: rest => if c = quote then [rest] else afterQuote quote rest

/-- The quotes that a value can stand in. -/
def quotes : List Char :=
  ['\'', '"', Char.ofNat 96]

/-- The tails after a value: one in quotes, one without up to a comment, or none. -/
def afterValue (s : List Char) : List (List Char) :=
  let quoted :=
    match Text.trimStart s with
    | c :: rest => if quotes.contains c then afterQuote c rest else []
    | [] => []
  quoted ++ afterSome (fun c => c != '#' && c != '\n' && c != '\r') s ++ [s]

/-- The tails after a comment, or the text itself. -/
def afterComment : List Char → List (List Char)
  | '#' :: rest => restsOfRun (!Text.isLineEnd ·) rest [] ++ ['#' :: rest]
  | s => [s]

/-! ## Values -/

/-- The text inside the last quote that ends a line, and what follows that quote. -/
def insideQuotes? (quote : Char) : List Char → Option (List Char × List Char)
  | [] => none
  | c :: rest =>
      match insideQuotes? quote rest with
      | some (inside, after) => some (c :: inside, after)
      | none => if c = quote && endsLine rest then some ([], rest) else none

/-- A value without the quotes around it; `fuel` is its length. -/
def unquote : (fuel : Nat) → (atLineStart : Bool) → List Char → List Char
  | _, _, [] => []
  | 0, _, s => s
  | fuel + 1, atLineStart, c :: rest =>
      match if atLineStart && quotes.contains c then insideQuotes? c rest else none with
      | some (inside, after) => inside ++ unquote fuel false after
      | none => c :: unquote fuel (Text.isLineEnd c) rest

/-- A value with line feeds and carriage returns for their escapes. -/
def expandLineEnds : List Char → List Char
  | '\\' :: 'n' :: rest => '\n' :: expandLineEnds rest
  | '\\' :: 'r' :: rest => '\r' :: expandLineEnds rest
  | c :: rest => c :: expandLineEnds rest
  | [] => []

/-- The value that is written.  Escapes count only in double quotes. -/
def valueOf (written : List Char) : List Char :=
  let trimmed := Text.trim written
  let inside := unquote trimmed.length true trimmed
  if trimmed.head? = some '"' then expandLineEnds inside else inside

/-! ## Assignments -/

/-- The assignment at the start of a line, and what follows it. -/
def assignmentAt? (s : List Char) : Option ((List Char × List Char) × List Char) :=
  (afterBlanks s).findSome? fun start =>
    (afterExport start).findSome? fun nameStart =>
      (afterSome isNameChar nameStart).findSome? fun nameEnd =>
        (afterSeparator nameEnd).findSome? fun valueStart =>
          (afterValue valueStart).findSome? fun valueEnd =>
            (afterBlanks valueEnd).findSome? fun comment =>
              (afterComment comment).findSome? fun rest =>
                if endsLine rest then
                  some
                    ((takenBefore nameStart nameEnd,
                      valueOf (takenBefore valueStart valueEnd)), rest)
                else none

/-- The assignments of a text; `fuel` is its length. -/
def assignmentsFrom : (fuel : Nat) → (atLineStart : Bool) → List Char →
    List (List Char × List Char)
  | 0, _, _ => []
  | fuel + 1, atLineStart, s =>
      match if atLineStart then assignmentAt? s else none with
      | some (assignment, rest) => assignment :: assignmentsFrom fuel false rest
      | none =>
          match s with
          | [] => []
          | c :: rest => assignmentsFrom fuel (Text.isLineEnd c) rest

/-- All assignments of a file, in order. -/
def assignments (file : String) : List (String × String) :=
  let s := normalizeLines file.toList
  (assignmentsFrom (s.length + 1) true s).map fun (name, value) =>
    (String.ofList name, String.ofList value)

/-- What a file assigns to a variable; of several assignments the last counts. -/
def lookup? (file : String) (name : String) : Option String :=
  ((assignments file).reverse.find? (·.1 == name)).map (·.2)

/-- An environment with the assignments of a file for the variables that are not
    set. -/
def extend (env : Environment) (file : String) : Environment :=
  fun name => (env name).or (lookup? file name)

end Reckoner.Dotenv

namespace Reckoner.Config

/-- The configuration that an environment gives together with an environment file,
    if there is one. -/
def loadWithFile (env : Environment) (file? : Option String) : Except ConfigError Config :=
  match file? with
  | some file => load (Dotenv.extend env file)
  | none => load env

end Reckoner.Config
