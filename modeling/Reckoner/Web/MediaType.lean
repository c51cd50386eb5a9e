/-!
# Media types

The declared type of a body, such as `application/json; charset=utf-8`.

* `MediaType`: a type and its parameters.
* `MediaType.read?`: the media type that a text declares.
* `MediaType.parameter?`: the value of a parameter.
-/

namespace Reckoner.Web

/-- A type in lower case, and its parameters, whose names are in lower case. -/
structure MediaType where
  name : String
  parameters : List (String × String)
deriving DecidableEq, Repr

namespace MediaType

/-- The characters of a name or of a bare value. -/
def isTokenChar (c : Char) : Bool :=
  c.isAlphanum || "!#$%&'*+-.^_`|~".toList.contains c

/-- The characters of one half of a type. -/
def isTypeChar (c : Char) : Bool :=
  c.isAlphanum || "!#$&^_.+-".toList.contains c

/-- Whether some characters can be one half of a type. -/
def isTypeName (cs : List Char) : Bool :=
  cs.head?.any Char.isAlphanum && cs.all isTypeChar && cs.length ≤ 127

def skipSpaces (cs : List Char) : List Char :=
  cs.dropWhile (· = ' ')

def dropSpacesAtEnd (cs : List Char) : List Char :=
  (skipSpaces cs.reverse).reverse

/-- The type before the parameters. -/
def readName? (cs : List Char) : Option String :=
  let trimmed := dropSpacesAtEnd (skipSpaces cs)
  let (kind, rest) := trimmed.span (· ≠ '/')
  if isTypeName kind && isTypeName (rest.drop 1) then
    some (String.ofList (trimmed.map Char.toLower))
  else none

/-! ## Parameters -/

/-- The characters that stand for themselves between quotes. -/
def isQuotedChar (c : Char) : Bool :=
  let n := c.toNat
  (0x20 ≤ n && n ≤ 0x7E && c ≠ '"' && c ≠ '\\') || (0x80 ≤ n && n ≤ 0xFF)

/-- The value up to the closing quote, and what follows it. -/
def readQuoted? : List Char → Option (List Char × List Char)
  | [] => none
  | '"' :: rest => some ([], rest)
  | '\\' :: c :: rest =>
      if 0x20 ≤ c.toNat ∧ c.toNat ≤ 0x7E then
        (readQuoted? rest).map fun (value, after) => (c :: value, after)
      else none
  | c :: rest =>
      if isQuotedChar c then
        (readQuoted? rest).map fun (value, after) => (c :: value, after)
      else none

/-- The value of a parameter, with or without quotes, and what follows it. -/
def readValue? : List Char → Option (List Char × List Char)
  | '"' :: rest => readQuoted? rest
  | cs =>
      match cs.span isTokenChar with
      | ([], _) => none
      | (value, after) => some (value, after)

/-- A parameter after its semicolon, and what follows it. -/
def readParameter? (cs : List Char) : Option ((String × String) × List Char) :=
  match (skipSpaces cs).span isTokenChar with
  | ([], _) => none
  | (name, afterName) =>
      match skipSpaces afterName with
      | '=' :: afterSign =>
          (readValue? (skipSpaces afterSign)).map fun (value, after) =>
            ((String.ofList (name.map Char.toLower), String.ofList value), skipSpaces after)
      | _ => none

/-- All parameters, each after a semicolon, in so many steps. -/
def readParameters? : (steps : Nat) → List Char → Option (List (String × String))
  | _, [] => some []
  | 0, _ :: _ => none
  | steps + 1, c :: rest =>
      if c = ';' then
        match readParameter? rest with
        | some (parameter, after) => (readParameters? steps after).map (parameter :: ·)
        | none => none
      else none

/-! ## The whole declaration -/

/-- Whether the character is left out at the ends of a header's value. -/
def isPadding (c : Char) : Bool :=
  c = ' ' || c = '\t'

/-- The media type that a text declares. -/
def read? (text : String) : Option MediaType := do
  let declared := (text.toList.dropWhile isPadding).reverse.dropWhile isPadding
  let (kind, rest) := declared.reverse.span (· ≠ ';')
  let name ← readName? kind
  let parameters ← readParameters? rest.length rest
  return { name, parameters }

/-- The value of a parameter; of two with one name the last counts. -/
def parameter? (m : MediaType) (name : String) : Option String :=
  (m.parameters.reverse.find? (·.1 = name)).map (·.2)

end MediaType

end Reckoner.Web
