import Reckoner.Json.Reader
import Reckoner.Log
import Reckoner.Web.MediaType
import Reckoner.Web.Message

/-!
# Bodies

* `BodyFault`: what can be wrong with a body.
* `HttpRequest.declaredCharset?`: the character set of a body that is declared to be
  JSON.
* `HttpRequest.json`: the JSON value of a request.

A request without a body, or with one that is not declared to be JSON, has the empty
object for its value.
-/

namespace Reckoner.Web

/-- What can be wrong with a body. -/
inductive BodyFault where
  | unsupportedCharset (name : String)
  | tooLarge
  | malformed
deriving DecidableEq, Repr

/-- How a fault is reported, if it is not the fault of the text alone. -/
def BodyFault.failure? : BodyFault → Option Failure
  | unsupportedCharset name =>
      some
        (.exception "UnsupportedMediaTypeError"
          ("unsupported charset \"" ++ name.toUpper ++ "\""))
  | tooLarge => some (.exception "PayloadTooLargeError" "request entity too large")
  | malformed => none

/-- The number of bytes that a body may have. -/
def bodyLimit : Nat :=
  100 * 1024

/-! ## Character sets -/

/-- The character sets of a JSON body. -/
inductive Charset where
  | utf8
  /-- Another encoding of Unicode, which is not decoded here. -/
  | other
deriving DecidableEq, Repr

/-- The encodings of Unicode besides UTF-8, by their letters and digits. -/
def otherCharsets : List String :=
  ["utf7", "utf7imap", "utf16", "utf16le", "utf16be", "utf32", "utf32le", "utf32be"]

/-- The character set of a name; only letters and digits count. -/
def Charset.ofName? (name : String) : Option Charset :=
  let letters := String.ofList (name.toList.filter Char.isAlphanum)
  if letters = "utf8" then some .utf8
  else if otherCharsets.contains letters then some .other
  else none

/-- The name of the character set that is meant where none is declared. -/
def defaultCharset : String :=
  "utf-8"

/-- The name of the declared character set, in lower case, if the request is declared to
    be JSON. -/
def HttpRequest.declaredCharset? (r : HttpRequest) : Option String := do
  let declared ← r.contentType?.bind MediaType.read?
  if declared.name = "application/json" then
    let charset := ((declared.parameter? "charset").getD "").toLower
    return if charset.isEmpty then defaultCharset else charset
  else none

/-! ## JSON texts -/

/-- A text without the byte order mark. -/
def withoutMark : List Char → List Char
  | '\ufeff' :: rest => rest
  | cs => cs

/-- The value of a JSON text that is an object or an array. -/
def readContainer? (cs : List Char) : Option Json :=
  match Json.skipSpaces cs with
  | '{' :: _ | '[' :: _ => Json.read? cs
  | _ => none

/-- The value of a body; an empty one means the empty object.

    Only UTF-8 is decoded here: a body that is declared to be in UTF-7, UTF-16 or UTF-32
    counts as malformed, whatever its bytes, where a server that decodes these encodings
    reads it. -/
def readText : Charset → String → Except BodyFault Json
  | charset, text =>
      match charset, withoutMark text.toList with
      | _, [] => .ok (.object [])
      | .utf8, cs => (readContainer? cs).elim (.error .malformed) .ok
      | .other, _ => .error .malformed

/-- The value of a body that is declared to be JSON in a character set. -/
def readDeclared (charset text : String) : Except BodyFault Json :=
  if !charset.startsWith "utf-" then .error (.unsupportedCharset charset)
  else if bodyLimit < text.utf8ByteSize then .error .tooLarge
  else
    match Charset.ofName? charset with
    | some known => readText known text
    | none => .error (.unsupportedCharset charset)

/-- The JSON value of a request. -/
def HttpRequest.json (r : HttpRequest) : Except BodyFault Json :=
  match r.body?, r.declaredCharset? with
  | some text, some charset => readDeclared charset text
  | _, _ => .ok (.object [])

end Reckoner.Web
