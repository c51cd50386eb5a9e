import Reckoner.Web.Message

/-!
# Messages on a connection

Requests and responses as bytes.

* `Arrival`: what the bytes that have come so far are.
* `Arrival.read`: the request that some bytes hold.
* `HttpResponse.bytes`: a response as it is sent.

A connection carries one request, whose body has a declared length.
-/

namespace Reckoner.Web

/-! ## Requests -/

/-- What the bytes that have come so far are. -/
inductive Arrival where
  | incomplete
  | malformed
  | request (r : HttpRequest)
deriving DecidableEq, Repr

namespace Arrival

/-- The head of a message before the first empty line, and what follows that line. -/
def splitHead? : List Char → Option (List Char × List Char)
  | '\r' :: '\n' :: '\r' :: '\n' :: rest => some ([], rest)
  | c :: rest => (splitHead? rest).map fun (head, after) => (c :: head, after)
  | [] => none

/-- The lines of a head. -/
def headLines (head : List Char) : List (List Char) :=
  (head.splitOn '\n').map fun line => line.filter (· ≠ '\r')

/-- A field of a head: its name in lower case, and its value without blanks. -/
def headField (line : List Char) : String × String :=
  let (name, rest) := line.span (· ≠ ':')
  let value := (rest.drop 1).dropWhile fun c => c = ' ' || c = '\t'
  (String.ofList (name.map Char.toLower), String.ofList value)

/-- The value of a field. -/
def fieldValue? (name : String) (fields : List (String × String)) : Option String :=
  (fields.find? (·.1 = name)).map (·.2)

/-- The text that some bytes are in UTF-8.  Bytes that are none make a text that no
    route takes for JSON. -/
def bodyText (bytes : List Char) : String :=
  let raw := (bytes.map fun c => UInt8.ofNat c.toNat).toByteArray
  (String.fromUTF8? raw).getD "\ufffd"

/-- The request of a head, with what has come after it. -/
def ofHead (head after : List Char) : Arrival :=
  match headLines head with
  | [] => .malformed
  | first :: rest =>
      match first.splitOn ' ' with
      | [method, target, _version] =>
          let fields := rest.map headField
          let message : HttpRequest :=
            { method := String.ofList method
              target := String.ofList target
              contentType? := fieldValue? "content-type" fields
              body? := none }
          match fieldValue? "content-length" fields with
          | none => .request message
          | some text =>
              match text.toNat? with
              | none => .malformed
              | some length =>
                  if after.length < length then .incomplete
                  else .request { message with body? := some (bodyText (after.take length)) }
      | _ => .malformed

/-- The request that some bytes hold. -/
def read (bytes : ByteArray) : Arrival :=
  match splitHead? (bytes.toList.map fun b => Char.ofNat b.toNat) with
  | none => .incomplete
  | some (head, after) => ofHead head after

end Arrival

/-! ## Responses -/

/-- What a status is called. -/
def reason (status : Nat) : String :=
  if status = statusOk then "OK"
  else if status = statusBadRequest then "Bad Request"
  else if status = statusNotFound then "Not Found"
  else "Internal Server Error"

/-- A response as it is sent; where only the head is asked for, the content is left
    out. -/
def HttpResponse.bytes (headOnly : Bool) (r : HttpResponse) : ByteArray :=
  let content := r.content.text
  let head :=
    "\r\n".intercalate
      [s!"HTTP/1.1 {r.status} {reason r.status}",
       s!"Content-Type: {r.content.mediaType}",
       s!"Content-Length: {content.utf8ByteSize}",
       "Connection: close",
       "",
       ""]
  (if headOnly then head else head ++ content).toUTF8

end Reckoner.Web
