import Reckoner.Json.Printer

/-!
# Requests and responses

* `HttpRequest`: what a client asks, with `HttpRequest.path` and `query`.
* `HttpResponse`: what it is answered.
-/

namespace Reckoner.Web

/-- What a client asks.  A body is sent as UTF-8. -/
structure HttpRequest where
  method : String
  /-- The path, the query after a question mark, and the fragment after a hash. -/
  target : String
  contentType? : Option String
  body? : Option String
deriving DecidableEq, Repr

namespace HttpRequest

/-- The target without its fragment. -/
def resource (r : HttpRequest) : List Char :=
  r.target.toList.takeWhile (· ≠ '#')

/-- What stands before the question mark. -/
def path (r : HttpRequest) : List Char :=
  r.resource.takeWhile (· ≠ '?')

/-- What stands after the question mark. -/
def query (r : HttpRequest) : List Char :=
  (r.resource.dropWhile (· ≠ '?')).drop 1

end HttpRequest

/-- What a response says. -/
inductive HttpContent where
  | html (text : String)
  | json (value : Json)

namespace HttpContent

def mediaType : HttpContent → String
  | html _ => "text/html; charset=utf-8"
  | json _ => "application/json; charset=utf-8"

/-- The content as it is sent. -/
def text : HttpContent → String
  | html text => text
  | json value => value.compact

end HttpContent

structure HttpResponse where
  status : Nat
  content : HttpContent

/-- The status of an answer to a request that is as it should be. -/
def statusOk : Nat := 200

/-- The status where the request is at fault. -/
def statusBadRequest : Nat := 400

/-- The status where there is nothing at a path. -/
def statusNotFound : Nat := 404

/-- The status where the server is at fault. -/
def statusServerError : Nat := 500

end Reckoner.Web
