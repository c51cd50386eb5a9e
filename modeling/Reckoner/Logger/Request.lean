import Reckoner.Json.Text

/-!
# Requests in log lines

* `isRequest`: whether the details of a line describe an HTTP request.
* `requestMembers`: what a line shows of a request.
* `gatherRequest`: details in which a request has become one detail.
-/

namespace Reckoner.Logger

open Json

/-- Whether details describe an HTTP request. -/
def isRequest (details : List (String × Json)) : Bool :=
  ["method", "headers", "socket"].all fun name => (telling? name details).isSome

/-- What is told of a request apart from its members. -/
def requestInfo? (details : List (String × Json)) : Option Json :=
  telling? "info" details

/-- The identifier of a request. -/
def requestId? (details : List (String × Json)) : Option Json :=
  match telling? "id" details with
  | some id => some id
  | none => (requestInfo? details).bind (·.member? "id")

/-- The path of an address that has parts, or the address itself. -/
def addressPath (address : Json) : Json :=
  ((address.member? "path").filter (!·.isBlank)).getD address

/-- The address that is asked for, before it was changed if that is known. -/
def requestAddress? (details : List (String × Json)) : Option Json :=
  match telling? "originalUrl" details, lookup? "path" details with
  | some address, _ => some address
  | none, some (string path) => some (string path)
  | none, _ => (telling? "url" details).map addressPath

/-- What tells where a request came from. -/
def connection? (details : List (String × Json)) : Option Json :=
  match requestInfo? details with
  | some info => some info
  | none => telling? "socket" details

/-- What a line shows of a request. -/
def requestMembers (details : List (String × Json)) : List (String × Json) :=
  let members :=
    [("id", requestId? details), ("method", lookup? "method" details),
      ("url", requestAddress? details), ("query", telling? "query" details),
      ("params", telling? "params" details), ("headers", lookup? "headers" details),
      ("remoteAddress", (connection? details).bind (·.member? "remoteAddress")),
      ("remotePort", (connection? details).bind (·.member? "remotePort"))]
  members.filterMap fun (name, value?) => value?.map fun value => (name, value)

/-- Details in which a request has become one detail, and all else is left out. -/
def gatherRequest (details : List (String × Json)) : List (String × Json) :=
  if isRequest details then [("req", object (requestMembers details))] else details

end Reckoner.Logger
