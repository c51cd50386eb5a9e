import Reckoner.Agent
import Reckoner.Json.Printer

/-!
# The history resource

The newest entries of an agent's history as a JSON document.

* `DatedEntry.json`: an entry as a JSON object.
* `Resource`: what is told about the resource.
* `Resource.json?`, `Resource.text?`: the document, if the calendar covers the
  times of all its entries.
-/

namespace Reckoner

/-- An entry as a JSON object. -/
def DatedEntry.json (entry : DatedEntry) : Json :=
  .object
    [("query", .string entry.query), ("result", .string entry.result),
      ("operation_type", .string entry.operationType), ("timestamp", .string entry.timestamp)]

/-- All of some entries with their times as text, if the calendar covers them. -/
def datedEntries? (entries : List Entry) : Option (List DatedEntry) :=
  entries.mapM (·.dated?)

/-- What is told about a resource. -/
structure Resource where
  uri : String
  name : String
  description : String
  mimeType : String
deriving DecidableEq, Repr

namespace Resource

/-- The resource of the newest entries, up to a limit. -/
def recent (limit : Binary64) : Resource :=
  { uri := "history://recent"
    name := "Recent calculations"
    description := s!"Up to {limit.text} most recent calculations as JSON, newest first"
    mimeType := "application/json" }

/-- The number of all entries, and the newest of them. -/
def document (count : Nat) (entries : List DatedEntry) : Json :=
  .object [("count", .ofNat count), ("history", .array (entries.map (·.json)))]

def json? (history : History) (limit : Binary64) : Option Json :=
  (datedEntries? (history.recent (some limit))).map (document history.count)

/-- The document as it is sent. -/
def text? (history : History) (limit : Binary64) : Option String :=
  (json? history limit).map (·.pretty)

end Resource

end Reckoner
