import Reckoner.Resource
import Reckoner.Tool
import Reckoner.Web.Body
import Reckoner.Web.Page
import Reckoner.Web.Query

/-!
# The JSON API

Routes over one agent.

* `Route`: what is served, with its method and path.
* `Exchange`: a response, the agent after it, and what is logged.
* `respond`: the exchange that a request leads to.
* `respondAll`: the exchanges of several requests, one after another.

The body of a request is read before anything else, so a request with a bad body
reaches no route.
-/

namespace Reckoner.Web

/-! ## Routes -/

inductive Route where
  | page
  | calculate
  | history
  | search
  | clear
deriving DecidableEq, Repr

namespace Route

def all : List Route :=
  [page, calculate, history, search, clear]

def method : Route → String
  | page | history | search => "GET"
  | calculate | clear => "POST"

def path : Route → String
  | page => "/"
  | calculate => "/calculate"
  | history => "/history"
  | search => "/history/search"
  | clear => "/clear"

/-- A path without a slash at the end. -/
def withoutSlash (path : List Char) : List Char :=
  if path.getLast? = some '/' then path.dropLast else path

/-- Whether the route is at a path; letter case does not matter, nor does a slash at the
    end. -/
def isAt (r : Route) (path : List Char) : Bool :=
  withoutSlash (path.map Char.toLower) = withoutSlash r.path.toList

/-- The methods that a route serves; whoever may read may also ask for the head alone. -/
def methods (r : Route) : List String :=
  if r.method = "GET" then [r.method, "HEAD"] else [r.method]

/-- The route at a path. -/
def ofPath? (path : List Char) : Option Route :=
  all.find? (·.isAt path)

end Route

/-! ## Responses -/

/-- The response that says what is wrong with a request. -/
def badRequest (error : String) (message? : Option String) : HttpResponse :=
  { status := statusBadRequest
    content :=
      .json
        (.object
          (("error", .string error) ::
            message?.toList.map fun message => ("message", .string message))) }

/-- The response to a body that is no JSON text. -/
def malformedBody : HttpResponse :=
  badRequest "Invalid JSON body" none

/-- The response to a calculation without a question. -/
def queryMissing : HttpResponse :=
  badRequest "No query provided" none

/-- The response to a number of entries that is out of bounds. -/
def badLimit : HttpResponse :=
  badRequest "Bad Request" (some "limit must be an integer from 1 to 1000")

/-- The response to a search without a keyword. -/
def keywordMissing : HttpResponse :=
  badRequest "Bad Request" (some "q is required")

/-- The response to what the server cannot do. -/
def serverError : HttpResponse :=
  { status := statusServerError
    content := .json (.object [("error", .string "Internal Server Error")]) }

/-- The response where there is no route. -/
def notFound (request : HttpRequest) : HttpResponse :=
  { status := statusNotFound
    content := .html s!"Cannot {request.method} {String.ofList request.path}" }

/-- The response that lists the methods of a route. -/
def allowed (route : Route) : HttpResponse :=
  { status := statusOk, content := .html (",".intercalate route.methods) }

/-- A response with a value. -/
def success (members : List (String × Json)) : HttpResponse :=
  { status := statusOk, content := .json (.object members) }

/-! ## Parameters -/

/-- The question in a body, if there is one that is not blank. -/
def queryOf? (body : Json) : Option String :=
  match body.member? "query" with
  | some (.string query) => if (Text.trim query.toList).isEmpty then none else some query
  | _ => none

/-- The number of entries that a query asks for, if it is in bounds or left open. -/
def limitOf? (query : List Char) : Option (Option Binary64) :=
  match Query.lookup? "limit" query with
  | none => some none
  | some parameter =>
      let limit := parameter.toNumber
      if (integerIssues Tool.limitBounds limit).isEmpty then some (some limit) else none

/-- The keyword that a query asks for. -/
def keywordOf? (query : List Char) : Option String :=
  match Query.lookup? "q" query with
  | some (.text (c :: cs)) => some (String.ofList (c :: cs))
  | _ => none

/-! ## Exchanges -/

/-- A response, the agent after it, and what is logged. -/
structure Exchange where
  response : HttpResponse
  agent : Agent
  log : List LogRecord

/-- The details of a request that are logged. -/
def requestFields (request : HttpRequest) : List (String × LogField) :=
  [("method", .text request.method), ("url", .text request.target)]

/-- What is logged of a request whose body is read. -/
def requestRecord (request : HttpRequest) : LogRecord :=
  { level := .info, message := "request", fields := requestFields request }

/-- What is logged of a request that the server cannot serve. -/
def failureRecord (request : HttpRequest) (failure : Failure) : LogRecord :=
  { level := .error
    message := "request failed"
    fields := ("err", .failure failure) :: requestFields request }

/-- An exchange that leaves the agent as it is. -/
def Exchange.unchanged (agent : Agent) (response : HttpResponse) : Exchange :=
  { response, agent, log := [] }

/-- The exchange that ends in a failure. -/
def Exchange.failed (agent : Agent) (request : HttpRequest) (failure : Failure) : Exchange :=
  { response := serverError, agent, log := [failureRecord request failure] }

/-- The failure of a time that the calendar does not cover. -/
def badTimestamp : Failure :=
  .exception "RangeError" badTimestampMessage

/-- The exchange that lists some entries. -/
def listing (agent : Agent) (request : HttpRequest) (entries : List Entry) : Exchange :=
  match datedEntries? entries with
  | some dated => .unchanged agent (success [("history", .array (dated.map (·.json)))])
  | none => .failed agent request badTimestamp

/-- What the API can be set to. -/
structure ApiSettings where
  /-- How many entries are listed where nothing else is asked for. -/
  historyLimit : Binary64

def ApiSettings.standard : ApiSettings :=
  { historyLimit := 10 }

/-- What a route does with a request. -/
def Route.serve (settings : ApiSettings) (now : Binary64) (agent : Agent)
    (request : HttpRequest) (body : Json) : Route → Exchange
  | page => .unchanged agent { status := statusOk, content := .html Web.page }
  | calculate =>
      match queryOf? body with
      | none => .unchanged agent queryMissing
      | some query =>
          let reply := agent.answerText now query
          { response := success [("result", .string reply.outcome.text)]
            agent := reply.agent
            log := reply.log }
  | history =>
      match limitOf? request.query with
      | none => .unchanged agent badLimit
      | some limit? =>
          let limit := limit?.getD settings.historyLimit
          listing agent request (agent.history.recent (some limit))
  | search =>
      match keywordOf? request.query with
      | none => .unchanged agent keywordMissing
      | some keyword => listing agent request (agent.history.search keyword)
  | clear => .unchanged agent.clearHistory (success [("success", .bool true)])

/-- What is done with a request and its body. -/
def dispatch (settings : ApiSettings) (now : Binary64) (agent : Agent)
    (request : HttpRequest) (body : Json) : Exchange :=
  match Route.ofPath? request.path with
  | none => .unchanged agent (notFound request)
  | some route =>
      if route.methods.contains request.method then
        route.serve settings now agent request body
      else if request.method = "OPTIONS" then .unchanged agent (allowed route)
      else .unchanged agent (notFound request)

/-- What is done with a request whose body has a fault. -/
def refuse (agent : Agent) (request : HttpRequest) (fault : BodyFault) : Exchange :=
  match fault.failure? with
  | some failure => .failed agent request failure
  | none => .unchanged agent malformedBody

/-- The exchange that a request leads to. -/
def respond (settings : ApiSettings) (now : Binary64) (agent : Agent)
    (request : HttpRequest) : Exchange :=
  match request.json with
  | .error fault => refuse agent request fault
  | .ok body =>
      let exchange := dispatch settings now agent request body
      { exchange with log := requestRecord request :: exchange.log }

/-! ## Several requests -/

/-- The responses to several requests, the agent after them, and what is logged. -/
structure Session where
  responses : List HttpResponse
  agent : Agent
  log : List LogRecord

/-- The exchanges of several requests, each at its time, one after another. -/
def respondAll (settings : ApiSettings) : Agent → List (Binary64 × HttpRequest) → Session
  | agent, [] => { responses := [], agent, log := [] }
  | agent, (now, request) :: rest =>
      let exchange := respond settings now agent request
      let later := respondAll settings exchange.agent rest
      { responses := exchange.response :: later.responses
        agent := later.agent
        log := exchange.log ++ later.log }

end Reckoner.Web
