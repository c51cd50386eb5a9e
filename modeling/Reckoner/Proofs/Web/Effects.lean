import Reckoner.Web.Api
import Reckoner.Proofs.Agent.Reachable
import Reckoner.Proofs.Web.Body

/-! # What requests do to the agent

A question that is answered with success goes to the agent, a clear that is answered with
success empties its history, and no other request does anything to it.

* `HttpRequest.question?` — the question in the body of a request.
* `Does`, `does_respond` — the three things that can come of a request.
* `Effect.of`, `applyAll` — what the responses tell of them.
* `Frames`, `respond_frames` — what a request leaves alone, whatever its route.
* `respondAll_agent`, `agent_follows_responses` — several requests, one after another.
-/

namespace Reckoner.Web

/-- The question in the body, blank or not. -/
def HttpRequest.question? (request : HttpRequest) : Option String :=
  match request.json with
  | .ok body =>
      match body.member? "query" with
      | some (.string query) => some query
      | _ => none
  | .error _ => none

/-- What a request does to an agent. -/
inductive Effect where
  | nothing
  | answer (query : String)
  | clear
deriving DecidableEq, Repr

/-- The effect that a request has if this is the response to it. -/
def Effect.of (request : HttpRequest) (response : HttpResponse) : Effect :=
  if request.method = "POST" ∧ response.status = statusOk then
    match Route.ofPath? request.path with
    | some .calculate => (request.question?.map .answer).getD .nothing
    | some .clear => .clear
    | _ => .nothing
  else .nothing

def Effect.apply (now : Binary64) (a : Agent) : Effect → Agent
  | nothing => a
  | answer query => (a.answer now (.text query)).agent
  | clear => a.clearHistory

/-! ## One request -/

/-- The three things that can come of a request to an agent: it has answered a question, was
    cleared, or is as it was. -/
inductive Does (now : Binary64) (a : Agent) (request : HttpRequest) (exchange : Exchange) :
    Prop where
  | answers {query : String} : request.method = "POST" →
      Route.ofPath? request.path = some .calculate → request.question? = some query →
      exchange.response.status = statusOk →
      exchange.agent = (a.answer now (.text query)).agent → Does now a request exchange
  | clears : request.method = "POST" → Route.ofPath? request.path = some .clear →
      exchange.response.status = statusOk → exchange.agent = a.clearHistory →
      Does now a request exchange
  | nothing : request.method ≠ "POST" ∨ exchange.response.status ≠ statusOk →
      exchange.agent = a → Does now a request exchange

section OneRequest

variable {settings : ApiSettings} {now : Binary64} {a : Agent} {request : HttpRequest}
  {exchange : Exchange}

theorem Does.with_log (does : Does now a request exchange) (log : List LogRecord) :
    Does now a request { exchange with log } := by
  cases does with
  | answers posts atPath asks succeeds agent => exact .answers posts atPath asks succeeds agent
  | clears posts atPath succeeds agent => exact .clears posts atPath succeeds agent
  | nothing fails agent => exact .nothing fails agent

theorem does_unchanged {response : HttpResponse} (fails : response.status ≠ statusOk) :
    Does now a request (.unchanged a response) :=
  .nothing (.inr fails) rfl

theorem does_failed {failure : Failure} : Does now a request (.failed a request failure) :=
  have fails : serverError.status ≠ statusOk := by decide
  .nothing (.inr fails) rfl

theorem method_ne_post {route : Route} (reads : route.method = "GET")
    (serves : route.methods.contains request.method = true) : request.method ≠ "POST" := by
  intro posts
  simp [Route.methods, reads, posts] at serves

theorem listing_agent (a : Agent) (request : HttpRequest) (entries : List Entry) :
    (listing a request entries).agent = a := by
  unfold listing
  split <;> rfl

theorem does_refuse (fault : BodyFault) : Does now a request (refuse a request fault) := by
  unfold refuse
  split
  · exact does_failed
  · exact does_unchanged (by decide)

theorem question?_of_queryOf? {body : Json} {query : String} (isJson : request.json = .ok body)
    (found : queryOf? body = some query) : request.question? = some query := by
  simp only [HttpRequest.question?, isJson, (queryOf?_eq_some.mp found).1]

theorem does_serve {route : Route} {body : Json}
    (atPath : Route.ofPath? request.path = some route) (isJson : request.json = .ok body)
    (serves : route.methods.contains request.method = true) :
    Does now a request (route.serve settings now a request body) := by
  cases route with
  | page => exact .nothing (.inl (method_ne_post rfl serves)) rfl
  | history =>
    refine .nothing (.inl (method_ne_post rfl serves)) ?_
    simp only [Route.serve]
    split
    · rfl
    · exact listing_agent ..
  | search =>
    refine .nothing (.inl (method_ne_post rfl serves)) ?_
    simp only [Route.serve]
    split
    · rfl
    · exact listing_agent ..
  | clear =>
    have posts : request.method = "POST" := by simpa [Route.methods, Route.method] using serves
    exact .clears posts atPath rfl rfl
  | calculate =>
    have posts : request.method = "POST" := by simpa [Route.methods, Route.method] using serves
    simp only [Route.serve]
    split
    · exact does_unchanged (by decide)
    next query found => exact .answers posts atPath (question?_of_queryOf? isJson found) rfl rfl

theorem does_dispatch {body : Json} (isJson : request.json = .ok body) :
    Does now a request (dispatch settings now a request body) := by
  have missing : (notFound request).status ≠ statusOk := by simp [notFound, statusNotFound, statusOk]
  unfold dispatch
  split
  · exact does_unchanged missing
  next route atPath =>
    -- A request for the methods succeeds without a route, but is no POST.
    split_ifs with serves asks
    · exact does_serve atPath isJson serves
    · exact .nothing (.inl (by simp [asks])) rfl
    · exact does_unchanged missing

theorem does_respond (settings : ApiSettings) (now : Binary64) (a : Agent)
    (request : HttpRequest) : Does now a request (respond settings now a request) := by
  unfold respond
  split
  · exact does_refuse _
  next body isJson => exact (does_dispatch isJson).with_log _

theorem Does.agent (does : Does now a request exchange) :
    exchange.agent = (Effect.of request exchange.response).apply now a := by
  unfold Effect.of
  cases does with
  | answers posts atPath asks succeeds agent =>
    rw [if_pos ⟨posts, succeeds⟩, atPath, asks]
    exact agent
  | clears posts atPath succeeds agent =>
    rw [if_pos ⟨posts, succeeds⟩, atPath]
    exact agent
  | nothing fails agent =>
    rw [if_neg fun both => fails.elim (fun other => other both.1) fun fails => fails both.2]
    exact agent

theorem Does.agent_of_fails (does : Does now a request exchange)
    (fails : request.method ≠ "POST" ∨ exchange.response.status ≠ statusOk) :
    exchange.agent = a := by
  cases does with
  | answers posts _ _ succeeds _ => exact absurd fails (by simp [posts, succeeds])
  | clears posts _ succeeds _ => exact absurd fails (by simp [posts, succeeds])
  | nothing _ agent => exact agent

theorem Does.exists_question (does : Does now a request exchange) (posts : request.method = "POST")
    (atPath : Route.ofPath? request.path = some .calculate)
    (succeeds : exchange.response.status = statusOk) :
    ∃ query, request.question? = some query := by
  cases does with
  | answers _ _ asks _ _ => exact ⟨_, asks⟩
  | clears _ atClear _ _ =>
    rw [atPath] at atClear
    cases atClear
  | nothing fails _ => exact absurd fails (by simp [posts, succeeds])

/-- The response to a body with a fault. -/
def faultResponse (fault : BodyFault) : HttpResponse :=
  if fault = .malformed then malformedBody else serverError

theorem respond_of_fault {fault : BodyFault} (rejected : request.json = .error fault) :
    (respond settings now a request).response = faultResponse fault ∧
      (respond settings now a request).agent = a := by
  simp only [respond, rejected, refuse]
  cases fault <;> exact ⟨rfl, rfl⟩

/-- What a request leaves alone. -/
structure Frames (settings : ApiSettings) (now : Binary64) (a : Agent) (request : HttpRequest) :
    Prop where
  /-- A request to read is one of these. -/
  noPost : request.method ≠ "POST" → (respond settings now a request).agent = a
  /-- Statuses 400, 404 and 500 are among those that tell of no success. -/
  failure : (respond settings now a request).response.status ≠ statusOk →
    (respond settings now a request).agent = a
  /-- No route is reached, whatever the method and the path are. -/
  fault (fault : BodyFault) : request.json = .error fault →
    (respond settings now a request).response = faultResponse fault ∧
      (respond settings now a request).agent = a
  /-- Success has a question to answer. -/
  question : request.method = "POST" → Route.ofPath? request.path = some .calculate →
    (respond settings now a request).response.status = statusOk →
      ∃ query, request.question? = some query

theorem respond_frames (settings : ApiSettings) (now : Binary64) (a : Agent)
    (request : HttpRequest) : Frames settings now a request where
  noPost reads := (does_respond ..).agent_of_fails (.inl reads)
  failure fails := (does_respond ..).agent_of_fails (.inr fails)
  fault _ := respond_of_fault
  question := (does_respond ..).exists_question

end OneRequest

/-! ## Several requests -/

/-- The agent after the effects of some requests with their responses. -/
def applyAll (a : Agent) (answered : List ((Binary64 × HttpRequest) × HttpResponse)) : Agent :=
  answered.foldl (fun before ((now, request), response) =>
    (Effect.of request response).apply now before) a

theorem length_responses (settings : ApiSettings) (a : Agent)
    (requests : List (Binary64 × HttpRequest)) :
    (respondAll settings a requests).responses.length = requests.length := by
  induction requests generalizing a with
  | nil => rfl
  | cons request rest ih => exact congrArg (· + 1) (ih _)

theorem respondAll_agent (settings : ApiSettings) (a : Agent)
    (requests : List (Binary64 × HttpRequest)) :
    (respondAll settings a requests).agent =
      applyAll a (requests.zip (respondAll settings a requests).responses) := by
  induction requests generalizing a with
  | nil => rfl
  | cons request rest ih =>
    obtain ⟨now, request⟩ := request
    have first := (does_respond settings now a request).agent
    simp only [respondAll, List.zip_cons_cons, applyAll, List.foldl_cons]
    -- What the first response tells of its request is what was done to the agent.
    rw [← first]
    exact ih _

/-- After any requests an agent is what the successful questions and clears make of it, in
    their order, and no other request does anything to it. -/
theorem agent_follows_responses (settings : ApiSettings) (a : Agent)
    (requests : List (Binary64 × HttpRequest)) :
    (respondAll settings a requests).responses.length = requests.length ∧
      (respondAll settings a requests).agent =
        applyAll a (requests.zip (respondAll settings a requests).responses) ∧
      ∀ (now : Binary64) (before : Agent) (request : HttpRequest),
        Frames settings now before request :=
  ⟨length_responses settings a requests, respondAll_agent settings a requests,
    respond_frames settings⟩

/-- A clear whose body is no JSON text clears nothing. -/
theorem agent_follows_responses_malformed :
    let a := (Agent.fresh.answer 1 (.text "2 + 2")).agent
    let request : HttpRequest := ⟨"POST", "/clear", some "application/json", some "\x7b"⟩
    request.json = .error .malformed ∧
      (respond .standard 2 a request).response.status = statusBadRequest ∧
      (respond .standard 2 a request).agent.history.count = 1 := by
  intro a request
  have declared : request.declaredCharset? = some defaultCharset := by decide +kernel
  have malformed : request.json = .error .malformed :=
    (json_of_declared rfl declared (by decide)).trans rfl
  obtain ⟨_, _, frames⟩ := agent_follows_responses .standard a [(2, request)]
  obtain ⟨response, agent⟩ := (frames 2 a request).fault .malformed malformed
  rw [response, agent]
  exact ⟨malformed, rfl, by decide +kernel⟩

end Reckoner.Web
