import Reckoner.Repl
import Reckoner.Web.Api
import Reckoner.Proofs.Agent.Reachable
import Reckoner.Proofs.Agent.Undated
import Reckoner.Proofs.Text.Lines
import Reckoner.Proofs.Text.Words
import Reckoner.Proofs.Web.Body

/-! # The front ends agree

The same questions, put to an agent directly, on the lines of a conversation, in the bodies of
requests or by the tool, have the same answers and leave the same history, times apart.

* `IsPlain` — a question that no front end turns away.
* `Repl.asked_of_writes`, `Repl.answerAll_eq_talk` — a conversation.
* `Web.Asks`, `Web.respondAll_eq_talk` — requests.
* `Tool.Asks`, `Tool.callAll_eq_talk` — calls of the tool.
* `front_ends_agree` — all four.
-/

namespace Reckoner

/-- The question has a character that is not blank, and does not end a conversation. -/
structure IsPlain (query : String) : Prop where
  inked : ∃ c ∈ query.toList, Text.isBlank c = false
  goesOn : isExitCommand query = false

instance (query : String) : Decidable (IsPlain query) :=
  decidable_of_iff
    ((query.toList.any fun c => !Text.isBlank c) = true ∧ isExitCommand query = false)
    ⟨fun ⟨inked, goesOn⟩ => ⟨by simpa using inked, goesOn⟩,
      fun isPlain => ⟨by simpa using isPlain.inked, isPlain.goesOn⟩⟩

theorem IsPlain.trim_ne_nil {query : String} (isPlain : IsPlain query) :
    Text.trim query.toList ≠ [] := by
  intro empty
  obtain ⟨c, member, isInked⟩ := isPlain.inked
  rw [Text.trim_eq_nil_iff.mp empty c member] at isInked
  cases isInked

theorem IsPlain.ne_empty {query : String} (isPlain : IsPlain query) : query ≠ "" := by
  rintro rfl
  exact isPlain.trim_ne_nil rfl

/-! ## Conversations -/

namespace Repl

theorem asked_of_writes {input : String} {queries : List String}
    (writes : Text.Writes input.toList (queries.map String.toList))
    (goOn : ∀ query ∈ queries, isExitCommand query = false) : asked input = queries := by
  rw [asked, Text.lines_eq_iff.mpr writes, List.map_map]
  have same : String.ofList ∘ String.toList = id := funext fun _ => String.ofList_toList
  rw [same, List.map_id, List.takeWhile_eq_self_iff]
  intro query member
  simp [goOn query member]

theorem answerAll_eq_talk (now : Binary64) (a : Agent) (queries : List String) :
    (answerAll now a queries).texts = (a.talk (queries.map (now, ·))).1 ∧
      (answerAll now a queries).agent = (a.talk (queries.map (now, ·))).2 := by
  induction queries generalizing a with
  | nil => exact ⟨rfl, rfl⟩
  | cons query rest ih =>
    obtain ⟨texts, agent⟩ := ih (a.answerText now query).agent
    exact ⟨congrArg _ texts, agent⟩

end Repl

/-! ## Requests -/

namespace Web

/-- The request asks for the answer to a question: a body that writes an object with the question
    alone, within the limit and declared to be JSON, is sent to the route. -/
structure Asks (query : String) (request : HttpRequest) : Prop where
  method : request.method = "POST"
  path : Route.ofPath? request.path = some .calculate
  declared : request.declaredCharset? = some defaultCharset
  body : ∃ text, request.body? = some text ∧ text.utf8ByteSize ≤ bodyLimit ∧
    Json.read? text.toList = some (.object [("query", .string query)])

theorem Asks.json {query : String} {request : HttpRequest} (asks : Asks query request) :
    request.json = .ok (.object [("query", .string query)]) := by
  obtain ⟨text, sent, within, reads⟩ := asks.body
  rw [json_of_declared sent asks.declared within, readText_of_read?_object reads]

theorem Asks.respond {query : String} {request : HttpRequest} (asks : Asks query request)
    (inked : Text.trim query.toList ≠ []) (settings : ApiSettings) (now : Binary64) (a : Agent) :
    (respond settings now a request).response =
        success [("result", .string (a.answerText now query).outcome.text)] ∧
      (respond settings now a request).agent = (a.answerText now query).agent := by
  have found : queryOf? (.object [("query", .string query)]) = some query :=
    queryOf?_eq_some.mpr ⟨rfl, inked⟩
  have serves : Route.calculate.methods.contains request.method = true := by
    rw [asks.method]
    decide
  rw [respond_of_route asks.path serves asks.json, Route.serve, found]
  exact ⟨rfl, rfl⟩

theorem respondAll_eq_talk (settings : ApiSettings) {queries : List String}
    {requests : List (Binary64 × HttpRequest)}
    (ask : List.Forall₂ (fun query request => Asks query request.2) queries requests)
    (inked : ∀ query ∈ queries, Text.trim query.toList ≠ []) (a : Agent) :
    let told := a.talk ((requests.map (·.1)).zip queries)
    (respondAll settings a requests).responses =
        told.1.map (fun text => success [("result", .string text)]) ∧
      (respondAll settings a requests).agent = told.2 := by
  induction ask generalizing a with
  | nil => exact ⟨rfl, rfl⟩
  | @cons query request queries requests asks _ ih =>
    obtain ⟨now, request⟩ := request
    obtain ⟨here, others⟩ := List.forall_mem_cons.mp inked
    obtain ⟨response, agent⟩ := asks.respond here settings now a
    obtain ⟨responses, last⟩ := ih others (a.answerText now query).agent
    simp only [respondAll, response, agent, responses, last]
    exact ⟨rfl, rfl⟩

/-- The object with a question alone, as text. -/
def calculationText (layout : Json.Layout) (query : String) : String :=
  String.ofList ((Json.object [("query", .string query)]).chars layout 0)

def calculation (layout : Json.Layout) (query : String) : HttpRequest :=
  { method := "POST"
    target := "/calculate"
    contentType? := some "application/json"
    body? := some (calculationText layout query) }

theorem asks_calculation {layout : Json.Layout} {query : String}
    (within : (calculationText layout query).utf8ByteSize ≤ bodyLimit) :
    Asks query (calculation layout query) where
  method := rfl
  path := by
    -- Neither this nor what is declared depends on the body, which is not closed.
    show Route.ofPath? (HttpRequest.path ⟨"POST", "/calculate", none, none⟩) = _
    decide +kernel
  declared := by
    show HttpRequest.declaredCharset? ⟨"POST", "/calculate", some "application/json", none⟩ = _
    decide +kernel
  body := by
    have legible : (Json.object [("query", .string query)]).Legible := by
      refine .object (by simp) ?_
      simp only [List.forall_mem_singleton]
      exact .string query
    refine ⟨_, rfl, within, ?_⟩
    rw [calculationText, String.toList_ofList]
    exact Json.read?_chars legible layout

end Web

/-! ## Tools -/

namespace Tool

/-- The call asks for the answer to a question: the arguments have it for their query. -/
structure Asks (query : String) (tool : Tool) (arguments : Option Json) : Prop where
  tool : tool = .calculate
  arguments : ∃ members, arguments = some (.object members) ∧
    Json.lookup? "query" members = some (.string query)

theorem Asks.check {query : String} {tool : Tool} {arguments : Option Json}
    (asks : Asks query tool arguments) (nonempty : query ≠ "") :
    tool.check arguments = .ok (.calculate query) := by
  obtain ⟨rfl, members, rfl, found⟩ := asks
  simp [Tool.check, Json.requireObject, Json.requireText, accept, nonEmptyIssues, found, nonempty,
    bind, Except.bind, pure, Except.pure]

theorem callAll_eq_talk {queries : List String} {calls : List (Binary64 × Tool × Option Json)}
    (ask : List.Forall₂ (fun query call => Asks query call.2.1 call.2.2) queries calls)
    (nonempty : ∀ query ∈ queries, query ≠ "") (a : Agent) :
    let told := a.talk ((calls.map (·.1)).zip queries)
    callAll a calls = (told.1.map .ok, told.2) := by
  induction ask generalizing a with
  | nil => rfl
  | @cons query call queries calls asks _ ih =>
    obtain ⟨now, tool, arguments⟩ := call
    obtain ⟨here, others⟩ := List.forall_mem_cons.mp nonempty
    have later := ih others (a.answerText now query).agent
    simp only [callAll, asks.check here, ToolCall.run, later]
    rfl

end Tool

/-! ## All of them -/

/-- What the front ends make of some questions that an agent is asked.  Each may have times of
    its own. -/
structure FrontEndsAgree (a : Agent) (asked : List (Binary64 × String)) : Prop where
  repl (invitation : String) (now : Binary64) (input : String) :
    Text.Writes input.toList (asked.map (·.2.toList)) →
      let transcript := Repl.run invitation now a input
      transcript.answered = asked.length ∧
        transcript.output = Repl.opening invitation ++
          String.join ((a.talk asked).1.map (Repl.turnText invitation)) ++ Repl.closing ∧
        transcript.agent.undated = (a.talk asked).2.undated
  web (settings : Web.ApiSettings) (requests : List (Binary64 × Web.HttpRequest)) :
    List.Forall₂ (fun query request => Web.Asks query request.2) (asked.map (·.2)) requests →
      let session := Web.respondAll settings a requests
      session.responses =
          (a.talk asked).1.map (fun text => Web.success [("result", .string text)]) ∧
        session.agent.undated = (a.talk asked).2.undated
  tool (calls : List (Binary64 × Tool × Option Json)) :
    List.Forall₂ (fun query call => Tool.Asks query call.2.1 call.2.2) (asked.map (·.2)) calls →
      let called := Tool.callAll a calls
      called.1 = (a.talk asked).1.map .ok ∧ called.2.undated = (a.talk asked).2.undated
  /-- Questions without line ends are the lines of an input. -/
  written : (∀ question ∈ asked, Text.IsOneLine question.2.toList) →
    Text.Writes ((asked.map (·.2.toList)).flatMap (· ++ ['\n'])) (asked.map (·.2.toList))
  /-- Either layout of a body that is within the limit will do. -/
  sent (layout : Json.Layout) : ∀ question ∈ asked,
    (Web.calculationText layout question.2).utf8ByteSize ≤ Web.bodyLimit →
      Web.Asks question.2 (Web.calculation layout question.2)

theorem Agent.length_talk (a : Agent) (asked : List (Binary64 × String)) :
    (a.talk asked).1.length = asked.length := by
  induction asked generalizing a with
  | nil => rfl
  | cons question rest ih => exact congrArg (· + 1) (ih _)

theorem map_snd_zip_times {ι : Type} {calls : List (Binary64 × ι)} {queries : List String}
    (same : queries.length = calls.length) :
    ((calls.map (·.1)).zip queries).map (·.2) = queries :=
  List.map_snd_zip (by rw [List.length_map, same])

/-- Whatever the parts and the history of an agent are, questions that are not blank and end no
    conversation have the same answers through all front ends, and leave the same history, times
    apart. -/
theorem front_ends_agree (a : Agent) (asked : List (Binary64 × String))
    (plain : ∀ question ∈ asked, IsPlain question.2) : FrontEndsAgree a asked where
  repl := by
    intro invitation now input writes
    have lines : Repl.asked input = asked.map (·.2) := by
      apply Repl.asked_of_writes
      · rwa [List.map_map]
      · exact List.forall_mem_map.mpr fun question member => (plain question member).goesOn
    obtain ⟨texts, agent⟩ := Repl.answerAll_eq_talk now a (asked.map (·.2))
    have same : ((asked.map (·.2)).map (now, ·)).map (·.2) = asked.map (·.2) := by
      rw [List.map_map]
      exact List.map_id' _
    -- A conversation has one time for all its lines.
    obtain ⟨texts', agent'⟩ := a.talk_congr same
    simp only [Repl.run, lines, texts, agent, texts', agent', Agent.length_talk]
    exact ⟨trivial, trivial, trivial⟩
  web := by
    intro settings requests ask
    have inked : ∀ query ∈ asked.map (·.2), Text.trim query.toList ≠ [] :=
      List.forall_mem_map.mpr fun question member => (plain question member).trim_ne_nil
    obtain ⟨responses, agent⟩ := Web.respondAll_eq_talk settings ask inked a
    obtain ⟨texts, agent'⟩ := a.talk_congr (map_snd_zip_times ask.length_eq)
    exact ⟨by rw [responses, texts], by rw [agent, agent']⟩
  tool := by
    intro calls ask
    have nonempty : ∀ query ∈ asked.map (·.2), query ≠ "" :=
      List.forall_mem_map.mpr fun question member => (plain question member).ne_empty
    have called := Tool.callAll_eq_talk ask nonempty a
    obtain ⟨texts, agent⟩ := a.talk_congr (map_snd_zip_times ask.length_eq)
    exact ⟨by rw [called, texts], by rw [called, agent]⟩
  written oneLine := Text.writes_feeds (List.forall_mem_map.mpr oneLine)
  sent layout question _ within := Web.asks_calculation within

/-- A result, a command and an error, on lines with ends of three kinds and in requests. -/
theorem front_ends_agree_on_commands :
    let asked : List (Binary64 × String) := [(1, "2 + 2"), (2, "history"), (3, "1 / 0")]
    let requests := asked.map fun question => (question.1 + 7, Web.calculation .compact question.2)
    (∀ question ∈ asked, IsPlain question.2) ∧
      (Repl.run "> " 5 Agent.fresh "2 + 2\r\nhistory\r1 / 0").agent.undated =
        (Web.respondAll .standard Agent.fresh requests).agent.undated := by
  intro asked requests
  have plain : ∀ question ∈ asked, IsPlain question.2 := by decide +kernel
  have agree := front_ends_agree Agent.fresh asked plain
  have writes : Text.Writes "2 + 2\r\nhistory\r1 / 0".toList (asked.map (·.2.toList)) := by
    have written : "2 + 2\r\nhistory\r1 / 0".toList =
        "2 + 2".toList ++ '\r' :: '\n' :: ("history".toList ++ '\r' :: "1 / 0".toList) := by
      decide +kernel
    rw [written]
    refine .returnFeed ?_ (.carriageReturn ?_ ?_ (.unended ?_ ?_)) <;> decide +kernel
  have ask : List.Forall₂ (fun query request => Web.Asks query request.2) (asked.map (·.2))
      requests := by
    have within : ∀ question ∈ asked,
        (Web.calculationText .compact question.2).utf8ByteSize ≤ Web.bodyLimit := by decide +kernel
    rw [List.forall₂_map_left_iff, List.forall₂_map_right_iff, List.forall₂_same]
    exact fun question member => agree.sent .compact question member (within question member)
  exact ⟨plain, (agree.repl "> " 5 _ writes).2.2.trans (agree.web .standard requests ask).2.symm⟩

end Reckoner
