import Reckoner.Proofs.History.Dated
import Reckoner.Proofs.History.Recent
import Reckoner.Proofs.Table
import Reckoner.Proofs.Web.Body

/-! # Views of the newest entries

The text of the history, the table of the tool, the list of the JSON API and the document of the
resource are four views of the newest entries up to a limit.

* `Texts.Lists` — the entries in the text, a line for each.
* `Json.ListsSent` — the entries in the JSON views, which need the calendar to cover all their times.
* `Web.AsksRecent`, `Web.respond_recent` — the requests for such a list.
* `Agent.Shows`, `Agent.recent_views` — under one limit the views show the same entries in the same
  order.
-/

namespace Reckoner

/-! ## The text -/

namespace Texts

def historyTitle : String :=
  "Calculation History:"

/-- The lines of the text that are about entries. -/
def numbered (entries : List Entry) : List String :=
  entries.zipIdx.map fun (entry, place) => historyLine entry place

/-- The text is a numbered list of the entries, in their order. -/
structure Lists (entries : List Entry) (text : String) : Prop where
  empty : entries = [] → text = emptyHistory
  written : entries ≠ [] → text = joinLines (historyTitle :: rule :: numbered entries)
  line (place : Nat) : (numbered entries)[place]? =
    (entries[place]?).map fun entry =>
      toString (place + 1) ++ ". " ++ entry.query ++ " = " ++ entry.result
  lines : entries ≠ [] →
    (∀ entry ∈ entries, '\n' ∉ entry.query.toList ∧ '\n' ∉ entry.result.toList) →
    text.toList.splitOn '\n' =
      historyTitle.toList :: rule.toList :: (numbered entries).map String.toList

theorem history_eq {entries : List Entry} (some : entries ≠ []) :
    history entries = joinLines (historyTitle :: rule :: numbered entries) := by
  rw [history, List.isEmpty_eq_false_iff.mpr some]
  rfl

theorem feed_not_mem_rule : '\n' ∉ rule.toList := by
  unfold rule
  rw [String.toList_ofList]
  intro member
  exact absurd (List.eq_of_mem_replicate member) (by decide)

theorem historyLine_eq (entry : Entry) (place : Nat) :
    historyLine entry place =
      toString (place + 1) ++ ". " ++ entry.query ++ " = " ++ entry.result := rfl

theorem feed_not_mem_historyLine {entry : Entry} (query : '\n' ∉ entry.query.toList)
    (result : '\n' ∉ entry.result.toList) (place : Nat) :
    '\n' ∉ (historyLine entry place).toList := by
  have digits := not_mem_toDigits (c := '\n') rfl (place + 1)
  simp [historyLine_eq, digits, query, result]

theorem history_lists (entries : List Entry) : Lists entries (history entries) where
  empty none := by
    rw [none]
    rfl
  written := history_eq
  line place := by
    rw [numbered, List.getElem?_map, List.getElem?_zipIdx, Option.map_map, Nat.zero_add]
    simp only [Function.comp_def, historyLine_eq]
  lines some oneLine := by
    have title : '\n' ∉ historyTitle.toList := by decide
    rw [history_eq some]
    refine lines_joinLines (List.cons_ne_nil _ _) ?_
    simp only [List.forall_mem_cons]
    refine ⟨title, feed_not_mem_rule, List.forall_mem_map.mpr fun numbered member => ?_⟩
    obtain ⟨query, result⟩ := oneLine numbered.1 (List.fst_mem_of_mem_zipIdx member)
    exact feed_not_mem_historyLine query result numbered.2

end Texts

/-! ## The JSON views -/

/-- The value is an object with a list of what is sent of the entries, in their order. -/
def Json.ListsSent (entries : List Entry) (value : Json) : Prop :=
  ∃ items, value.member? "history" = some (.array items) ∧ List.Forall₂ Entry.SentAs entries items

namespace Web

/-- The request asks for the newest entries, and for as many as the limit allows. -/
structure AsksRecent (settings : ApiSettings) (limit : Binary64) (request : HttpRequest) :
    Prop where
  method : request.method = "GET"
  path : Route.ofPath? request.path = some .history
  body : ∃ body, request.json = .ok body
  limit : (limitOf? request.query).map (·.getD settings.historyLimit) = some limit

theorem respond_recent {settings : ApiSettings} {limit : Binary64} {request : HttpRequest}
    (asks : AsksRecent settings limit request) (now : Binary64) (a : Agent) :
    (respond settings now a request).response =
      (listing a request (a.history.recent (some limit))).response := by
  obtain ⟨body, isJson⟩ := asks.body
  obtain ⟨limit?, isLimit, isGiven⟩ := Option.map_eq_some_iff.mp asks.limit
  have serves : Route.history.methods.contains request.method = true := by
    rw [asks.method]
    decide
  rw [respond_of_route asks.path serves isJson]
  simp only [Route.serve, isLimit, isGiven]

end Web

/-! ## All views -/

/-- Under the limit each view of the agent shows these entries, in this order.  Where the calendar
    does not cover all their times, there is no JSON view. -/
structure Agent.Shows (a : Agent) (limit : Binary64) (shown : List Entry) : Prop where
  text : Texts.Lists shown (a.historyText limit)
  noTable (now : Binary64) : shown = [] →
    ((ToolCall.getHistory (some limit)).run now a).text = Texts.emptyHistory
  table (now : Binary64) : shown ≠ [] →
    ((ToolCall.getHistory (some limit)).run now a).text =
      ToolCall.recentTitle shown.length ++ "\n" ++ Table.body shown
  rows : (∀ entry ∈ shown, entry.IsPlain) → Table.Lists shown (Table.body shown)
  json : (∀ entry ∈ shown, entry.dated? ≠ none) →
    (∀ settings now request, Web.AsksRecent settings limit request →
      (Web.respond settings now a request).response.status = Web.statusOk ∧
      ∃ value, (Web.respond settings now a request).response.content = .json value ∧
        value.ListsSent shown) ∧
    ∃ value, Resource.json? a.history limit = some value ∧ value.ListsSent shown
  noJson : (∃ entry ∈ shown, entry.dated? = none) →
    (∀ settings now request, Web.AsksRecent settings limit request →
      (Web.respond settings now a request).response = Web.serverError) ∧
    Resource.json? a.history limit = none

namespace Agent

theorem shows_recent (a : Agent) (limit : Binary64) :
    a.Shows limit (a.history.recent (some limit)) where
  text := Texts.history_lists _
  noTable now none := by simp [ToolCall.run, none]
  table now some := by rw [ToolCall.text_of_listed rfl some, Table.ofEntries_eq]
  rows := Table.body_lists
  json covered := by
    obtain ⟨dated, isDated, sent⟩ := datedEntries?_covered covered
    refine ⟨fun settings now request asks => ?_, ?_⟩
    · rw [Web.respond_recent asks, Web.listing, isDated]
      exact ⟨rfl, _, rfl, _, rfl, sent⟩
    · rw [Resource.json?, isDated]
      exact ⟨_, rfl, _, rfl, sent⟩
  noJson uncovered := by
    have none := datedEntries?_uncovered uncovered
    refine ⟨fun settings now request asks => ?_, ?_⟩
    · rw [Web.respond_recent asks, Web.listing, none]
      rfl
    · rw [Resource.json?, none]
      rfl

/-- Whatever an agent holds, a limit leaves the beginning of all its entries, newest first, as long
    as its whole part says; and the views show what the limit leaves. -/
theorem recent_views (a : Agent) :
    a.history.Limits ∧ ∀ limit, a.Shows limit (a.history.recent (some limit)) :=
  ⟨a.history.limits, a.shows_recent⟩

/-- The newer of two answers, asked for over HTTP. -/
theorem recent_views_newer :
    let older := (fresh.answer 0 (.text "1 + 1")).agent
    let a := (older.answer 1 (.text "2 + 2")).agent
    let request : Web.HttpRequest := ⟨"GET", "/history?limit=1", none, none⟩
    a.history.count = 2 ∧ Web.AsksRecent .standard 1 request ∧
      ∃ value, (Web.respond .standard 2 a request).response.content = .json value ∧
        value.member? "history" = some (.array [.object
          [("query", .string "2 + 2"), ("result", .string "4"), ("operation_type", .string "add"),
            ("timestamp", .string "1970-01-01T00:00:00.001Z")]]) := by
  intro older a request
  have asks : Web.AsksRecent .standard 1 request := by
    refine ⟨rfl, by decide +kernel, ⟨_, rfl⟩, by decide +kernel⟩
  obtain ⟨-, views⟩ := recent_views a
  have newest : a.history.recent (some 1) = [⟨"2 + 2", "4", "add", 1⟩] := by decide +kernel
  have dated : Entry.dated? ⟨"2 + 2", "4", "add", 1⟩ =
      some ⟨"2 + 2", "4", "add", "1970-01-01T00:00:00.001Z"⟩ := by
    decide +kernel
  have shows := views 1
  rw [newest] at shows
  obtain ⟨web, -⟩ := shows.json (by simp [dated])
  obtain ⟨-, value, isValue, items, lists, each⟩ := web .standard 2 request asks
  obtain rfl : items = [_] :=
    List.right_unique_forall₂' Entry.rightUnique_sentAs each (.cons (Entry.sentAs_json dated) .nil)
  exact ⟨by decide +kernel, asks, value, isValue, lists⟩

end Agent

end Reckoner
