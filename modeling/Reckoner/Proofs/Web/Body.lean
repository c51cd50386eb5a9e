import Reckoner.Proofs.Json.RoundTrip
import Reckoner.Web.Api

/-! # Bodies that are accepted

A body that is declared to be JSON in the character set that is meant by default, and is within
the limit, is what its text is read as.

* `readText_of_read?_object` — a text that writes an object.
* `json_of_declared` — the value of a request.
* `queryOf?_eq_some` — the question in it.
* `respond_of_route` — the exchange of a request that its route serves.
-/

namespace Reckoner

namespace Json

/-- Only a text that begins with a brace writes an object. -/
theorem skipSpaces_of_readValue?_object {fuel : Nat} {s rest : List Char}
    {members : List (String × Json)} (isRead : readValue? fuel s = some (.object members, rest)) :
    ∃ inside, skipSpaces s = '{' :: inside := by
  cases fuel with
  | zero => cases isRead
  | succ fuel =>
    rw [readValue?] at isRead
    split at isRead
    next => simp at isRead
    next => split at isRead <;> simp at isRead
    next inside begins => exact ⟨inside, begins⟩
    all_goals simp at isRead

theorem skipSpaces_of_read?_object {s : List Char} {members : List (String × Json)}
    (isRead : read? s = some (.object members)) : ∃ inside, skipSpaces s = '{' :: inside := by
  unfold read? at isRead
  split at isRead
  next value after reads =>
    split_ifs at isRead
    cases isRead
    exact skipSpaces_of_readValue?_object reads
  · cases isRead

end Json

namespace Web

/-- A text that writes an object has no byte order mark before it. -/
theorem readText_of_read?_object {text : String} {members : List (String × Json)}
    (isRead : Json.read? text.toList = some (.object members)) :
    readText .utf8 text = .ok (.object members) := by
  obtain ⟨inside, begins⟩ := Json.skipSpaces_of_read?_object isRead
  have unmarked : withoutMark text.toList = text.toList := by
    unfold withoutMark
    split
    next rest marked =>
      rw [marked, Json.skipSpaces_cons (by decide)] at begins
      cases begins
    · rfl
  have container : readContainer? text.toList = some (.object members) := by
    simp only [readContainer?, begins, isRead]
  cases written : text.toList with
  | nil =>
    rw [written] at begins
    cases begins
  | cons c cs =>
    rw [written] at unmarked container
    simp only [readText, written, unmarked, container, Option.elim]

theorem json_of_declared {request : HttpRequest} {text : String} (sent : request.body? = some text)
    (declared : request.declaredCharset? = some defaultCharset)
    (within : text.utf8ByteSize ≤ bodyLimit) : request.json = readText .utf8 text := by
  have known : Charset.ofName? defaultCharset = some .utf8 := by decide +kernel
  have unicode : defaultCharset.startsWith "utf-" = true := by decide +kernel
  simp only [HttpRequest.json, sent, declared, readDeclared, unicode, known]
  simp [Nat.not_lt.mpr within]

theorem queryOf?_eq_some {body : Json} {query : String} :
    queryOf? body = some query ↔
      body.member? "query" = some (.string query) ∧ Text.trim query.toList ≠ [] := by
  cases member : body.member? "query" with
  | none => simp [queryOf?, member]
  | some value =>
    cases value with
    | string text =>
      simp only [queryOf?, member, List.isEmpty_iff, Option.some.injEq, Json.string.injEq]
      constructor
      · intro found
        split_ifs at found with blank
        cases found
        exact ⟨rfl, blank⟩
      · rintro ⟨rfl, inked⟩
        rw [if_neg inked]
    | _ => simp [queryOf?, member]

theorem respond_of_route {request : HttpRequest} {route : Route} {body : Json}
    (atPath : Route.ofPath? request.path = some route)
    (serves : route.methods.contains request.method = true) (isJson : request.json = .ok body)
    (settings : ApiSettings) (now : Binary64) (a : Agent) :
    respond settings now a request =
      { route.serve settings now a request body with
        log := requestRecord request :: (route.serve settings now a request body).log } := by
  simp only [respond, isJson, dispatch, atPath, serves, if_true]

end Web

end Reckoner
