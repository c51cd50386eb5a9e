import Reckoner.History
import Reckoner.Proofs.Text.Sigma
import Mathlib.Data.List.Basic

/-! # Searching a history

What is searched for is the lower case of the keyword, in the lower cases of the queries and the
results.  A keyword can stand in a query without its lower case standing there, but only if one of
its capital sigmas wavers.

* `Entry.Quotes` — the entries that hold a text as it is written.
* `History.mem_search`, `search_congr` — what is found, and what it depends on.
* `History.search_laws` — the order of what is found, and the keywords for which nothing is missed.
-/

namespace Reckoner

theorem Text.contains_iff_infix {s needle : List Char} :
    Text.contains s needle = true ↔ needle <:+: s := by
  induction s with
  | nil => rw [Text.contains, List.isEmpty_iff, List.infix_nil]
  | cons c s ih =>
    rw [Text.contains, Bool.or_eq_true, ih, Text.startsWith, List.isPrefixOf_iff_prefix,
      List.infix_cons_iff]

/-- The text stands in the query or in the result, as it is written. -/
def Entry.Quotes (entry : Entry) (s : String) : Prop :=
  s.toList <:+: entry.query.toList ∨ s.toList <:+: entry.result.toList

namespace History

variable {h : History} {entry : Entry} {keyword keyword' : String}

theorem mentions_iff :
    mentions keyword entry = true ↔
      Text.lower keyword.toList <:+: Text.lower entry.query.toList ∨
        Text.lower keyword.toList <:+: Text.lower entry.result.toList := by
  rw [mentions, Bool.or_eq_true, Text.contains_iff_infix, Text.contains_iff_infix]

theorem mem_search :
    entry ∈ h.search keyword ↔ entry ∈ h.entries ∧ mentions keyword entry = true :=
  List.mem_filter

theorem search_congr (same : Text.lower keyword.toList = Text.lower keyword'.toList)
    (h : History) : h.search keyword = h.search keyword' := by
  have alike : mentions keyword = mentions keyword' := by
    funext entry
    rw [mentions, mentions, same]
  rw [search, search, alike]

theorem lower_toLower (s : String) : Text.lower s.toLower.toList = Text.lower s.toList := by
  have letters : s.toLower.toList = s.toList.map Char.toLower := String.toList_map
  rw [letters, Text.lower_map_toLower]

theorem search_sublist_of_infix
    (inside : Text.lower keyword.toList <:+: Text.lower keyword'.toList) (h : History) :
    (h.search keyword').Sublist (h.search keyword) := by
  refine List.monotone_filter_right h.entries fun entry mentioned => ?_
  rw [mentions_iff] at mentioned ⊢
  exact mentioned.imp inside.trans inside.trans

/-! ## Keywords that are found wherever they stand -/

/-- An entry that holds nothing but a text. -/
def echo (text : String) : Entry :=
  { query := text, result := text, operationType := defaultOperationType, timestamp := .nan }

/-- A history with such an entry. -/
def echoing (text : String) : History :=
  (new 1 Nat.one_pos).record (echo text)

theorem echo_mem (text : String) : echo text ∈ (echoing text).entries :=
  List.mem_singleton_self _

theorem echo_mem_search {text : String} :
    echo text ∈ (echoing text).search keyword ↔
      Text.lower keyword.toList <:+: Text.lower text.toList := by
  rw [mem_search, mentions_iff, echo, or_self]
  exact and_iff_right (echo_mem text)

theorem settled_iff_finds :
    Text.Settled keyword.toList ↔
      ∀ h : History, ∀ entry ∈ h.entries, entry.Quotes keyword → entry ∈ h.search keyword := by
  constructor
  · intro settled h entry held quotes
    have mentioned := mentions_iff.mpr (quotes.imp settled.lower_infix settled.lower_infix)
    exact mem_search.mpr ⟨held, mentioned⟩
  · intro finds
    refine Text.settled_iff_infix.mpr fun text part => ?_
    -- An entry with nothing but the text tells whether the keyword is found in it.
    have quotes : (echo (String.ofList text)).Quotes keyword := by
      left
      rwa [echo, String.toList_ofList]
    have found := echo_mem_search.mp (finds _ _ (echo_mem _) quotes)
    rwa [String.toList_ofList] at found

theorem settled_iff_shrinks :
    Text.Settled keyword.toList ↔
      ∀ (h : History) (before after : String),
        (h.search (before ++ keyword ++ after)).Sublist (h.search keyword) := by
  constructor
  · intro settled h before after
    refine search_sublist_of_infix (settled.lower_infix ?_) h
    rw [String.toList_append, String.toList_append]
    exact List.infix_append ..
  · intro shrinks
    refine Text.settled_iff_infix.mpr ?_
    rintro _ ⟨before, after, rfl⟩
    let text := String.ofList before ++ keyword ++ String.ofList after
    have fewer := shrinks (echoing text) (String.ofList before) (String.ofList after)
    have found := echo_mem_search.mp (fewer.subset (echo_mem_search.mpr (List.infix_refl _)))
    rwa [String.toList_append, String.toList_append, String.toList_ofList,
      String.toList_ofList] at found

/-- Whatever the history is, what is found stands in the order in which it was recorded and does
    not depend on the letter case of ASCII.  The settled keywords are those that are found in every
    entry that quotes them, and those that find all that is found with more text around them. -/
theorem search_laws (keyword : String) :
    (∀ h : History, (h.search keyword).Sublist h.entries) ∧
      (∀ (h : History) (keyword' : String), keyword'.toLower = keyword.toLower →
        h.search keyword' = h.search keyword) ∧
      (Text.Settled keyword.toList ↔
        ∀ h : History, ∀ entry ∈ h.entries, entry.Quotes keyword → entry ∈ h.search keyword) ∧
      (Text.Settled keyword.toList ↔
        ∀ (h : History) (before after : String),
          (h.search (before ++ keyword ++ after)).Sublist (h.search keyword)) := by
  refine ⟨fun h => List.filter_sublist, fun h keyword' same => search_congr ?_ h,
    settled_iff_finds, settled_iff_shrinks⟩
  rw [← lower_toLower keyword', same, lower_toLower]

/-- The capital sigma at the end of a word is a final one, and is not found by itself. -/
theorem search_misses_sigma :
    let entry : Entry :=
      { query := "ΑΣ", result := "1", operationType := "calculation", timestamp := 0 }
    let h := (new 100 (by decide)).record entry
    entry ∈ h.entries ∧ entry.Quotes "Σ" ∧ h.search "Σ" = [] ∧
      h.search ("Α" ++ "Σ" ++ "") = [entry] := by
  intro entry h
  have quotes : "Σ".toList <:+: "ΑΣ".toList := ⟨['Α'], [], rfl⟩
  exact ⟨List.mem_singleton_self _, .inl quotes, by decide +kernel, by decide +kernel⟩

end History

end Reckoner
