import Reckoner.Proofs.Json.Numbers
import Mathlib.Algebra.BigOperators.Group.List.Basic
import Mathlib.Data.List.DropRight

/-! # What is written is read back

A value that is written in any layout and read again is the same value, whatever characters
its strings hold.  The objects in it may not have two members of one name, which the reader
would make one, and the numbers in it must have a notation of their own.

* `readString?_escaped` — the characters of a string.
* `endsNumber_of_skipSpaces`, `readValue?_of_readNumber?` — a number among other values.
* `Legible` — the values that are read back.
* `Legible.readsBack`, `read?_chars` — a value in a text, and a whole text.
-/

namespace Reckoner.Json

/-! ## Blanks -/

theorem skipSpaces_cons {c : Char} (inked : isSpace c = false) (rest : List Char) :
    skipSpaces (c :: rest) = c :: rest :=
  List.dropWhile_cons_of_neg (by simp [inked])

@[simp] theorem skipSpaces_lineBreak (layout : Layout) (depth : Nat) (rest : List Char) :
    skipSpaces (layout.lineBreak depth ++ rest) = skipSpaces rest := by
  cases layout with
  | compact => rfl
  | pretty =>
    have spaces : ∀ count, skipSpaces (List.replicate count ' ' ++ rest) = skipSpaces rest := by
      intro count
      induction count with
      | zero => rfl
      | succ count ih => exact ih
    exact spaces (2 * depth)

theorem readValue?_skipSpaces (fuel : Nat) (s : List Char) :
    readValue? fuel (skipSpaces s) = readValue? fuel s := by
  cases fuel with
  | zero => rfl
  | succ fuel => rw [readValue?, readValue?, skipSpaces, skipSpaces, List.dropWhile_idempotent]

/-! ## Strings -/

theorem readHex4?_control {n : Nat} (control : n < 32) (rest : List Char) :
    readHex4? ('0' :: '0' :: hexChar (n / 16) :: hexChar (n % 16) :: rest) = some (n, rest) := by
  have digits : ∀ n < 32,
      wholeInBase? 16 ['0', '0', hexChar (n / 16), hexChar (n % 16)] = some n := by decide
  simp [readHex4?, digits n control]

theorem eq_ofNat_of_toNat_eq {c : Char} {n : Nat} (code : c.toNat = n) : c = Char.ofNat n := by
  rw [← code, Char.ofNat_toNat]

/-- Whichever way a character is escaped, it is read back. -/
theorem readString?_escapeChar (fuel : Nat) (c : Char) (rest : List Char) :
    readString? (fuel + 1) (escapeChar c ++ rest) =
      (readString? fuel rest).map fun (cs, left) => (c :: cs, left) := by
  unfold escapeChar
  -- Only the escape by number, the last but one, takes a computation.
  split_ifs with quotes backslash feed returns tab backspace page control
  · subst quotes; rfl
  · subst backslash; rfl
  · subst feed; rfl
  · subst returns; rfl
  · subst tab; rfl
  · rw [eq_ofNat_of_toNat_eq backspace]; rfl
  · rw [eq_ofNat_of_toNat_eq page]; rfl
  · have whole : isHighHalf c.toNat = false ∧ isLowHalf c.toNat = false := by
      simp only [isHighHalf, isLowHalf, Bool.and_eq_false_iff, decide_eq_false_iff_not]
      omega
    simp [readString?, readUnicode?, readHex4?_control control, whole]
  · rw [List.singleton_append, readString?]
    · simp [backslash, control]
    all_goals simp [quotes, backslash]

theorem length_le_length_escaped (cs : List Char) :
    cs.length ≤ (cs.flatMap escapeChar).length := by
  rw [List.length_flatMap, ← List.length_map fun c => (escapeChar c).length]
  apply List.length_le_sum_of_one_le
  simp only [List.mem_map, forall_exists_index, and_imp, forall_apply_eq_imp_iff₂]
  intro c _
  unfold escapeChar
  split_ifs <;> simp

theorem readString?_escaped {fuel : Nat} {cs : List Char} (enough : cs.length < fuel)
    (rest : List Char) :
    readString? fuel (cs.flatMap escapeChar ++ '"' :: rest) = some (cs, rest) := by
  induction cs generalizing fuel with
  | nil =>
    obtain ⟨fuel, rfl⟩ := Nat.exists_eq_succ_of_ne_zero (Nat.ne_zero_of_lt enough)
    rfl
  | cons c cs ih =>
    obtain ⟨fuel, rfl⟩ := Nat.exists_eq_succ_of_ne_zero (Nat.ne_zero_of_lt enough)
    rw [List.flatMap_cons, List.append_assoc, readString?_escapeChar,
      ih (Nat.lt_of_succ_lt_succ enough)]
    rfl

theorem quote_append (s : String) (rest : List Char) :
    quote s ++ rest = '"' :: (s.toList.flatMap escapeChar ++ '"' :: rest) := by
  simp [quote]

/-- The fuel for a string is the length of the text that it stands in. -/
theorem readString?_quote (s : String) (rest : List Char) :
    let written := s.toList.flatMap escapeChar ++ '"' :: rest
    readString? written.length.succ written = some (s.toList, rest) := by
  apply readString?_escaped
  have longer := length_le_length_escaped s.toList
  rw [List.length_append]
  omega

/-! ## Numbers -/

theorem endsNumber_cons {c : Char} (stops : StopsNumber c) (rest : List Char) :
    EndsNumber (c :: rest) := by
  intro d first
  cases first
  exact stops

theorem stopsNumber_of_isSpace {c : Char} (blank : isSpace c = true) : StopsNumber c := by
  simp only [isSpace, Bool.or_eq_true, beq_iff_eq, or_assoc] at blank
  rcases blank with rfl | rfl | rfl | rfl <;> decide

/-- Blanks end a number, and so does what comes after them. -/
theorem endsNumber_of_skipSpaces {s rest : List Char} {c : Char} (begins : skipSpaces s = c :: rest)
    (stops : StopsNumber c) : EndsNumber s := by
  intro d first
  obtain ⟨after, rfl⟩ := List.head?_eq_some_iff.mp first
  cases blank : isSpace d with
  | false =>
    rw [skipSpaces_cons blank, List.cons.injEq] at begins
    exact begins.1 ▸ stops
  | true => exact stopsNumber_of_isSpace blank

/-- A number begins with its sign or with a digit. -/
theorem head_of_readNumber? {s rest : List Char} {x : Binary64}
    (reads : readNumber? s = some (x, rest)) :
    ∃ c after, s = c :: after ∧ (c = '-' ∨ isDigit c = true) := by
  unfold readNumber? at reads
  cases s with
  | nil => simp [spanDigits] at reads
  | cons c after =>
    refine ⟨c, after, rfl, ?_⟩
    by_contra strange
    obtain ⟨unsigned, other⟩ := not_or.mp strange
    simp [spanDigits, unsigned, other] at reads

theorem readValue?_of_readNumber? {s rest : List Char} {x : Binary64} (fuel : Nat)
    (reads : readNumber? s = some (x, rest)) :
    readValue? (fuel + 1) s = some (.number x, rest) := by
  obtain ⟨c, after, rfl, begins⟩ := head_of_readNumber? reads
  have inked : isSpace c = false := by
    by_contra blank
    rw [Bool.not_eq_false] at blank
    rcases begins with rfl | digit
    · exact absurd blank (by decide)
    · exact absurd digit (by simp [(stopsNumber_of_isSpace blank).1])
  rw [readValue?, skipSpaces_cons inked]
  split
  -- The other values begin with characters of their own.
  case h_7 => rw [reads, Option.map_some]
  all_goals
    next otherwise =>
      cases otherwise
      exact absurd begins (by decide)

/-! ## Members -/

theorem setMember_of_not_mem {name : String} {value : Json} {members : List (String × Json)}
    (new : name ∉ members.map (·.1)) :
    setMember name value members = members ++ [(name, value)] := by
  induction members with
  | nil => rfl
  | cons member members ih =>
    rw [List.map_cons, List.mem_cons, not_or] at new
    rw [setMember, if_neg (Ne.symm new.1), ih new.2, List.cons_append]

theorem not_mem_of_nodup {name : String} {value : Json} {earlier later : List (String × Json)}
    (distinct : ((earlier ++ (name, value) :: later).map (·.1)).Nodup) :
    name ∉ earlier.map (·.1) := by
  rw [List.map_append, List.nodup_append] at distinct
  intro old
  exact distinct.2.2 name old name List.mem_cons_self rfl

/-! ## Values -/

/-- The numbers in the value are written as such and are not negative zero, and no object has two
    members of one name. -/
inductive Legible : Json → Prop where
  | null : Legible .null
  | bool (b : Bool) : Legible (.bool b)
  | number {x : Binary64} : x.isFinite = true → x ≠ .zero true → Legible (.number x)
  | string (s : String) : Legible (.string s)
  | array {items : List Json} : (∀ item ∈ items, Legible item) → Legible (.array items)
  | object {members : List (String × Json)} : (members.map (·.1)).Nodup →
      (∀ member ∈ members, Legible member.2) → Legible (.object members)

/-- With fuel for each of its characters the value is read, and what follows it is left. -/
def ReadsBack (layout : Layout) (value : Json) : Prop :=
  ∀ (depth fuel : Nat) (rest : List Char), EndsNumber rest →
    (chars layout depth value).length ≤ fuel →
    readValue? fuel (chars layout depth value ++ rest) = some (value, rest)

section Containers

variable {layout : Layout} {depth fuel : Nat} {rest closing : List Char}

theorem readValue?_lineBreak (layout : Layout) (fuel depth : Nat) (s : List Char) :
    readValue? fuel (layout.lineBreak depth ++ s) = readValue? fuel s := by
  rw [← readValue?_skipSpaces, skipSpaces_lineBreak, readValue?_skipSpaces]

/-- No value begins with a bracket that closes. -/
theorem skipSpaces_ne_of_readValue? {s : List Char} {result : Json × List Char}
    (isRead : readValue? fuel s = some result) (after : List Char) :
    skipSpaces s ≠ ']' :: after := by
  intro closes
  rw [← readValue?_skipSpaces, closes] at isRead
  cases fuel with
  | zero => cases isRead
  | succ fuel => cases isRead

theorem readValue?_array {inside : List Char}
    (goesOn : ∀ after, skipSpaces inside ≠ ']' :: after) :
    readValue? (fuel + 1) ('[' :: inside) =
      (readItems? fuel inside).map fun (items, after) => (.array items, after) := by
  rw [readValue?, skipSpaces_cons (by decide)]
  -- That no bracket closes is what the last case of the match asks for.
  simp only

theorem readValue?_object {inside more : List Char} (begins : skipSpaces inside = '"' :: more) :
    readValue? (fuel + 1) ('{' :: inside) =
      (readMembers? fuel [] ('"' :: more)).map fun (members, after) => (.object members, after) := by
  rw [readValue?, skipSpaces_cons (by decide)]
  simp only [begins]
  rfl

theorem endsNumber_itemsAfter (layout : Layout) (depth : Nat) (items : List Json)
    (ends : EndsNumber closing) : EndsNumber (itemsAfter layout depth items ++ closing) := by
  cases items with
  | nil => exact ends
  | cons item items =>
    simp only [itemsAfter, List.cons_append]
    exact endsNumber_cons (by decide) _

theorem endsNumber_membersAfter (layout : Layout) (depth : Nat)
    (members : List (String × Json)) (ends : EndsNumber closing) :
    EndsNumber (membersAfter layout depth members ++ closing) := by
  cases members with
  | nil => exact ends
  | cons member members =>
    simp only [membersAfter, List.cons_append]
    exact endsNumber_cons (by decide) _

theorem readItems?_chars {item : Json} {items : List Json}
    (closes : skipSpaces closing = ']' :: rest)
    (readsBack : ∀ other ∈ item :: items, ReadsBack layout other)
    (enough : (chars layout depth item).length + (itemsAfter layout depth items).length < fuel) :
    readItems? fuel (layout.lineBreak depth ++
        (chars layout depth item ++ (itemsAfter layout depth items ++ closing))) =
      some (item :: items, rest) := by
  induction items generalizing item fuel with
  | nil =>
    obtain ⟨fuel, rfl⟩ := Nat.exists_eq_succ_of_ne_zero (Nat.ne_zero_of_lt enough)
    have ends := endsNumber_of_skipSpaces closes (by decide)
    have reads := readsBack item List.mem_cons_self depth fuel closing ends (by omega)
    rw [readItems?, readValue?_lineBreak, itemsAfter, List.nil_append, reads]
    simp only [closes]
  | cons next items ih =>
    obtain ⟨fuel, rfl⟩ := Nat.exists_eq_succ_of_ne_zero (Nat.ne_zero_of_lt enough)
    obtain ⟨here, later⟩ := List.forall_mem_cons.mp readsBack
    simp only [itemsAfter, List.length_append, List.length_cons] at enough
    have ends := endsNumber_itemsAfter layout depth (next :: items)
      (endsNumber_of_skipSpaces closes (by decide))
    have reads := here depth fuel _ ends (by omega)
    have less : (chars layout depth next).length + (itemsAfter layout depth items).length < fuel := by
      omega
    have others := ih later less
    rw [readItems?, readValue?_lineBreak, reads]
    simp only [itemsAfter, List.cons_append, List.append_assoc]
    rw [skipSpaces_cons (by decide)]
    simp only [others, Option.map_some]

theorem readsBack_array {items : List Json} (readsBack : ∀ item ∈ items, ReadsBack layout item) :
    ReadsBack layout (.array items) := by
  intro depth fuel rest ends enough
  obtain ⟨fuel, rfl⟩ : ∃ less, fuel = less + 1 := by
    cases items <;> exact Nat.exists_eq_add_one.mpr (Nat.zero_lt_of_lt enough)
  cases items with
  | nil => rfl
  | cons item items =>
    simp only [chars, List.cons_append, List.length_cons, List.length_append, List.append_assoc,
      List.nil_append] at enough ⊢
    have closes : skipSpaces (layout.lineBreak depth ++ ']' :: rest) = ']' :: rest := by
      rw [skipSpaces_lineBreak, skipSpaces_cons (by decide)]
    have ends := endsNumber_itemsAfter layout (depth + 1) items
      (endsNumber_of_skipSpaces closes (by decide))
    have first := readsBack item List.mem_cons_self (depth + 1) fuel _ ends (by omega)
    have begins := readValue?_lineBreak layout fuel (depth + 1)
    rw [← begins] at first
    -- The list is not taken for an empty one, since its first item is read.
    rw [readValue?_array (skipSpaces_ne_of_readValue? first),
      readItems?_chars closes readsBack (by omega), Option.map_some]

theorem readMembers?_lineBreak (fuel depth : Nat) (read : List (String × Json)) (s : List Char) :
    readMembers? fuel read (layout.lineBreak depth ++ s) = readMembers? fuel read s := by
  cases fuel with
  | zero => rfl
  | succ fuel => rw [readMembers?, readMembers?, skipSpaces_lineBreak]

theorem readValue?_afterColon (layout : Layout) (fuel : Nat) (s : List Char) :
    ∃ after, skipSpaces (layout.colon ++ s) = ':' :: after ∧
      readValue? fuel after = readValue? fuel s := by
  cases layout with
  | compact => exact ⟨s, rfl, rfl⟩
  | pretty =>
    refine ⟨' ' :: s, rfl, ?_⟩
    rw [← readValue?_skipSpaces fuel s, ← readValue?_skipSpaces]
    rfl

/-- One member, with what comes after its value. -/
theorem readMembers?_member {name : String} {value : Json} {read : List (String × Json)}
    (new : name ∉ read.map (·.1)) (readsBack : ReadsBack layout value) (ends : EndsNumber closing)
    (enough : (chars layout depth value).length ≤ fuel) (left : List Char) :
    (skipSpaces closing = ',' :: left →
        readMembers? (fuel + 1) read
            (quote name ++ (layout.colon ++ (chars layout depth value ++ closing))) =
          readMembers? fuel (read ++ [(name, value)]) left) ∧
      (skipSpaces closing = '}' :: left →
        readMembers? (fuel + 1) read
            (quote name ++ (layout.colon ++ (chars layout depth value ++ closing))) =
          some (read ++ [(name, value)], left)) := by
  obtain ⟨after, begins, reads⟩ :=
    readValue?_afterColon layout fuel (chars layout depth value ++ closing)
  rw [readsBack depth fuel closing ends enough] at reads
  rw [readMembers?, quote_append, skipSpaces_cons (by decide)]
  simp only [readString?_quote, begins, reads, String.ofList_toList, setMember_of_not_mem new]
  constructor <;> (intro follows; simp only [follows])

theorem readMembers?_chars {name : String} {value : Json} {read members : List (String × Json)}
    (closes : skipSpaces closing = '}' :: rest)
    (distinct : ((read ++ (name, value) :: members).map (·.1)).Nodup)
    (readsBack : ∀ member ∈ (name, value) :: members, ReadsBack layout member.2)
    (enough : (chars layout depth value).length + (membersAfter layout depth members).length <
      fuel) :
    readMembers? fuel read (layout.lineBreak depth ++ (quote name ++ (layout.colon ++
        (chars layout depth value ++ (membersAfter layout depth members ++ closing))))) =
      some (read ++ (name, value) :: members, rest) := by
  induction members generalizing name value read fuel with
  | nil =>
    obtain ⟨fuel, rfl⟩ := Nat.exists_eq_succ_of_ne_zero (Nat.ne_zero_of_lt enough)
    have here : ReadsBack layout value := readsBack (name, value) List.mem_cons_self
    rw [readMembers?_lineBreak, membersAfter, List.nil_append]
    have ends := endsNumber_of_skipSpaces closes (by decide)
    exact (readMembers?_member (not_mem_of_nodup distinct) here ends (by omega) rest).2 closes
  | cons next members ih =>
    obtain ⟨fuel, rfl⟩ := Nat.exists_eq_succ_of_ne_zero (Nat.ne_zero_of_lt enough)
    have here : ReadsBack layout value := readsBack (name, value) List.mem_cons_self
    have later := (List.forall_mem_cons.mp readsBack).2
    simp only [membersAfter, List.length_append, List.length_cons] at enough
    -- The name is new, so the member is set behind those that are read already.
    have new := not_mem_of_nodup distinct
    rw [List.append_cons] at distinct
    have less : (chars layout depth next.2).length + (membersAfter layout depth members).length <
        fuel := by omega
    have others := ih distinct later less
    rw [List.append_assoc, List.singleton_append] at others
    rw [readMembers?_lineBreak]
    have ends := endsNumber_membersAfter layout depth (next :: members)
      (endsNumber_of_skipSpaces closes (by decide))
    refine ((readMembers?_member new here ends (by omega) _).1 ?_).trans others
    simp only [membersAfter, List.cons_append, List.append_assoc]
    rw [skipSpaces_cons (by decide)]

theorem readsBack_object {members : List (String × Json)}
    (distinct : (members.map (·.1)).Nodup)
    (readsBack : ∀ member ∈ members, ReadsBack layout member.2) :
    ReadsBack layout (.object members) := by
  intro depth fuel rest ends enough
  obtain ⟨fuel, rfl⟩ : ∃ less, fuel = less + 1 := by
    cases members <;> exact Nat.exists_eq_add_one.mpr (Nat.zero_lt_of_lt enough)
  cases members with
  | nil => rfl
  | cons member members =>
    simp only [chars, List.cons_append, List.length_cons, List.length_append, List.append_assoc,
      List.nil_append] at enough ⊢
    have closes : skipSpaces (layout.lineBreak depth ++ '}' :: rest) = '}' :: rest := by
      rw [skipSpaces_lineBreak, skipSpaces_cons (by decide)]
    have enough' : (chars layout (depth + 1) member.2).length +
        (membersAfter layout (depth + 1) members).length < fuel := by omega
    have distinct' : (([] ++ member :: members).map Prod.fst).Nodup := distinct
    have reads := readMembers?_chars closes distinct' readsBack enough'
    rw [readMembers?_lineBreak, quote_append] at reads
    rw [quote_append, readValue?_object (by rw [skipSpaces_lineBreak, skipSpaces_cons (by decide)]),
      reads, List.nil_append, Option.map_some]

theorem readValue?_quote (fuel : Nat) (s : String) (rest : List Char) :
    readValue? (fuel + 1) (quote s ++ rest) = some (.string s, rest) := by
  rw [quote_append, readValue?, skipSpaces_cons (by decide)]
  simp only [readString?_quote, Option.map_some, String.ofList_toList]

end Containers

theorem Legible.readsBack {value : Json} (legible : value.Legible) (layout : Layout) :
    ReadsBack layout value := by
  induction legible with
  | null =>
    intro depth fuel rest ends enough
    obtain ⟨fuel, rfl⟩ := Nat.exists_eq_add_one.mpr (Nat.zero_lt_of_lt enough)
    rfl
  | bool b =>
    intro depth fuel rest ends enough
    obtain ⟨fuel, rfl⟩ : ∃ less, fuel = less + 1 := by
      cases b <;> exact Nat.exists_eq_add_one.mpr (Nat.zero_lt_of_lt enough)
    cases b <;> rfl
  | number finite signless =>
    intro depth fuel rest ends enough
    have alone : EndsNumber [] := nofun
    obtain ⟨c, after, written, -⟩ :=
      head_of_readNumber? (readNumber?_numberChars finite signless alone)
    obtain ⟨fuel, rfl⟩ : ∃ less, fuel = less + 1 := by
      rw [chars, ← List.append_nil (numberChars _), written, List.length_cons] at enough
      exact Nat.exists_eq_add_one.mpr (Nat.zero_lt_of_lt enough)
    exact readValue?_of_readNumber? fuel (readNumber?_numberChars finite signless ends)
  | string s =>
    intro depth fuel rest ends enough
    obtain ⟨fuel, rfl⟩ := Nat.exists_eq_add_one.mpr (Nat.zero_lt_of_lt enough)
    exact readValue?_quote fuel s rest
  | array _ ih => exact readsBack_array ih
  | object distinct _ ih => exact readsBack_object distinct ih

/-- A legible value that is written in a layout is what the text is read as. -/
theorem read?_chars {value : Json} (legible : value.Legible) (layout : Layout) :
    read? (value.chars layout 0) = some value := by
  have ends : EndsNumber [] := nofun
  have reads :=
    legible.readsBack layout 0 (2 * (value.chars layout 0).length + 2) [] ends (by omega)
  rw [List.append_nil] at reads
  simp [read?, reads, skipSpaces]

end Reckoner.Json
