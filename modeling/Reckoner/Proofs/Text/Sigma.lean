import Reckoner.Proofs.Text.LowerCase

/-! # The lower case of a part

The lower case of a part of a text stands in the lower case of the whole, unless a capital sigma of
the part becomes another small sigma there.

* `lowerBetween`, `lower_part` — the lower case of a part, as what stands around it decides.
* `Wavers` — the capital sigmas of a part that depend on what stands around it.
* `Settled`, `settled_iff_infix` — the parts without them are those whose lower case stands in that
  of every whole.
-/

namespace Reckoner.Text

/-! ## What stands around -/

/-- Whether the last character that is not passed over has case; if there is none, `afterCased`
    says it. -/
def endsCased (afterCased : Bool) : List Char → Bool
  | [] => afterCased
  | c :: rest => endsCased (if isCaseIgnorable c then afterCased else isCased c) rest

/-- Whether the first character that is not passed over has case; if there is none, `beforeCased`
    says it. -/
def opensCased (beforeCased : Bool) : List Char → Bool
  | [] => beforeCased
  | c :: rest => if isCaseIgnorable c then opensCased beforeCased rest else isCased c

/-- The lower case of a text that comes after a cased letter, or not, and before one, or not. -/
def lowerBetween (afterCased beforeCased : Bool) : List Char → List Char
  | [] => []
  | c :: rest =>
      let image :=
        if c = 'Σ' then
          if afterCased && !opensCased beforeCased rest then ['ς'] else ['σ']
        else lowerChar c
      image ++ lowerBetween (if isCaseIgnorable c then afterCased else isCased c) beforeCased rest

theorem opensCased_false (s : List Char) : opensCased false s = startsCased s := by
  induction s with
  | nil => rfl
  | cons c s ih => rw [opensCased, startsCased, ih]

theorem lowerBetween_false (afterCased : Bool) (s : List Char) :
    lowerBetween afterCased false s = lowerAfter afterCased s := by
  induction s generalizing afterCased with
  | nil => rfl
  | cons c s ih => rw [lowerBetween, lowerAfter, ih, opensCased_false]

theorem endsCased_append (afterCased : Bool) (s t : List Char) :
    endsCased afterCased (s ++ t) = endsCased (endsCased afterCased s) t := by
  induction s generalizing afterCased with
  | nil => rfl
  | cons c s ih => rw [List.cons_append, endsCased, endsCased, ih]

theorem opensCased_append (beforeCased : Bool) (s t : List Char) :
    opensCased beforeCased (s ++ t) = opensCased (opensCased beforeCased t) s := by
  induction s with
  | nil => rfl
  | cons c s ih => rw [List.cons_append, opensCased, opensCased, ih]

theorem lowerBetween_append (afterCased beforeCased : Bool) (s t : List Char) :
    lowerBetween afterCased beforeCased (s ++ t) =
      lowerBetween afterCased (opensCased beforeCased t) s ++
        lowerBetween (endsCased afterCased s) beforeCased t := by
  induction s generalizing afterCased with
  | nil => rfl
  | cons c s ih =>
    rw [List.cons_append, lowerBetween, lowerBetween, ih, opensCased_append, endsCased,
      List.append_assoc]

/-- The lower case of a whole has that of each part in it, as the part is lowered there. -/
theorem lower_part (before s after : List Char) :
    lower (before ++ s ++ after) =
      lowerBetween false (opensCased (startsCased after) s) before ++
          lowerBetween (endsCased false before) (startsCased after) s ++
        lowerAfter (endsCased false (before ++ s)) after := by
  rw [lower, ← lowerBetween_false, lowerBetween_append, lowerBetween_append, lowerBetween_false,
    opensCased_false]

/-! ## Texts that are passed over -/

/-- Nothing of the text counts for the sigmas around it. -/
def IsPassedOver (s : List Char) : Prop :=
  ∀ c ∈ s, isCaseIgnorable c = true

section PassedOver

variable {s : List Char}

theorem endsCased_of_isPassedOver (ignored : IsPassedOver s) (afterCased : Bool) :
    endsCased afterCased s = afterCased := by
  induction s with
  | nil => rfl
  | cons c s ih =>
    obtain ⟨first, others⟩ := List.forall_mem_cons.mp ignored
    rw [endsCased, if_pos first, ih others]

theorem opensCased_of_isPassedOver (ignored : IsPassedOver s) (beforeCased : Bool) :
    opensCased beforeCased s = beforeCased := by
  induction s with
  | nil => rfl
  | cons c s ih =>
    obtain ⟨first, others⟩ := List.forall_mem_cons.mp ignored
    rw [opensCased, if_pos first, ih others]

theorem endsCased_of_not_isPassedOver (counts : ¬ IsPassedOver s) (afterCased : Bool) :
    endsCased afterCased s = endsCased false s := by
  induction s generalizing afterCased with
  | nil => exact absurd (List.forall_mem_nil _) counts
  | cons c s ih =>
    rw [endsCased, endsCased]
    by_cases first : isCaseIgnorable c = true
    · have others : ¬ IsPassedOver s := fun ignored =>
        counts (List.forall_mem_cons.mpr ⟨first, ignored⟩)
      rw [if_pos first, if_pos first, ih others]
    · rw [if_neg first, if_neg first]

theorem opensCased_of_not_isPassedOver (counts : ¬ IsPassedOver s) (beforeCased : Bool) :
    opensCased beforeCased s = opensCased false s := by
  induction s with
  | nil => exact absurd (List.forall_mem_nil _) counts
  | cons c s ih =>
    rw [opensCased, opensCased]
    by_cases first : isCaseIgnorable c = true
    · have others : ¬ IsPassedOver s := fun ignored =>
        counts (List.forall_mem_cons.mpr ⟨first, ignored⟩)
      rw [if_pos first, if_pos first, ih others]
    · rw [if_neg first, if_neg first]

end PassedOver

theorem not_isCaseIgnorable_sigma : isCaseIgnorable 'Σ' = false :=
  not_isCaseIgnorable_letter (.inr (.inr rfl))

theorem isCased_sigma : isCased 'Σ' = true := by
  decide

theorem lowerBetween_of_isPassedOver {s : List Char} (ignored : IsPassedOver s)
    (afterCased beforeCased : Bool) :
    lowerBetween afterCased beforeCased s = s.flatMap lowerChar := by
  induction s with
  | nil => rfl
  | cons c s ih =>
    obtain ⟨first, others⟩ := List.forall_mem_cons.mp ignored
    have notSigma : c ≠ 'Σ' := by
      rintro rfl
      rw [not_isCaseIgnorable_sigma] at first
      cases first
    rw [lowerBetween, if_neg notSigma, if_pos first, ih others, List.flatMap_cons]

theorem lowerBetween_sigma (afterCased beforeCased : Bool) (rest : List Char) :
    lowerBetween afterCased beforeCased ('Σ' :: rest) =
      (if afterCased && !opensCased beforeCased rest then 'ς' else 'σ') ::
        lowerBetween true beforeCased rest := by
  rw [lowerBetween, not_isCaseIgnorable_sigma, isCased_sigma]
  cases afterCased && !opensCased beforeCased rest <;> rfl

/-! ## Sigmas that waver -/

/-- Whether a capital sigma between these two parts of a text is lowered in one way where the text
    stands alone and in another where it stands in a longer one: nothing before it counts and no
    cased letter follows, or nothing behind it counts and a cased letter comes before. -/
def Wavers (before after : List Char) : Prop :=
  (IsPassedOver before ∧ startsCased after = false) ∨
    (IsPassedOver after ∧ endsCased false before = true)

/-- No capital sigma of the text wavers. -/
def Settled (s : List Char) : Prop :=
  ∀ before after, s = before ++ 'Σ' :: after → ¬ Wavers before after

/-- Only a capital sigma can waver. -/
theorem settled_of_not_mem {s : List Char} (none : 'Σ' ∉ s) : Settled s := by
  rintro before after rfl
  simp at none

theorem final_eq_of_not_wavers {before after : List Char} (steady : ¬ Wavers before after)
    (afterCased beforeCased : Bool) :
    (endsCased afterCased before && !opensCased beforeCased after) =
      (endsCased false before && !opensCased false after) := by
  obtain ⟨first, last⟩ := not_or.mp steady
  rw [← opensCased_false, not_and, Bool.not_eq_false] at first
  rw [not_and, Bool.not_eq_true] at last
  -- A side that is passed over leaves the decision to what stands around the whole text, and there
  -- the other side has decided already that the sigma is not final.
  by_cases overBefore : IsPassedOver before
  · by_cases overAfter : IsPassedOver after
    · have opens := first overBefore
      rw [opensCased_of_isPassedOver overAfter] at opens
      cases opens
    · rw [opensCased_of_not_isPassedOver overAfter, first overBefore, Bool.not_true,
        Bool.and_false, Bool.and_false]
  · rw [endsCased_of_not_isPassedOver overBefore]
    by_cases overAfter : IsPassedOver after
    · rw [last overAfter, Bool.false_and, Bool.false_and]
    · rw [opensCased_of_not_isPassedOver overAfter]

/-- Behind a part `before` of a settled text, what is left is lowered as it is in the text alone. -/
theorem lowerBetween_of_settled {before s : List Char} (settled : Settled (before ++ s))
    (afterCased beforeCased : Bool) :
    lowerBetween (endsCased afterCased before) beforeCased s =
      lowerBetween (endsCased false before) false s := by
  induction s generalizing before with
  | nil => rfl
  | cons c s ih =>
    -- What is left is lowered behind one character more of the same settled text.
    have later := ih (by rwa [List.append_assoc] : Settled ((before ++ [c]) ++ s))
    rw [endsCased_append, endsCased_append] at later
    simp only [endsCased] at later
    rw [lowerBetween, lowerBetween, later]
    by_cases sigma : c = 'Σ'
    · subst sigma
      rw [final_eq_of_not_wavers (settled before s rfl)]
    · rw [if_neg sigma, if_neg sigma]

theorem Settled.lower_infix {s t : List Char} (settled : Settled s) (part : s <:+: t) :
    lower s <:+: lower t := by
  obtain ⟨before, after, rfl⟩ := part
  have alone : Settled ([] ++ s) := settled
  have same : lowerBetween (endsCased false before) (startsCased after) s = lower s := by
    rw [lower, ← lowerBetween_false]
    exact lowerBetween_of_settled alone (endsCased false before) (startsCased after)
  rw [lower_part, same]
  exact List.infix_append ..

/-! ## Texts that are not settled -/

theorem lowerBetween_cut (afterCased beforeCased : Bool) (before after : List Char) :
    lowerBetween afterCased beforeCased (before ++ 'Σ' :: after) =
      lowerBetween afterCased true before ++
        (if endsCased afterCased before && !opensCased beforeCased after then 'ς' else 'σ') ::
          lowerBetween true beforeCased after := by
  have opens : opensCased beforeCased ('Σ' :: after) = true := by
    rw [opensCased, not_isCaseIgnorable_sigma, isCased_sigma]
    rfl
  rw [lowerBetween_append, opens, lowerBetween_sigma]

theorem lowerBetween_letter (afterCased : Bool) (rest : List Char) :
    lowerBetween afterCased false ('a' :: rest) = 'a' :: lowerBetween true false rest := by
  have image : lowerChar 'a' = ['a'] := (lowersAlone_of_ascii (by decide)).2
  have ignorable : isCaseIgnorable 'a' = false := not_isCaseIgnorable_letter (by decide)
  have cased : isCased 'a' = true := isCased_letter (by decide)
  rw [lowerBetween, image, ignorable, cased]
  rfl

theorem lower_cons_letter (s : List Char) :
    lower ('a' :: s) = 'a' :: lowerBetween true false s := by
  rw [lower, ← lowerBetween_false, lowerBetween_letter]

theorem lower_append_letter (s : List Char) :
    lower (s ++ ['a']) = lowerBetween false true s ++ ['a'] := by
  have opens : opensCased false ['a'] = true := by
    rw [opensCased, not_isCaseIgnorable_letter (by decide), isCased_letter (by decide)]
    rfl
  rw [lower, ← lowerBetween_false, lowerBetween_append, lowerBetween_letter, opens, lowerBetween]

/-- Behind a letter the first sigma of the text is the final one, and there is a `σ` less. -/
theorem not_infix_cons_letter {before after : List Char} (ignored : IsPassedOver before)
    (closes : startsCased after = false) :
    ¬ lower (before ++ 'Σ' :: after) <:+: lower ('a' :: (before ++ 'Σ' :: after)) := by
  intro inside
  -- The lower case of the text would keep all its `σ`, but the one that the sigma becomes is lost.
  have fewer := inside.sublist.count_le 'σ'
  rw [lower_cons_letter, lower, ← lowerBetween_false, lowerBetween_cut, lowerBetween_cut,
    lowerBetween_of_isPassedOver ignored, lowerBetween_of_isPassedOver ignored,
    endsCased_of_isPassedOver ignored, endsCased_of_isPassedOver ignored, opensCased_false,
    closes] at fewer
  simp only [List.count_append, List.count_cons, Bool.not_false, Bool.and_self, Bool.and_true,
    Bool.false_eq_true, if_true, if_false, Char.reduceBEq] at fewer
  omega

/-- Before a letter the last sigma of the text is no final one, and there is a `ς` less. -/
theorem not_infix_append_letter {before after : List Char} (ignored : IsPassedOver after)
    (closes : endsCased false before = true) :
    ¬ lower (before ++ 'Σ' :: after) <:+: lower ((before ++ 'Σ' :: after) ++ ['a']) := by
  intro inside
  have fewer := inside.sublist.count_le 'ς'
  rw [lower_append_letter, lower, ← lowerBetween_false, lowerBetween_cut, lowerBetween_cut,
    lowerBetween_of_isPassedOver ignored, lowerBetween_of_isPassedOver ignored,
    opensCased_of_isPassedOver ignored, opensCased_of_isPassedOver ignored, closes] at fewer
  simp only [List.count_append, List.count_cons, List.count_nil, Bool.not_false, Bool.not_true,
    Bool.and_self, Bool.and_false, Bool.false_eq_true, if_true, if_false, Char.reduceBEq] at fewer
  omega

/-- The settled texts are those whose lower case stands in that of every text in which they
    stand. -/
theorem settled_iff_infix {s : List Char} :
    Settled s ↔ ∀ t, s <:+: t → lower s <:+: lower t := by
  refine ⟨fun settled _ => settled.lower_infix, ?_⟩
  rintro inside before after rfl (⟨ignored, closes⟩ | ⟨ignored, closes⟩)
  · exact not_infix_cons_letter ignored closes (inside _ (List.suffix_cons ..).isInfix)
  · exact not_infix_append_letter ignored closes (inside _ (List.prefix_append ..).isInfix)

end Reckoner.Text
