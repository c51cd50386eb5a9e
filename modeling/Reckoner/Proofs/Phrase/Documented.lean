import Reckoner.Proofs.Phrase.Certain
import Reckoner.Proofs.Text.LowerCase

/-! # The documented phrasings

Each documented way to ask is a template of keywords, gaps and literals.  A text is
written after a template in any letter case, with any blanks in its gaps and any
numerals for its literals.  Every such text is read as documented, whatever other
phrasings its words are part of:

* `Template.Writes` — the texts that are written after a template.
* `documented` — the templates, with what each of them asks for.
* `Template.covers_lower` — the sketch of a template covers its texts in lower case.
* `PhraseBook.read_documented` — the request that each of these texts makes.
-/

namespace Reckoner

/-! ## Templates -/

/-- A part of a documented way to ask: a keyword or a sign, a gap of any blanks or none,
    or a literal.  A space in a keyword is one space. -/
inductive TemplatePart where
  | word (spelling : String)
  | gap
  | literal (place : Place)
deriving DecidableEq, Repr

abbrev Template := List TemplatePart

/-- The texts that may be written for a part, given the literals. -/
def TemplatePart.Writes (operands : Place → List Char) : TemplatePart → List Char → Prop
  | word spelling, s => s.map Char.toLower = spelling.toList
  | gap, s => ∀ c ∈ s, Text.isBlank c = true
  | literal place, s => s = operands place

/-- The texts that are written after a template, given the literals. -/
def Template.Writes (operands : Place → List Char) : Template → List Char → Prop
  | [], s => s = []
  | part :: template, s =>
      ∃ written rest, s = written ++ rest ∧ part.Writes operands written ∧
        Writes operands template rest

namespace Template

/-! The shapes of "x plus y", "add x and y", "x squared", "square x", "square of x",
"sqrt(x)", "√x" and "sin x degrees". -/

def amid (operator : String) : Template :=
  [.literal .first, .gap, .word operator, .gap, .literal .second]

def linked (keyword link : String) : Template :=
  [.word keyword, .gap, .literal .first, .gap, .word link, .gap, .literal .second]

def trailing (keyword : String) : Template :=
  [.literal .first, .gap, .word keyword]

def leading (name : String) : Template :=
  [.word name, .gap, .literal .first]

def of (name : String) : Template :=
  [.word name, .gap, .word "of", .gap, .literal .first]

def call (name : String) : Template :=
  [.word name, .gap, .word "(", .gap, .literal .first, .gap, .word ")"]

def sign (sign : String) : Template :=
  [.word sign, .gap, .literal .first]

def degrees (name : Template) : Template :=
  name ++ [.gap, .word "degrees"]

end Template

/-! ## The documented ways to ask -/

inductive Operand where
  | literal (place : Place)
  | exponent (x : Binary64)
deriving DecidableEq

def Operand.value (operands : Place → List Char) : Operand → Binary64
  | literal place => Binary64.read (operands place)
  | exponent x => x

/-- A way to ask, with the operation and the operands that it asks for. -/
structure Documented where
  template : Template
  operation : Operation
  operands : List Operand
deriving DecidableEq

/-- Templates for one operation on the same operands. -/
def asking (operation : Operation) (operands : List Operand) (templates : List Template) :
    List Documented :=
  templates.map fun template => { template, operation, operands }

/-- The ways to write the operand of a function after its name. -/
def ofNames (names : List String) : List Template :=
  names.map .leading ++ names.map .of ++ names.map .call

def documented : List Documented :=
  let x := Operand.literal .first
  let y := Operand.literal .second
  asking .add [x, y]
      (["+", "plus", "add"].map .amid ++
        [.linked "add" "and", .linked "sum" "and", .linked "add" "to", .linked "sum" "to"]) ++
    asking .subtract [x, y] (["-", "minus", "subtract"].map .amid) ++
    asking .subtract [y, x] [.linked "subtract" "from"] ++
    asking .multiply [x, y]
      (["*", "×", "x", "times", "multiply"].map .amid ++
        [.linked "multiply" "by", .linked "multiply" "and"]) ++
    asking .divide [x, y]
      (["/", "÷", "divided by", "divide"].map .amid ++ [.linked "divide" "by"]) ++
    asking .power [x, y]
      (["to the power of", "raised to", "raised to the power of", "power", "**", "^"].map .amid) ++
    asking .square [x, .exponent 2] (.trailing "squared" :: ofNames ["square"]) ++
    asking .cube [x, .exponent 3] (.trailing "cubed" :: ofNames ["cube"]) ++
    asking .sqrt [x] (.sign "√" :: ofNames ["square root", "sqrt"]) ++
    asking .cbrt [x] (.sign "∛" :: ofNames ["cube root", "cbrt"]) ++
    asking .sin [x] (ofNames ["sin", "sine"] ++ (ofNames ["sin", "sine"]).map .degrees) ++
    asking .cos [x] (ofNames ["cos", "cosine"] ++ (ofNames ["cos", "cosine"]).map .degrees) ++
    asking .tan [x] (ofNames ["tan", "tangent"] ++ (ofNames ["tan", "tangent"]).map .degrees) ++
    -- A natural logarithm that is not written "ln" reads as a common one.
    asking .log [x] (ofNames ["log", "logarithm", "natural log"]) ++
    asking .ln [x] (ofNames ["ln"]) ++
    asking .factorial [x] (["factorial", "!"].map .trailing ++ ofNames ["factorial"])

/-! ## Sketches of templates -/

def TemplatePart.sketch : TemplatePart → Sketch
  | word spelling => spelling.toList.map .char
  | gap => [.gap]
  | literal place => [.numeral place]

def Template.sketch (template : Template) : Sketch :=
  template.flatMap TemplatePart.sketch

def signs : List Char :=
  ['×', '÷', '√', '∛']

/-- Whether a keyword has only characters of ASCII and signs. -/
def TemplatePart.isPlain : TemplatePart → Bool
  | word spelling => spelling.toList.all fun c => c.toNat < 128 || signs.contains c
  | gap => true
  | literal _ => true

/-- Whether a way to ask is certain to be read as documented. -/
def Documented.isCertain (entry : Documented) : Bool :=
  (firstSketchFit? entry.template.sketch PhraseBook.standard.entries).any fun fit =>
    fit.operation = entry.operation.name ∧
      entry.operands = fit.inOrder.map .literal ++
        entry.operation.impliedExponent?.toList.map .exponent ∧
      entry.operands.length = entry.operation.operandCount

theorem documented_isCertain : documented.all Documented.isCertain = true := by
  decide +kernel

theorem documented_isPlain :
    (documented.all fun entry => entry.template.all TemplatePart.isPlain) = true := by
  decide +kernel

theorem lowersAlone_of_sign {c : Char} (isSign : c ∈ signs) : Text.LowersAlone c := by
  have checked : (signs.all fun sign => decide (Text.LowersAlone sign)) = true := by
    decide +kernel
  exact of_decide_eq_true (List.all_eq_true.mp checked c isSign)

theorem covers_spelling {operands : Place → List Char} (spelling : List Char) :
    Sketch.Covers operands (spelling.map .char) spelling := by
  induction spelling with
  | nil => rfl
  | cons c spelling ih => exact ⟨[c], spelling, rfl, rfl, ih⟩

section Lower

variable {operands : Place → List Char} (numerals : ∀ place, IsNumeral (operands place))
include numerals

theorem lowersToItself_of_numeral (place : Place) :
    ∀ c ∈ operands place, Text.LowersToItself c := by
  intro c member
  have inNumeral : isDigitOrPoint c = true ∨ c = '-' := by
    obtain ⟨d, rest, split, first, others⟩ := (numerals place).characters
    rw [split] at member
    rcases List.mem_cons.mp member with rfl | inRest
    · exact first.imp_left isDigitOrPoint_of_isDigit
    · exact .inl (others c inRest)
  have bounds := toNat_bounds inNumeral
  have early : c.toNat < 65 := by omega
  exact Text.lowersToItself_of_lt early

theorem TemplatePart.covers_lower {part : TemplatePart} {s : List Char}
    (plain : part.isPlain = true) (writes : part.Writes operands s) :
    (∀ c ∈ s, Text.LowersAlone c) ∧
      Sketch.Covers operands part.sketch (s.map Char.toLower) := by
  have alone {only : Symbol} {s : List Char} (same : ∀ c ∈ s, Text.LowersToItself c)
      (covers : only.Covers operands s) :
      (∀ c ∈ s, Text.LowersAlone c) ∧ Sketch.Covers operands [only] (s.map Char.toLower) := by
    have unchanged : s.map Char.toLower = s :=
      (List.map_congr_left fun c member => (same c member).2).trans (List.map_id s)
    rw [unchanged]
    exact ⟨fun c member => (same c member).1, s, [], by simp, covers, rfl⟩
  cases part with
  | word spelling =>
    refine ⟨fun c member => ?_, ?_⟩
    · apply Text.lowersAlone_of_toLower
      have inSpelling : c.toLower ∈ spelling.toList := writes ▸ List.mem_map_of_mem member
      have known := List.all_eq_true.mp plain c.toLower inSpelling
      rw [Bool.or_eq_true, decide_eq_true_eq, List.contains_iff_mem] at known
      rcases known with ascii | sign
      · exact Text.lowersAlone_of_ascii ascii
      · exact lowersAlone_of_sign sign
    · rw [writes]
      exact covers_spelling spelling.toList
  | gap => exact alone (fun c member => Text.lowersToItself_of_isBlank (writes c member)) writes
  | literal place =>
    cases writes
    exact alone (lowersToItself_of_numeral numerals place) rfl

theorem Template.covers_lower {template : Template} {s : List Char}
    (plain : ∀ part ∈ template, part.isPlain = true) (writes : template.Writes operands s) :
    Sketch.Covers operands template.sketch (Text.lower s) := by
  have lowers : (∀ c ∈ s, Text.LowersAlone c) ∧
      Sketch.Covers operands template.sketch (s.map Char.toLower) := by
    induction template generalizing s with
    | nil =>
      cases writes
      exact ⟨by simp, rfl⟩
    | cons part template ih =>
      obtain ⟨written, rest, rfl, here, later⟩ := writes
      obtain ⟨plainHere, plainLater⟩ := List.forall_mem_cons.mp plain
      obtain ⟨aloneHere, coversHere⟩ := TemplatePart.covers_lower numerals plainHere here
      obtain ⟨aloneLater, coversLater⟩ := ih plainLater later
      refine ⟨List.forall_mem_append.mpr ⟨aloneHere, aloneLater⟩, ?_⟩
      rw [List.map_append]
      exact coversHere.append coversLater
  rw [Text.lower_eq_map lowers.1]
  exact lowers.2

end Lower

/-! ## Reading -/

namespace PhraseBook

/-- A text that is written after a documented template, with literals that are finite
    numbers, is read as the template documents. -/
theorem read_documented (entry : Documented) (isDocumented : entry ∈ documented)
    (operands : Place → List Char) (numerals : ∀ place, IsNumeral (operands place))
    (finite : ∀ place, (Binary64.read (operands place)).isFinite = true)
    (text : String) (writes : entry.template.Writes operands text.toList) :
    standard.read text =
      .ok (some
        { operation := entry.operation.name
          operands := entry.operands.map (Operand.value operands)
          question := text }) := by
  obtain ⟨fit, certain, settled⟩ :=
    (Option.any_eq_true ..).mp (List.all_eq_true.mp documented_isCertain entry isDocumented)
  obtain ⟨named, given, count⟩ := of_decide_eq_true settled
  have plain := List.all_eq_true.mp (List.all_eq_true.mp documented_isPlain entry isDocumented)
  have covers := Template.covers_lower numerals plain writes
  have complete : (fit.inOrder.map fun place => Binary64.read (operands place)).length +
      entry.operation.impliedExponent?.toList.length = entry.operation.operandCount := by
    rw [← count, given]
    simp
  -- What is left to compare is how the operands are named.
  rw [read_of_sketch numerals certain covers finite, named,
    completeOperands_of_captured complete, given]
  simp [List.map_append, Function.comp_def, Operand.value]

theorem writes_gap {operands : Place → List Char} {s : List Char}
    (blank : s.all Text.isBlank = true) : TemplatePart.gap.Writes operands s :=
  List.all_eq_true.mp blank

def literals (x y : String) : Place → List Char
  | .first => x.toList
  | .second => y.toList

/-- Letter case, tabs, empty gaps and a point without digits after it do not matter. -/
theorem read_documented_subtract :
    standard.read "SUBTRACT-3.From\t 10" =
      .ok (some
        { operation := "subtract"
          operands := [Binary64.read "10".toList, Binary64.read "-3.".toList]
          question := "SUBTRACT-3.From\t 10" }) := by
  have numerals : ∀ place, IsNumeral (literals "-3." "10" place) := by
    intro place
    cases place with
    | first =>
      exact .inr ⟨['3', '.'], rfl, '3', [], ['.'], rfl, rfl, by simp, .inr ⟨[], rfl, by simp⟩⟩
    | second => exact .inl ⟨'1', ['0'], [], rfl, rfl, List.all_eq_true.mp rfl, .inl rfl⟩
  have finite : ∀ place, (Binary64.read (literals "-3." "10" place)).isFinite = true := by
    intro place
    cases place <;> decide +kernel
  have writes : Template.Writes (literals "-3." "10") (.linked "subtract" "from")
      "SUBTRACT-3.From\t 10".toList :=
    ⟨"SUBTRACT".toList, _, rfl, rfl, [], _, rfl, writes_gap rfl, "-3.".toList, _, rfl, rfl,
      [], _, rfl, writes_gap rfl, "From".toList, _, rfl, rfl,
      ['\t', ' '], _, rfl, writes_gap rfl, "10".toList, _, rfl, rfl, rfl⟩
  exact read_documented
    { template := .linked "subtract" "from"
      operation := .subtract
      operands := [.literal .second, .literal .first] }
    (by decide +kernel) (literals "-3." "10") numerals finite "SUBTRACT-3.From\t 10" writes

/-- The space in a keyword is no gap: with two spaces in "divided by", a text is not
    read at all. -/
theorem read_divided_gap_by :
    Template.Writes (literals "6" "2")
        [.literal .first, .gap, .word "divided", .gap, .word "by", .gap, .literal .second]
        "6 divided  by 2".toList ∧
      (∀ place, IsNumeral (literals "6" "2" place)) ∧
      (∀ place, (Binary64.read (literals "6" "2" place)).isFinite = true) ∧
      standard.read "6 divided  by 2" = .ok none := by
  refine ⟨?_, ?_, ?_, rfl⟩
  · exact ⟨"6".toList, _, rfl, rfl, [' '], _, rfl, writes_gap rfl,
      "divided".toList, _, rfl, rfl, [' ', ' '], _, rfl, writes_gap rfl,
      "by".toList, _, rfl, rfl, [' '], _, rfl, writes_gap rfl, "2".toList, _, rfl, rfl, rfl⟩
  · intro place
    cases place with
    | first => exact .inl ⟨'6', [], [], rfl, rfl, by simp, .inl rfl⟩
    | second => exact .inl ⟨'2', [], [], rfl, rfl, by simp, .inl rfl⟩
  · intro place
    cases place <;> decide +kernel

end PhraseBook

end Reckoner
