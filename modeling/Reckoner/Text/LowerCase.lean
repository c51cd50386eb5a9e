import Reckoner.Text.CaseTable

/-!
# Lower case

The full lower-case mapping of the Unicode Standard, without a language.

* `lowerChar`: the mapping of one character, which can yield two.
* `lower`: the mapping of a text, where a capital sigma that ends a word
  becomes the final small sigma.
* `startsWith`, `contains`: search for one text in another.
-/

namespace Reckoner.Text

/-! ## One character -/

/-- The lower case of a single character.  The dotted capital `İ` alone becomes
    two characters. -/
def lowerChar (c : Char) : List Char :=
  let n := c.toNat
  if n < 0x80 then
    if 65 ≤ n && n ≤ 90 then [Char.ofNat (n + 32)] else [c]
  else if n == 0x130 then ['i', '\u0307']
  else
    match lowerRanges.findSome? (·.lower? n) with
    | some m => [Char.ofNat m]
    | none => [c]

/-- Whether the character is a letter with case. -/
def isCased (c : Char) : Bool :=
  inRanges casedRanges c.toNat

/-- Whether the character is passed over when its neighbours are looked at. -/
def isCaseIgnorable (c : Char) : Bool :=
  inRanges caseIgnorableRanges c.toNat

/-! ## A text -/

/-- Whether the first character that is not passed over has case. -/
def startsCased : List Char → Bool
  | [] => false
  | c :: rest => if isCaseIgnorable c then startsCased rest else isCased c

/-- The lower case of a text that comes after a cased letter, or not, as
    `afterCased` says. -/
def lowerAfter : Bool → List Char → List Char
  | _, [] => []
  | afterCased, c :: rest =>
      let image :=
        if c = 'Σ' then
          if afterCased && !startsCased rest then ['ς'] else ['σ']
        else lowerChar c
      image ++ lowerAfter (if isCaseIgnorable c then afterCased else isCased c) rest

/-- The lower case of a text. -/
def lower (s : List Char) : List Char :=
  lowerAfter false s

/-! ## Search -/

/-- Whether `s` begins with `start`. -/
def startsWith (s start : List Char) : Bool :=
  start.isPrefixOf s

/-- Whether `needle` stands somewhere in `s`. -/
def contains : List Char → List Char → Bool
  | [], needle => needle.isEmpty
  | c :: rest, needle => startsWith (c :: rest) needle || contains rest needle

end Reckoner.Text
