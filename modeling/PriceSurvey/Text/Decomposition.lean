import PriceSurvey.Text.Table.Class
import PriceSurvey.Text.Table.Styled
import PriceSurvey.Text.Table.DecompositionLatin
import PriceSurvey.Text.Table.DecompositionGeneral
import PriceSurvey.Text.Table.DecompositionEast
import PriceSurvey.Text.Table.DecompositionForm
import PriceSurvey.Text.Table.DecompositionIdeograph

/-!
# Compatibility decomposition

The Unicode normalization form NFKD: every character is replaced by its full compatibility
decomposition, and then the combining marks behind one base character are put into the order of
their combining classes. Marks of one class keep their order.
-/
namespace PriceSurvey.Text

/-! ## Decomposing one character -/

/-- The code points of a packed row, five hexadecimal digits each, put before `done`. -/
def unpackOnto : Nat → Nat → List Nat → List Nat
  | 0, _, done => done
  | fuel + 1, n, done =>
    if n = 0 then done else unpackOnto fuel (n / 0x100000) (n % 0x100000 :: done)

/-- A packed row as the character and its decomposition. No row has more than twenty code points. -/
def unpackRow (n : Nat) : Nat × List Nat :=
  match unpackOnto 20 n [] with
  | [] => (0, [])
  | c :: parts => (c, parts)

/-- The decompositions that follow no rule, in ascending order. -/
def decompositionRows : List (Nat × List Nat) :=
  (packedLatin ++ packedGeneral ++ packedEast ++ packedForm ++ packedIdeograph).map unpackRow

/-- The row of a code point. The search ends at the first row beyond it. -/
def findRow? : List (Nat × List Nat) → Nat → Option (List Nat)
  | [], _ => none
  | (c, parts) :: rest, n =>
    if n < c then none else if n = c then some parts else findRow? rest n

def findPlain? : List StyledRun → Nat → Option Nat
  | [], _ => none
  | r :: rest, n =>
    if n < r.first then none
    else if n ≤ r.last then some (r.plain + (n - r.first))
    else findPlain? rest n

/-- The letters of a Hangul syllable: a leading consonant, a vowel, and a trailing consonant unless
it is the empty one. Syllables are numbered by these three, the last running fastest. -/
def hangulLetters? (n : Nat) : Option (List Nat) :=
  if n < 0xAC00 ∨ 0xD7A3 < n then none
  else
    let k := n - 0xAC00
    let body := [0x1100 + k / 588, 0x1161 + k % 588 / 28]
    some (if k % 28 = 0 then body else body ++ [0x11A7 + k % 28])

/-- The full compatibility decomposition of a character, which is most often itself. -/
def decompose (c : Char) : List Char :=
  match hangulLetters? c.toNat with
  | some parts => parts.map Char.ofNat
  | none =>
    match findPlain? styledRuns c.toNat with
    | some n => [Char.ofNat n]
    | none =>
      match findRow? decompositionRows c.toNat with
      | some parts => parts.map Char.ofNat
      | none => [c]

/-! ## The order of marks -/

def findRank : List ClassRow → Nat → Nat
  | [], _ => 0
  | r :: rest, n =>
    if n < r.first then 0 else if n ≤ r.last then r.rank else findRank rest n

/-- The canonical combining class: zero for a character that starts a new base. -/
def combiningRank (c : Char) : Nat := findRank classRows c.toNat

/-- Puts `c` before an ordered text, behind the marks of lower rank that it belongs after. -/
def insertMark (c : Char) : List Char → List Char
  | [] => [c]
  | d :: rest =>
    if combiningRank d ≠ 0 ∧ combiningRank d < combiningRank c then d :: insertMark c rest
    else c :: d :: rest

/-- Orders the marks behind each base by their rank. -/
def orderMarks : List Char → List Char
  | [] => []
  | c :: rest => insertMark c (orderMarks rest)

def decomposeText (cs : List Char) : List Char := orderMarks (cs.flatMap decompose)

end PriceSurvey.Text
