import PriceSurvey.Amount.Spacing

/-!
# Amounts in a text

An amount is a number, or a number with thousands groups joined to it by single separators: a
blank, a no-break blank or an apostrophe. Whether a lone blank separates thousands or amounts
cannot be seen from it. So a series of numbers is read from the left, and each amount takes what it
can: three integer digits behind a separator go to the amount before them. Only a series of three
numbers apart from each other is three amounts however they are written. The first three amounts of
one series are a price triple.

* `Amount.text_join`: joining a number keeps the text between.
* `Series.amounts_ne_nil`: a series has at least one amount.
-/
namespace PriceSurvey

/-! ## Amounts -/

open Amount in
/-- A number with the thousands groups joined to it, each behind the text of its separator. -/
structure Amount where
  head : Numeral
  groups : List (List Char × Numeral)
  deriving DecidableEq, Repr

namespace Amount

def single (t : Numeral) : Amount := ⟨t, []⟩

/-- Code points before the amount. -/
def start (a : Amount) : Nat := a.head.start

def text (a : Amount) : List Char :=
  a.head.text ++ a.groups.flatMap fun (gap, t) => gap ++ t.text

/-- Code points before the end of the amount. -/
def stop (a : Amount) : Nat := a.start + a.text.length

def last (a : Amount) : Numeral := (a.groups.getLast?.map (·.2)).getD a.head

/-- Puts a number behind the amount. -/
def join (a : Amount) (gap : List Char) (t : Numeral) : Amount :=
  { a with groups := a.groups ++ [(gap, t)] }

/-- The number behind the gap is the next thousands group of the amount. -/
def takes (a : Amount) (gap : List Char) (t : Numeral) : Bool :=
  a.head.canLead && !a.last.isDecimal && (Spacing.ofText gap).canJoin && t.isThousands

theorem text_join (a : Amount) (gap : List Char) (t : Numeral) :
    (a.join gap t).text = a.text ++ gap ++ t.text := by simp [join, text]

@[simp] theorem last_join (a : Amount) (gap : List Char) (t : Numeral) : (a.join gap t).last = t := by
  simp [join, last]

/-! ## Series -/

/-- Numbers that only blanks and separators part: the first, and each further one behind the text
between. -/
structure Series where
  first : Numeral
  rest : List (List Char × Numeral)
  deriving DecidableEq, Repr

/-- The series of numbers, given each number with the text behind it. -/
def Series.ofItems : List (Numeral × List Char) → List Series
  | [] => []
  | (t, gap) :: rest =>
    match Series.ofItems rest with
    | [] => [⟨t, []⟩]
    | r :: others =>
      if Spacing.ofText gap = .ending then ⟨t, []⟩ :: r :: others
      else ⟨t, (gap, r.first) :: r.rest⟩ :: others

/-- The amounts of the numbers behind an amount that may still grow. -/
def regroup (a : Amount) : List (List Char × Numeral) → List Amount
  | [] => [a]
  | (gap, t) :: rest =>
    if a.takes gap t then regroup (a.join gap t) rest else a :: regroup (single t) rest

/-- The amounts of a series: each takes as many numbers as it can. -/
def Series.amounts (r : Series) : List Amount := regroup (single r.first) r.rest

theorem Series.amounts_ne_nil (r : Series) : r.amounts ≠ [] := by
  obtain ⟨first, rest⟩ := r
  rw [Series.amounts]
  generalize single first = a
  induction rest generalizing a with
  | nil => simp [regroup]
  | cons p rest ih =>
    simp only [regroup]
    split
    · exact ih _
    · simp

/-! ## Price triples -/

/-- The least, the mean and the greatest price of a line. -/
structure Triple where
  low : Amount
  mean : Amount
  high : Amount
  deriving DecidableEq, Repr

/-- A series of exactly three numbers, apart from each other and none with a needless zero in front,
is a triple of single numbers. -/
def Series.threeNumbers? (r : Series) : Option Triple :=
  match r.rest with
  | [(g, b), (h, c)] =>
    if (Spacing.ofText g).canPart && (Spacing.ofText h).canPart &&
        !r.first.isZeroLed && !b.isZeroLed && !c.isZeroLed then
      some ⟨single r.first, single b, single c⟩
    else none
  | _ => none

/-- The triple of a series: its first three amounts, or its three numbers. -/
def Series.triple? (r : Series) : Option Triple :=
  match r.amounts with
  | a :: b :: c :: _ => some ⟨a, b, c⟩
  | _ => r.threeNumbers?

/-! ## Whole texts -/

/-- What a text holds: every amount from left to right, and the first price triple. -/
structure Found where
  amounts : List Amount
  triple : Option Triple
  deriving DecidableEq, Repr

def seriesIn (cs : List Char) : List Series := Series.ofItems (Layout.ofText cs).items

def find (cs : List Char) : Found :=
  let rs := seriesIn cs
  ⟨rs.flatMap Series.amounts, rs.findSome? Series.triple?⟩

/-! ## Places -/

def before (a : Amount) (cs : List Char) : List Char := cs.take a.start

def after (a : Amount) (cs : List Char) : List Char := cs.drop a.stop

end Amount

end PriceSurvey
