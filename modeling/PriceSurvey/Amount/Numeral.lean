import PriceSurvey.Text.Class

/-!
# Numbers in a text

A number is a maximal run of decimal digits that touches no word character on either side, with a
decimal point or comma and one to four more digits where these are not followed by a word
character either. `Layout.ofText` cuts a text at its numbers and loses nothing:

* `Layout.text_ofText`: the pieces, put together again, are the text.
-/
namespace PriceSurvey.Amount

open Text

/-- A number as written, and the code points before it: its integer digits, and its decimal tail,
which is empty or a mark with the digits behind it. -/
structure Numeral where
  start : Nat
  whole : List Char
  tail : List Char
  deriving DecidableEq, Repr

namespace Numeral

def text (t : Numeral) : List Char := t.whole ++ t.tail

def isDecimal (t : Numeral) : Bool := !t.tail.isEmpty

/-- Its integer part starts with a zero that does not stand alone. -/
def isZeroLed (t : Numeral) : Bool := t.whole.head? == some '0' && decide (1 < t.whole.length)

/-- It can follow a thousands separator. -/
def isThousands (t : Numeral) : Bool := t.whole.length == 3

/-- It can stand before a thousands separator as the first group of its amount. -/
def canLead (t : Numeral) : Bool := !t.isDecimal && !t.isZeroLed && decide (t.whole.length ≤ 3)

end Numeral

/-! ## Reading one number -/

/-- A word ends here: the text is at its end or goes on with no word character. -/
def atWordEnd : List Char → Bool
  | [] => true
  | c :: _ => !isWord c

/-- The decimal tail at the front of a text, if there is one, and the rest. -/
def splitTail (cs : List Char) : List Char × List Char :=
  match cs with
  | [] => ([], [])
  | mark :: after =>
    let digits := after.takeWhile isDigit
    let rest := after.dropWhile isDigit
    if (mark = '.' ∨ mark = ',') ∧ 1 ≤ digits.length ∧ digits.length ≤ 4 ∧ atWordEnd rest = true then
      (mark :: digits, rest)
    else ([], mark :: after)

/-- The number at the front of a text that does not go on a word: its integer digits, its decimal
tail and the rest. -/
def splitNumber? (cs : List Char) : Option (List Char × List Char × List Char) :=
  let whole := cs.takeWhile isDigit
  let after := cs.dropWhile isDigit
  if whole.isEmpty then none
  else
    let (tail, rest) := splitTail after
    if tail.isEmpty && !atWordEnd after then none else some (whole, tail, rest)

theorem splitTail_append (cs : List Char) : (splitTail cs).1 ++ (splitTail cs).2 = cs := by
  cases cs with
  | nil => rfl
  | cons mark after =>
    simp only [splitTail]
    split <;> simp

theorem splitNumber?_append {cs whole tail rest : List Char}
    (h : splitNumber? cs = some (whole, tail, rest)) : whole ++ tail ++ rest = cs := by
  simp only [splitNumber?] at h
  split at h
  · cases h
  · split at h
    · cases h
    · simp only [Option.some.injEq, Prod.mk.injEq] at h
      obtain ⟨rfl, rfl, rfl⟩ := h
      rw [List.append_assoc, splitTail_append, List.takeWhile_append_dropWhile]

theorem splitNumber?_whole_ne_nil {cs whole tail rest : List Char}
    (h : splitNumber? cs = some (whole, tail, rest)) : whole ≠ [] := by
  simp only [splitNumber?] at h
  split at h
  · cases h
  · rename_i hne
    split at h
    · cases h
    · simp only [Option.some.injEq, Prod.mk.injEq] at h
      obtain ⟨rfl, rfl, rfl⟩ := h
      simpa using hne

theorem splitNumber?_length {cs whole tail rest : List Char}
    (h : splitNumber? cs = some (whole, tail, rest)) : rest.length < cs.length := by
  have hne := List.length_pos_iff.2 (splitNumber?_whole_ne_nil h)
  rw [← splitNumber?_append h]
  simp only [List.length_append]
  omega

/-! ## Cutting a text at its numbers -/

/-- A text cut at its numbers: what stands before the first one, and each number with what follows
it up to the next. -/
structure Layout where
  lead : List Char
  items : List (Numeral × List Char)
  deriving DecidableEq, Repr

namespace Layout

/-- The text that was cut. -/
def text (l : Layout) : List Char := l.lead ++ l.items.flatMap fun (t, gap) => t.text ++ gap

def push (c : Char) (l : Layout) : Layout := { l with lead := c :: l.lead }

def pushNumeral (t : Numeral) (l : Layout) : Layout := ⟨[], (t, l.lead) :: l.items⟩

/-- Cuts the part of a text that stands behind `start` code points. `inWord` says that the code
point just before it is a word character, so that no number starts here. -/
def cut (start : Nat) (inWord : Bool) (cs : List Char) : Layout :=
  match cs with
  | [] => ⟨[], []⟩
  | c :: after =>
    if inWord then (cut (start + 1) (isWord c) after).push c
    else
      match _h : splitNumber? (c :: after) with
      | none => (cut (start + 1) (isWord c) after).push c
      | some (whole, tail, rest) =>
        (cut (start + whole.length + tail.length) true rest).pushNumeral ⟨start, whole, tail⟩
  termination_by cs.length
  decreasing_by
    · simp
    · simp
    · exact splitNumber?_length _h

def ofText (cs : List Char) : Layout := cut 0 false cs

@[simp] theorem text_push (c : Char) (l : Layout) : (l.push c).text = c :: l.text := rfl

@[simp] theorem text_pushNumeral (t : Numeral) (l : Layout) :
    (l.pushNumeral t).text = t.text ++ l.text := by simp [text, pushNumeral, Numeral.text]

theorem text_cut (start : Nat) (inWord : Bool) (cs : List Char) :
    (cut start inWord cs).text = cs := by
  fun_induction cut start inWord cs with
  | case1 => rfl
  | case2 _ c after ih => simp [ih]
  | case3 _ _ c after _ _ ih => simp [ih]
  | case4 _ _ c after _ whole tail rest h ih =>
    simp [ih, Numeral.text, ← splitNumber?_append h]

theorem text_ofText (cs : List Char) : (ofText cs).text = cs := text_cut 0 false cs

end Layout

end PriceSurvey.Amount
