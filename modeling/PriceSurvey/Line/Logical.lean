import PriceSurvey.Line.Shape

/-!
# Logical lines

What is to be read as one line may stand on several: a name is often broken off and its prices
follow below. Lines of text gather until a line with prices completes them. A blank line or a ruler
ends what has gathered, and stands for itself.

* `raws_ofLines`: no line is lost, repeated, moved or changed.
-/
namespace PriceSurvey

open Text

/-- Lines that make one text: the lines as they stand, and the text. -/
structure Block where
  raws : List String
  text : List Char
  deriving DecidableEq, Repr

/-- Where lines are asked for, a block stands for its lines. -/
instance : Coe Block (List String) := ⟨Block.raws⟩

/-- Lines that are read as one: a blank line alone, or lines that hold something. -/
inductive LogicalLine where
  | blank (raw : String)
  | lines (block : Block)
  deriving DecidableEq, Repr

/-- Lines of text that wait for their prices: as they stand, and trimmed. -/
structure Pending where
  raws : List String := []
  texts : List (List Char) := []
  deriving DecidableEq, Repr

namespace LogicalLine

def raws : LogicalLine → List String
  | .blank raw => [raw]
  | .lines block => block

/-- The evidence: the lines as they stand, with bars between them. -/
def raw (g : LogicalLine) : String := " | ".intercalate g.raws

def text : LogicalLine → List Char
  | .blank _ => []
  | .lines block => block.text

end LogicalLine

namespace Pending

def push (p : Pending) (raw : String) (text : List Char) : Pending :=
  ⟨p.raws ++ [raw], p.texts ++ [text]⟩

/-- The logical line of the lines that wait, if there are any: their texts with blanks between
them. -/
def close (p : Pending) : List LogicalLine :=
  if p.raws.isEmpty then [] else [.lines ⟨p.raws, [' '].intercalate p.texts⟩]

end Pending

namespace LogicalLine

/-- The logical lines of a list, behind the lines of text that wait before it. -/
def gather (pending : Pending) : List String → List LogicalLine
  | [] => pending.close
  | raw :: rest =>
    let text := trim raw.toList
    match LineShape.ofTrimmed text with
    | .blank => pending.close ++ .blank raw :: gather {} rest
    | .priced => (pending.push raw text).close ++ gather {} rest
    | .ruler => pending.close ++ .lines ⟨[raw], text⟩ :: gather {} rest
    | .text => gather (pending.push raw text) rest

def ofLines (lines : List String) : List LogicalLine := gather {} lines

theorem raws_close (pending : Pending) : pending.close.flatMap raws = pending.raws := by
  obtain ⟨raws, texts⟩ := pending
  cases raws <;> simp [Pending.close, LogicalLine.raws]

theorem raws_gather (pending : Pending) (lines : List String) :
    (gather pending lines).flatMap raws = pending.raws ++ lines := by
  induction lines generalizing pending with
  | nil => simp [gather, raws_close]
  | cons raw rest ih =>
    simp only [gather]
    split <;> simp [raws_close, raws, Pending.push, ih]

theorem raws_ofLines (lines : List String) : (ofLines lines).flatMap raws = lines :=
  raws_gather {} lines

end LogicalLine

end PriceSurvey
