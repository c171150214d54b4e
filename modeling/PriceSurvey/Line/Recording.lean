import PriceSurvey.Request.Action
import PriceSurvey.Text.Quoted

/-!
# Recording lines

Lines that were read are put behind the evidence as they are; nothing is ever changed there. Where
the table of evidence is missing nothing is written.
-/
namespace PriceSurvey

open Text

/-- Where lines are from, as it is shown in the log. -/
def showSource : Option String → String
  | none => "None"
  | some s => "Some(" ++ quote s ++ ")"

/-- Records lines as evidence and gives the number of rows written. -/
def PriceLine.recordAll (lines : List PriceLine) (source : Option String) : Action Nat :=
  if lines.isEmpty then .done 0
  else do
    let present : Bool ← .request .evidenceTable
    if present then
      let written : Nat ← .request (.append lines source)
      .log .debug .evidence
        ("recorded " ++ toString written ++ " parsed lines (source: " ++ showSource source ++ ")")
      return written
    else
      .log .warn .evidence
        ("evidence table couche_b.mercuriale_raw_queue missing, " ++ toString lines.length ++
          " parsed lines not recorded")
      return 0

end PriceSurvey
