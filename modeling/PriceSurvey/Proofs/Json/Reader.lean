import PriceSurvey.Json.Line
import PriceSurvey.Proofs.Decimal.Written

/-!
# How readers of records compose

A reader of a record is put together from readers of fields. Two things are known of it as soon as
they are known of its fields: what it accepts, and which fields it goes by.

Results:
* `toDecimal_toJson`, `toOption_orNull`, `toList_ofStrings`, `toVariant_text`: single values are
  read as they are written.
* `Reader.Accepts.run`: fields that hold the forms of values are read as these values.
* `Reader.Uses.run`: objects that agree in the fields of a record are read alike.
-/
namespace PriceSurvey.Json

variable {α β : Type}

/-! ## Single values -/

theorem toDecimal_toJson (d : Decimal) : toDecimal d.toJson = .ok d.plain := by
  change (Decimal.read (String.ofList d.write).toList).mapError Fault.decimal = _
  rw [String.toList_ofList, Decimal.read_write]
  rfl

/-- What is there is read as it is, and null as nothing. -/
theorem toOption_orNull {form : α → Json} {item : Json → Except Fault β} {f : α → β}
    (hitem : ∀ a, item (form a) = .ok (f a)) (hnull : ∀ a, form a ≠ .null) (o : Option α) :
    toOption item (orNull form o) = .ok (o.map f) := by
  cases o with
  | none => rfl
  | some a =>
    rw [orNull, toOption, hitem, Option.map_some]
    · rfl
    · exact hnull a

theorem toOption_orNull_text (o : Option String) : toOption toText (orNull .string o) = .ok o := by
  have hitem : ∀ s, toText (.string s) = .ok (id s) := fun _ => rfl
  rw [toOption_orNull hitem (fun _ => Json.noConfusion), Option.map_id, id]

theorem toOption_orNull_decimal (o : Option Decimal) :
    toOption toDecimal (orNull Decimal.toJson o) = .ok (o.map Decimal.plain) :=
  toOption_orNull toDecimal_toJson (fun _ => Json.noConfusion) o

theorem toList_ofStrings (ss : List String) : toList toText (ofStrings ss) = .ok ss := by
  change (ss.map Json.string).mapM toText = .ok ss
  induction ss with
  | nil => rfl
  | cons s ss ih => rw [List.map_cons, List.mapM_cons, ih]; rfl

/-- Variants with different names are read by them. -/
theorem toVariant_text {all : List α} {text : α → String} (hinj : text.Injective) {a : α}
    (ha : a ∈ all) : toVariant (all.map fun b => (text b, b)) (.string (text a)) = .ok a := by
  have hfind : (all.map fun b => (text b, b)).find? (fun k => k.1 = text a) = some (text a, a) := by
    induction all with
    | nil => cases ha
    | cons b rest ih =>
      rw [List.map_cons, List.find?_cons]
      by_cases hb : text b = text a
      · simp [hinj hb]
      · have hrest : a ∈ rest := (List.mem_cons.1 ha).resolve_left fun h => hb (by rw [h])
        simpa [hb] using ih hrest
  rw [toVariant, namedVariant, hfind]

namespace Reader

variable {r : Reader α} {fields fields' : List (String × Json)} {name : String}

/-! ## What a reader accepts -/

/-- The fields pass every check, and are read as `a`. -/
structure Accepts (r : Reader α) (fields : List (String × Json)) (a : α) : Prop where
  checks : ∀ c ∈ r.checks, checkField fields c = .ok ()
  read : r.read ⟨fields, none⟩ = .ok a

theorem accepts_field {missing : Fields → Except Fault α} {item : Json → Except Fault α} {v : Json}
    {a : α} (hv : field? fields name = some v) (hitem : item v = .ok a) :
    (field name missing item).Accepts fields a where
  checks := by
    intro c hc
    rw [List.mem_singleton.1 hc, checkField, hv]
    change (item v).map _ = _
    rw [hitem]
    rfl
  read := by
    change ((field? fields name).map item).getD _ = _
    rw [hv, Option.map_some, hitem]
    rfl

theorem Accepts.map {a : α} (h : r.Accepts fields a) (f : α → β) :
    (f <$> r).Accepts fields (f a) where
  checks := h.checks
  read := by
    change (r.read ⟨fields, none⟩).map f = _
    rw [h.read]
    rfl

theorem Accepts.seq {r : Reader (α → β)} {s : Reader α} {f : α → β} {a : α}
    (h : r.Accepts fields f) (hs : s.Accepts fields a) : (r <*> s).Accepts fields (f a) where
  checks := fun c hc => (List.mem_append.1 hc).elim (h.checks c) (hs.checks c)
  read := by
    change (do return (← r.read ⟨fields, none⟩) (← s.read ⟨fields, none⟩)) = _
    rw [h.read, hs.read]
    rfl

theorem forM_checkField {checks : List (String × (Json → Except Fault Unit))}
    (h : ∀ c ∈ checks, checkField fields c = .ok ()) :
    checks.forM (checkField fields) = .ok () := by
  induction checks with
  | nil => rfl
  | cons c checks ih =>
    change (checkField fields c >>= fun _ => checks.forM (checkField fields)) = _
    rw [h c List.mem_cons_self]
    exact ih fun d hd => h d (List.mem_cons_of_mem c hd)

/-- The order of the checks does not matter where all are passed. -/
theorem Accepts.run {a : α} (h : r.Accepts fields a) : r.run name (.object fields) = .ok a := by
  rw [Reader.run, forM_checkField fun c hc => h.checks c (List.mem_mergeSort.1 hc)]
  exact h.read

/-! ## The fields that a reader goes by -/

/-- The value of a field, or what stands for it if it is missing. -/
def valueIn (fields : List (String × Json)) (d : String × Option Json) : Option Json :=
  (field? fields d.1).or d.2

/-- The fields have the same faults and are read as the same value. -/
structure Alike (r : Reader α) (fields fields' : List (String × Json)) : Prop where
  checks : ∀ c ∈ r.checks, checkField fields c = checkField fields' c
  read : r.read ⟨fields, none⟩ = r.read ⟨fields', none⟩

/-- The reader goes by the fields `known` only, each with what stands for it if it is missing. -/
def Uses (r : Reader α) (known : List (String × Option Json)) : Prop :=
  ∀ fields fields', (∀ d ∈ known, valueIn fields d = valueIn fields' d) → r.Alike fields fields'

variable {known : List (String × Option Json)}

theorem uses_required {item : Json → Except Fault α} (h : (name, none) ∈ known) :
    (required name item).Uses known := by
  intro fields fields' hsame
  have hfield : field? fields name = field? fields' name := by
    simpa only [valueIn, Option.or_none] using hsame _ h
  constructor
  · intro c hc
    rw [List.mem_singleton.1 hc, checkField, checkField, hfield]
  · change ((field? fields name).map item).getD _ = ((field? fields' name).map item).getD _
    rw [hfield]

/-- A field that is missing is read as what stands for it. -/
theorem uses_standIn {missing : Fields → Except Fault α} {item : Json → Except Fault α} {v : Json}
    {a : α} (hitem : item v = .ok a) (hmissing : ∀ fields, missing ⟨fields, none⟩ = .ok a)
    (h : (name, some v) ∈ known) : (field name missing item).Uses known := by
  intro fields fields' hsame
  have hread (fs : List (String × Json)) :
      ((field? fs name).map item).getD (missing ⟨fs, none⟩) =
        item ((field? fs name).getD v) := by
    cases field? fs name with
    | none => exact (hmissing fs).trans hitem.symm
    | some w => rfl
  have hcheck (fs : List (String × Json)) :
      checkField fs (name, fun w => (item w).map fun _ => ()) =
        (item ((field? fs name).getD v)).map fun _ => () := by
    rw [checkField]
    cases field? fs name with
    | none => rw [Option.getD_none, hitem]; rfl
    | some w => rfl
  have hvalue : (field? fields name).getD v = (field? fields' name).getD v := by
    simpa [valueIn, Option.or_some] using hsame _ h
  constructor
  · intro c hc
    rw [List.mem_singleton.1 hc, hcheck, hcheck, hvalue]
  · exact (hread fields).trans ((congrArg item hvalue).trans (hread fields').symm)

theorem uses_optional {item : Json → Except Fault α} (h : (name, some .null) ∈ known) :
    (optional name item).Uses known :=
  uses_standIn rfl (fun _ => rfl) h

theorem uses_defaulted {item : Json → Except Fault α} {v : Json} {a : α} (hitem : item v = .ok a)
    (h : (name, some v) ∈ known) : (defaulted name a item).Uses known :=
  uses_standIn hitem (fun _ => rfl) h

theorem Uses.map (h : r.Uses known) (f : α → β) : (f <$> r).Uses known := by
  intro fields fields' hsame
  refine ⟨(h fields fields' hsame).checks, ?_⟩
  change (r.read ⟨fields, none⟩).map f = (r.read ⟨fields', none⟩).map f
  rw [(h fields fields' hsame).read]

theorem Uses.seq {r : Reader (α → β)} {s : Reader α} (h : r.Uses known) (hs : s.Uses known) :
    (r <*> s).Uses known := by
  intro fields fields' hsame
  have hr := h fields fields' hsame
  have hs := hs fields fields' hsame
  refine ⟨fun c hc => (List.mem_append.1 hc).elim (hr.checks c) (hs.checks c), ?_⟩
  change (do return (← r.read ⟨fields, none⟩) (← s.read ⟨fields, none⟩)) =
    (do return (← r.read ⟨fields', none⟩) (← s.read ⟨fields', none⟩))
  rw [hr.read, hs.read]

theorem forM_checkField_congr {checks : List (String × (Json → Except Fault Unit))}
    (h : ∀ c ∈ checks, checkField fields c = checkField fields' c) :
    checks.forM (checkField fields) = checks.forM (checkField fields') := by
  induction checks with
  | nil => rfl
  | cons c checks ih =>
    change (checkField fields c >>= fun _ => checks.forM (checkField fields)) =
      (checkField fields' c >>= fun _ => checks.forM (checkField fields'))
    rw [h c List.mem_cons_self, ih fun d hd => h d (List.mem_cons_of_mem c hd)]

/-- Objects with the same values in the fields that count are read alike, faults included. -/
theorem Uses.run (h : r.Uses known) (hsame : ∀ d ∈ known, valueIn fields d = valueIn fields' d) :
    r.run name (.object fields) = r.run name (.object fields') := by
  have halike := h fields fields' hsame
  rw [Reader.run, Reader.run,
    forM_checkField_congr fun c hc => halike.checks c (List.mem_mergeSort.1 hc), halike.read]

end Reader

end PriceSurvey.Json
