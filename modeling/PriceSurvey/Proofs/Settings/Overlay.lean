import PriceSurvey.Settings.Path

/-!
# What laying a value over a tree changes

Laying an entry over a tree changes what is under the first key of its path, and within a table only
what is under the second. There it puts what it has by itself, unless tables are merged. So an entry
laid over the empty tree says what it does to any tree.

Results:
* `get?_set`, `get?_overlayAt`: what is under other keys stays.
* `Overlays.overlayAll`: under every key of a section, what fields laid over it put there.
* `laid_cases`: an entry replaces a section, or lays its keys over those of the section.
-/
namespace PriceSurvey.Settings.Value

/-! ## Putting a value under a key -/

theorem lookup_replace (fields : List (String × Value)) (key : String) (v : Value) (key' : String) :
    (fields.map fun f => if f.1 = key then (key, v) else f).lookup key' =
      if key' = key then (fields.lookup key).map fun _ => v else fields.lookup key' := by
  induction fields with
  | nil => simp
  | cons f fields ih =>
    obtain ⟨name, w⟩ := f
    by_cases hname : name = key <;> by_cases hkey : key' = key
    · simp [hname, hkey]
    · have hne : (key' == key) = false := beq_eq_false_iff_ne.2 hkey
      simp [hname, hkey, List.lookup_cons, hne, ih]
    · subst hkey
      have hne : (key' == name) = false := beq_eq_false_iff_ne.2 (Ne.symm hname)
      simpa [hname, List.lookup_cons, hne] using ih
    · simp [hname, hkey, List.lookup_cons, ih]

/-- Only what is under that key changes. -/
theorem get?_set (root : Value) (key : String) (v : Value) (key' : String) :
    (root.set key v).get? key' = if key' = key then some v else root.get? key' := by
  change (if (root.get? key).isSome then _ else _ : List (String × Value)).lookup key' = _
  split
  case isTrue h =>
    obtain ⟨w, hw⟩ := Option.isSome_iff_exists.1 h
    rw [lookup_replace, show root.fields.lookup key = some w from hw]
    rfl
  case isFalse h =>
    have hnone : root.fields.lookup key = none := Option.not_isSome_iff_eq_none.1 h
    rw [List.lookup_append]
    by_cases hkey : key' = key
    · subst hkey
      simp [hnone]
    · have hne : (key' == key) = false := beq_eq_false_iff_ne.2 hkey
      simp [hkey, List.lookup_cons, hne, get?]

/-! ## Laying fields over a value -/

/-- A table: a value with keys. -/
def IsTable (v : Value) : Prop := ∃ fields, v = .table fields

/-- A value laid over what was there, if anything was: fields are merged into it, and anything else
takes its place. -/
def merged (old : Option Value) : Value → Value
  | .table fields => overlayAll (old.getD (.table [])) fields
  | v => v

theorem merged_eq {v : Value} (h : ¬v.IsTable) (old : Option Value) : merged old v = v := by
  cases v with
  | table fields => exact absurd ⟨fields, rfl⟩ h
  | _ => rfl

theorem overlay_eq (root : Value) (key : String) (v : Value) :
    overlay root key v = root.set key (merged (root.get? key) v) := by
  cases v with
  | table fields => rw [overlay, merged]
  | _ =>
    rw [overlay, merged]
    all_goals
      intro fields h
      cases h

theorem isTable_overlay (root : Value) (key : String) (v : Value) :
    (overlay root key v).IsTable :=
  ⟨_, overlay_eq root key v⟩

theorem get?_overlay (root : Value) (key : String) (v : Value) (key' : String) :
    (overlay root key v).get? key' =
      if key' = key then some (merged (root.get? key) v) else root.get? key' := by
  rw [overlay_eq, get?_set]

theorem IsTable.overlayAll {root : Value} (h : root.IsTable) (fields : List (String × Value)) :
    (overlayAll root fields).IsTable := by
  induction fields generalizing root with
  | nil => simpa [Value.overlayAll] using h
  | cons f fields ih =>
    rw [Value.overlayAll]
    exact ih (isTable_overlay root f.1 f.2)

theorem isTable_overlayAll_cons (root : Value) (f : String × Value)
    (fields : List (String × Value)) : (overlayAll root (f :: fields)).IsTable := by
  rw [Value.overlayAll]
  exact (isTable_overlay root f.1 f.2).overlayAll fields

/-- A text, a number or a truth value: all that a setting can be. -/
def isScalar : Value → Bool
  | .bool _ | .integer _ | .float _ | .text _ => true
  | .list _ | .table _ | .missing => false

theorem IsTable.isScalar {v : Value} (h : v.IsTable) : v.isScalar = false := by
  obtain ⟨fields, rfl⟩ := h
  rfl

/-- What is under a key after a layer, where `old` was there before and the layer by itself has
`own`: what the layer has, or else what was there. Lists and tables may come out changed. -/
inductive Overlays (old : Option Value) : (own new : Option Value) → Prop
  | keep : Overlays old none old
  | put (v : Value) : Overlays old (some v) (some v)
  | merge {v w : Value} (hv : v.isScalar = false) (hw : w.isScalar = false) :
    Overlays old (some v) (some w)
  | addNothing : Overlays old (some (.table [])) old

section

variable {old : Option Value} {own new : Value} {key : String}

/-- Nothing to lay over a value leaves it, and makes a table where there was none. -/
theorem Overlays.getD_table (h : Overlays old (own.get? key) (new.get? key)) :
    Overlays old (some ((own.get? key).getD (.table [])))
      (some ((new.get? key).getD (.table []))) := by
  generalize own.get? key = a at h ⊢
  generalize new.get? key = b at h ⊢
  have hold : Overlays old (some (.table [])) (some (old.getD (.table []))) := by
    cases old with
    | none => exact .put _
    | some v => exact .addNothing
  cases h with
  | keep => exact hold
  | put v => exact .put v
  | merge hv hw => exact .merge hv hw
  | addNothing => exact hold

/-- Two values stay related when the same is laid over both. -/
theorem Overlays.overlay (h : Overlays old (own.get? key) (new.get? key)) (name : String)
    (v : Value) : Overlays old ((overlay own name v).get? key) ((overlay new name v).get? key) := by
  rw [get?_overlay, get?_overlay]
  split
  case isFalse => exact h
  case isTrue hkey =>
    subst hkey
    by_cases hv : v.IsTable
    case neg =>
      rw [merged_eq hv, merged_eq hv]
      exact .put v
    obtain ⟨fields, rfl⟩ := hv
    cases fields with
    | nil => simpa [merged, Value.overlayAll] using h.getD_table
    | cons f fields =>
      exact .merge (isTable_overlayAll_cons _ f fields).isScalar
        (isTable_overlayAll_cons _ f fields).isScalar

theorem Overlays.overlayAll (h : Overlays old (own.get? key) (new.get? key))
    (fields : List (String × Value)) :
    Overlays old ((overlayAll own fields).get? key) ((overlayAll new fields).get? key) := by
  induction fields generalizing own new with
  | nil => simpa [Value.overlayAll] using h
  | cons f fields ih =>
    rw [Value.overlayAll, Value.overlayAll]
    exact ih (h.overlay f.1 f.2)

end

/-! ## Laying an entry over a section -/

/-- What is under a key once a value is laid there, at the rest of its path. -/
def laid (old : Option Value) : List Step → Value → Value
  | [], v => merged old v
  | step :: rest, v => overlayAt (old.getD .missing) (step :: rest) v

theorem overlayAt_eq (root : Value) (name : String) (rest : List Step) (v : Value) :
    overlayAt root (.key name :: rest) v = root.set name (laid (root.get? name) rest v) := by
  cases rest with
  | nil => rw [overlayAt, overlay_eq, laid]
  | cons step rest =>
    rw [overlayAt, laid]
    exact List.cons_ne_nil step rest

/-- An entry changes what is under the first key of its path. -/
theorem get?_overlayAt (root : Value) (name : String) (rest : List Step) (v : Value)
    (key : String) :
    (overlayAt root (.key name :: rest) v).get? key =
      if key = name then some (laid (root.get? name) rest v) else root.get? key := by
  rw [overlayAt_eq, get?_set]

theorem isTable_overlayAt (root : Value) (name : String) (rest : List Step) (v : Value) :
    (overlayAt root (.key name :: rest) v).IsTable :=
  ⟨_, overlayAt_eq root name rest v⟩

theorem isScalar_overlayAt (root : Value) (step : Step) (rest : List Step) (v : Value) :
    (overlayAt root (step :: rest) v).isScalar = false := by
  cases step with
  | key name => exact (isTable_overlayAt root name rest v).isScalar
  | item index => rw [overlayAt]; rfl

/-- Two values stay related when the same entry is laid over both. -/
theorem Overlays.overlayAt {old : Option Value} {own new : Value} {key : String}
    (h : Overlays old (own.get? key) (new.get? key)) (name : String) (rest : List Step)
    (v : Value) :
    Overlays old ((overlayAt own (.key name :: rest) v).get? key)
      ((overlayAt new (.key name :: rest) v).get? key) := by
  cases rest with
  | nil =>
    rw [Value.overlayAt, Value.overlayAt]
    exact h.overlay name v
  | cons step rest =>
    rw [get?_overlayAt, get?_overlayAt]
    split
    · exact .merge (isScalar_overlayAt _ step rest v) (isScalar_overlayAt _ step rest v)
    · exact h

/-- By itself an entry makes a table of a section, or something else. In the first case it lays what
it has under a key over what was there; in the other the section has no keys afterwards. -/
theorem laid_cases (old : Option Value) (rest : List Step) (v : Value) (key : String) :
    ((laid none rest v).IsTable ∧ Overlays (old.bind (·.get? key)) ((laid none rest v).get? key)
      ((laid old rest v).get? key)) ∨
    (¬(laid none rest v).IsTable ∧ (laid old rest v).get? key = none) := by
  have hold (empty : Value) (h : empty.get? key = none) :
      Overlays (old.bind (·.get? key)) (empty.get? key) ((old.getD empty).get? key) := by
    rw [h]
    cases old with
    | none => rw [Option.getD_none, h]; exact .keep
    | some w => exact .keep
  cases rest with
  | nil =>
    by_cases hv : v.IsTable
    case neg =>
      rw [laid, laid, merged_eq hv, merged_eq hv]
      refine .inr ⟨hv, ?_⟩
      cases v with
      | table fields => exact absurd ⟨fields, rfl⟩ hv
      | _ => rfl
    obtain ⟨fields, rfl⟩ := hv
    exact .inl ⟨IsTable.overlayAll ⟨[], rfl⟩ fields, (hold (.table []) rfl).overlayAll fields⟩
  | cons step rest =>
    rw [laid, laid]
    cases step with
    | key name =>
      exact .inl ⟨isTable_overlayAt _ name rest v, (hold .missing rfl).overlayAt name rest v⟩
    | item index =>
      rw [overlayAt, overlayAt]
      exact .inr ⟨nofun, rfl⟩

end PriceSurvey.Settings.Value
