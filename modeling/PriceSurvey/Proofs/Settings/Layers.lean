import Mathlib.Data.List.Induction
import PriceSurvey.Proofs.Settings.Overlay
import PriceSurvey.Settings.Layers

/-!
# Which layer decides a setting

Layers are lists of entries, laid one over the other. An entry can do two things to a setting: it
sets it, or it puts something else in the place of its section and drops it. The last entry that
does either decides, and all others leave the setting as it is.

Results:
* `tracks_lastEffect`: what a tree of layers has for a setting, by the effects of the entries.
-/
namespace PriceSurvey.Settings

open Value (Overlays)

variable {sectionName key : String}

/-! ## Effects of entries -/

/-- What an entry does to a setting. -/
inductive Effect where
  /-- It gives the setting a value. -/
  | sets (v : Value)
  /-- It puts something else than a table in the place of the section. -/
  | drops

/-- What a value under the key of a setting does to it. A table without fields does nothing. -/
def Effect.ofValue? : Option Value → Option Effect
  | none | some (.table []) => none
  | some v => some (.sets v)

/-- What an entry does to a setting, as the tree of the entry alone shows it. -/
def effect? (sectionName key : String) (entry : String × Value) : Option Effect :=
  match (treeOf [[entry]]).get? sectionName with
  | none => none
  | some (.table fields) => Effect.ofValue? (fields.lookup key)
  | some _ => some .drops

/-- What the last entry does that says anything of a setting. -/
def lastEffect? (sectionName key : String) (entries : List (String × Value)) : Option Effect :=
  entries.reverse.findSome? (effect? sectionName key)

theorem lastEffect?_append (entries : List (String × Value)) (entry : String × Value) :
    lastEffect? sectionName key (entries ++ [entry]) =
      (effect? sectionName key entry).or (lastEffect? sectionName key entries) := by
  rw [lastEffect?, List.reverse_append, List.reverse_singleton, List.singleton_append,
    List.findSome?_cons]
  cases effect? sectionName key entry <;> rfl

/-! ## Trees of layers -/

theorem treeOf_flatten (layers : List (List (String × Value))) :
    treeOf layers = treeOf [layers.flatten] := by
  rw [treeOf, treeOf, List.foldl_cons, List.foldl_nil, Value.overlayLayer, List.foldl_flatten]
  rfl

theorem treeOf_append (entries : List (String × Value)) (entry : String × Value) :
    treeOf [entries ++ [entry]] =
      (treeOf [entries]).overlayAt (Step.pathOf entry.1) entry.2 := by
  simp [treeOf, Value.overlayLayer, List.foldl_append]

/-- A path starts at a key. -/
theorem Step.exists_pathOf (text : String) : ∃ name rest, pathOf text = .key name :: rest := by
  rw [pathOf]
  cases hname : readName? text.toList with
  | none => exact ⟨text, [], rfl⟩
  | some p =>
    obtain ⟨name, rest⟩ := p
    cases hrest : readSteps rest.length rest with
    | none => exact ⟨text, [], by simp [hrest]⟩
    | some steps => exact ⟨name, steps, by simp [hrest]⟩

/-- The value that a tree has for a setting. -/
def given? (tree : Value) (sectionName key : String) : Option Value :=
  (tree.get? sectionName).bind (·.get? key)

/-- The value that an effect leaves. -/
def Effect.value? : Option Effect → Option Value
  | some (.sets v) => some v
  | _ => none

/-- The value is the one that the effect leaves, or else one that is none for any setting. -/
def Tracks (effect : Option Effect) (v : Option Value) : Prop :=
  v = Effect.value? effect ∨ ∃ w, v = some w ∧ w.isScalar = false

theorem Tracks.overlays {last : Option Effect} {old own new : Option Value} (h : Tracks last old)
    (ho : Overlays old own new) : Tracks ((Effect.ofValue? own).or last) new := by
  cases ho with
  | keep => exact h
  | addNothing => exact h
  | merge hv hw => exact .inr ⟨_, rfl, hw⟩
  | put v =>
    by_cases hempty : v = .table []
    · exact .inr ⟨v, rfl, by rw [hempty]; rfl⟩
    · rw [Effect.ofValue?]
      · exact .inl rfl
      · exact hempty

/-- The tree of one entry has a single section. -/
theorem get?_treeOf_singleton {entry : String × Value} {name : String} {rest : List Step}
    (hpath : Step.pathOf entry.1 = .key name :: rest) :
    (treeOf [[entry]]).get? sectionName =
      if sectionName = name then some (Value.laid none rest entry.2) else none := by
  change ((Value.table []).overlayAt (Step.pathOf entry.1) entry.2).get? sectionName = _
  rw [hpath, Value.get?_overlayAt]
  rfl

/-- An entry does to the setting of a tree what it says of it. -/
theorem Tracks.overlayAt {tree : Value} {last : Option Effect}
    (h : Tracks last (given? tree sectionName key)) (entry : String × Value) :
    Tracks ((effect? sectionName key entry).or last)
      (given? (tree.overlayAt (Step.pathOf entry.1) entry.2) sectionName key) := by
  obtain ⟨name, rest, hpath⟩ := Step.exists_pathOf entry.1
  rw [effect?, get?_treeOf_singleton hpath, given?, hpath, Value.get?_overlayAt]
  by_cases hname : sectionName = name
  case neg => simpa [hname, given?] using h
  subst hname
  rw [if_pos rfl, if_pos rfl, Option.bind_some]
  have hlaid := Value.laid_cases (tree.get? sectionName) rest entry.2 key
  generalize Value.laid none rest entry.2 = own at hlaid ⊢
  rcases hlaid with ⟨⟨fields, rfl⟩, ho⟩ | ⟨hne, hnew⟩
  case inl => exact h.overlays ho
  case inr =>
    cases own with
    | table fields => exact absurd ⟨fields, rfl⟩ hne
    | _ => exact .inl hnew

/-- What a tree has for a setting is what the last entry leaves that says anything of it. -/
theorem tracks_lastEffect (layers : List (List (String × Value))) (sectionName key : String) :
    Tracks (lastEffect? sectionName key layers.flatten)
      (given? (treeOf layers) sectionName key) := by
  rw [treeOf_flatten]
  induction layers.flatten using List.reverseRecOn with
  | nil => exact .inl rfl
  | append_singleton entries entry ih =>
    rw [lastEffect?_append, treeOf_append]
    exact ih.overlayAt entry

/-! ## Entries that say nothing -/

/-- The tree of the entry alone has no such section, or a table without the key for it. -/
def IsSilent (sectionName key : String) (entry : String × Value) : Prop :=
  ∀ v ∈ (treeOf [[entry]]).get? sectionName, v.IsTable ∧ v.get? key = none

theorem IsSilent.given?_overlayAt {entry : String × Value} (h : IsSilent sectionName key entry)
    (tree : Value) :
    given? (tree.overlayAt (Step.pathOf entry.1) entry.2) sectionName key =
      given? tree sectionName key := by
  obtain ⟨name, rest, hpath⟩ := Step.exists_pathOf entry.1
  rw [IsSilent, get?_treeOf_singleton hpath] at h
  rw [given?, hpath, Value.get?_overlayAt, given?]
  by_cases hname : sectionName = name
  case neg => rw [if_neg hname]
  subst hname
  rw [if_pos rfl] at h ⊢
  obtain ⟨htable, hnone⟩ := h _ rfl
  rcases Value.laid_cases (tree.get? sectionName) rest entry.2 key with ⟨-, ho⟩ | ⟨hne, -⟩
  case inr => exact absurd htable hne
  rw [hnone] at ho
  generalize hnew : (Value.laid (tree.get? sectionName) rest entry.2).get? key = new at ho
  cases ho with
  | keep => exact hnew

/-- A layer leaves the settings that it says nothing of as the layers below have them. -/
theorem given?_treeOf_append (lower : List (List (String × Value)))
    {entries : List (String × Value)} (h : ∀ e ∈ entries, IsSilent sectionName key e) :
    given? (treeOf (lower ++ [entries])) sectionName key =
      given? (treeOf lower) sectionName key := by
  rw [show treeOf (lower ++ [entries]) = (treeOf lower).overlayLayer entries by simp [treeOf]]
  generalize treeOf lower = tree
  induction entries generalizing tree with
  | nil => rfl
  | cons e entries ih =>
    obtain ⟨he, hrest⟩ := List.forall_mem_cons.1 h
    exact (ih hrest (tree.overlayAt (Step.pathOf e.1) e.2)).trans (he.given?_overlayAt tree)

/-! ## Settings -/

section

variable {α : Type} {layers : List (List (String × Value))} {place : Nat}
  {read : Value → Option α} {default a : α}

/-- What an effect makes of a setting: the value that is set, or the default. -/
def Effect.Gives (read : Value → Option α) (default a : α) : Option Effect → Prop
  | some (.sets v) => read v = some a
  | _ => a = default

/-- The setting `a` comes from the layers. A section that ends as a list is read by place.
Otherwise the last entry that says anything of the setting gives it its value, or drops the section
and leaves it its default. -/
def Decides (layers : List (List (String × Value))) (sectionName : String) (place : Nat)
    (key : String) (read : Value → Option α) (default a : α) : Prop :=
  match (treeOf layers).get? sectionName with
  | some (.list items) => (items[place]?).elim (some default) read = some a
  | _ => Effect.Gives read default a (lastEffect? sectionName key layers.flatten)

/-- What a setting can be read from is what the last effect leaves. -/
theorem Tracks.gives {last : Option Effect} {v : Option Value} (h : Tracks last v)
    (hscalar : ∀ w b, read w = some b → w.isScalar = true)
    (hread : v.elim (some default) read = some a) : Effect.Gives read default a last := by
  rcases h with rfl | ⟨w, rfl, hw⟩
  · cases last with
    | none => exact (Option.some.inj hread).symm
    | some effect =>
      cases effect with
      | sets w => exact hread
      | drops => exact (Option.some.inj hread).symm
  · rw [hscalar w a hread] at hw
    cases hw

/-- What a section has for a setting. -/
def Section.given? (s : Section) (place : Nat) (key : String) : Option Value :=
  match s.value with
  | .list items => items[place]?
  | v => v.get? key

theorem Section.elim_given? {s : Section} (h : s.setting place key read default = .ok a) :
    (s.given? place key).elim (some default) read = some a := by
  rw [Section.setting] at h
  split at h
  case h_1 hnone =>
    have hgiven : s.given? place key = none := hnone
    rw [hgiven, Option.elim_none, Except.ok.inj h]
  case h_2 v hsome =>
    have hgiven : s.given? place key = some v := hsome
    rw [hgiven, Option.elim_some]
    split at h
    case h_1 b hb => rw [hb, Except.ok.inj h]
    case h_2 => cases h

theorem decides_of_setting {s : Section} (hs : Section.ofTree (treeOf layers) sectionName = .ok s)
    (hscalar : ∀ w b, read w = some b → w.isScalar = true)
    (h : s.setting place key read default = .ok a) :
    Decides layers sectionName place key read default a := by
  have htracks := tracks_lastEffect layers sectionName key
  have hgiven := Section.elim_given? h
  rw [Section.ofTree] at hs
  rw [given?] at htracks
  rw [Decides]
  cases hsection : (treeOf layers).get? sectionName with
  | none =>
    rw [hsection] at hs htracks
    obtain rfl := Except.ok.inj hs
    exact htracks.gives hscalar hgiven
  | some v =>
    rw [hsection] at hs htracks
    cases v with
    | table fields =>
      obtain rfl := Except.ok.inj hs
      exact htracks.gives hscalar hgiven
    | list items =>
      obtain rfl := Except.ok.inj hs
      exact hgiven
    | _ => cases hs

end

end PriceSurvey.Settings
