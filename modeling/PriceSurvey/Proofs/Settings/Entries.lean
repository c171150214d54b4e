import Mathlib.Data.List.Chain
import Mathlib.Tactic.MkIffOfInductiveProp
import PriceSurvey.Proofs.Settings.Layers

/-!
# What a variable and a section of a file set

A variable `MERCURIALE__SECTION__KEY` spells out a path of two keys; in a file the key is a field of
the section's table. Laid over whatever came before, either sets what it names and leaves every
other setting as it is.

Results:
* `variableKey?_joined`, `pathOf_joined`: the path that such a variable spells out.
* `lastEffect?_variable`: it sets that setting, and no other.
* `lastEffect?_section`: a field of a section sets its setting, and no other.
* `isName_layer`: this holds of every setting there is.
-/
namespace PriceSurvey.Settings

/-! ## Names -/

/-- A name that stays one key of a path: it is made of the characters of keys, and neither inside it
nor where it meets an underscore do two of them stand side by side. -/
@[mk_iff]
structure IsName (name : String) : Prop where
  ne_nil : name.toList ≠ []
  pathChar : name.toList.all Step.isPathChar = true
  parted : (name.toList ++ ['_']).IsChain fun c d => ¬(c = '_' ∧ d = '_')

instance (name : String) : Decidable (IsName name) := decidable_of_iff' _ (isName_iff name)

/-- All sections and their fields have such names. -/
theorem isName_layer : ∀ entry ∈ layer {},
    IsName entry.1 ∧ ∀ field ∈ entry.2.fields, IsName field.1 := by
  decide +kernel

/-! ## Two keys in a path -/

theorem pointed_cons {c : Char} {cs : List Char} (h : ¬(c = '_' ∧ cs.head? = some '_')) :
    pointed (c :: cs) = c :: pointed cs := by
  rw [pointed]
  rintro rest rfl rfl
  exact h ⟨rfl, rfl⟩

/-- Underscores become points only behind a name. -/
theorem pointed_append {cs : List Char} (h : (cs ++ ['_']).IsChain fun c d => ¬(c = '_' ∧ d = '_'))
    (rest : List Char) : pointed (cs ++ rest) = cs ++ pointed rest := by
  induction cs with
  | nil => rfl
  | cons c cs ih =>
    rw [List.cons_append, List.isChain_cons] at h
    obtain ⟨hhead, hrest⟩ := h
    rw [List.cons_append, pointed_cons, ih hrest, List.cons_append]
    rintro ⟨rfl, hunderscore⟩
    cases cs with
    | nil => exact hhead '_' rfl ⟨rfl, rfl⟩
    | cons d cs => exact hhead '_' hunderscore ⟨rfl, rfl⟩

variable {sectionName key : String}

theorem variableKey?_joined {name : String} (hsection : IsName sectionName) (hkey : IsName key)
    (h : Value.lowerWord name = "mercuriale__" ++ sectionName ++ "__" ++ key) :
    variableKey? name = some (sectionName ++ "." ++ key) := by
  have hname : (Value.lowerWord name).toList =
      variableStart ++ (sectionName.toList ++ '_' :: '_' :: key.toList) := by
    have hstart : variableStart = "mercuriale__".toList := rfl
    rw [h, hstart]
    simp
  have hpointed : pointed (sectionName.toList ++ '_' :: '_' :: key.toList) =
      (sectionName ++ "." ++ key).toList := by
    have hlast := pointed_append hkey.parted []
    rw [List.append_nil, pointed, List.append_nil] at hlast
    rw [pointed_append hsection.parted, pointed, hlast]
    simp
  rw [variableKey?, hname, if_pos (List.isPrefixOf_iff_prefix.2 (List.prefix_append _ _)),
    List.drop_left, hpointed, String.ofList_toList]

namespace Step

theorem readName?_append {name : String} (h : IsName name) (rest : List Char)
    (hrest : ∀ c ∈ rest.head?, isPathChar c = false) :
    readName? (name.toList ++ rest) = some (name, rest) := by
  have hchars := List.all_eq_true.1 h.pathChar
  have htake : (name.toList ++ rest).takeWhile isPathChar = name.toList := by
    rw [List.takeWhile_append_of_pos hchars]
    cases rest with
    | nil => simp
    | cons c rest => simp [hrest c rfl]
  have hdrop : (name.toList ++ rest).dropWhile isPathChar = rest := by
    rw [List.dropWhile_append_of_pos hchars]
    cases rest with
    | nil => rfl
    | cons c rest => simp [hrest c rfl]
  rw [readName?, htake, hdrop, if_neg (by simpa using h.ne_nil), String.ofList_toList]

theorem readName?_toList (h : IsName key) : readName? key.toList = some (key, []) := by
  simpa using readName?_append h [] nofun

theorem pathOf_isName (h : IsName key) : pathOf key = [.key key] := by
  simp [pathOf, readName?_toList h, readSteps]

/-- Two names with a point between them are a path of two keys. -/
theorem pathOf_joined (hsection : IsName sectionName) (hkey : IsName key) :
    pathOf (sectionName ++ "." ++ key) = [.key sectionName, .key key] := by
  have hpoint : readName? (sectionName ++ "." ++ key).toList =
      some (sectionName, '.' :: key.toList) := by
    have hname := readName?_append hsection ('.' :: key.toList) (by
      rintro c ⟨⟩
      decide)
    simpa using hname
  rw [pathOf, hpoint]
  simp [readName?_toList hkey, readSteps]

end Step

/-! ## What an entry sets -/

theorem Value.not_isTable {v : Value} (h : v.isScalar = true) : ¬v.IsTable := by
  intro htable
  rw [htable.isScalar] at h
  cases h

theorem Effect.ofValue?_isScalar {v : Value} (h : v.isScalar = true) :
    Effect.ofValue? (some v) = some (.sets v) := by
  cases v with
  | table fields => cases h
  | _ => rfl

/-- By itself an entry that makes a table sets what it has in it. -/
theorem effect?_of_isTable {text name : String} {v : Value} {rest : List Step}
    (hpath : Step.pathOf text = .key name :: rest) (htable : (Value.laid none rest v).IsTable)
    (sectionName key : String) :
    effect? sectionName key (text, v) =
      if sectionName = name then Effect.ofValue? ((Value.laid none rest v).get? key) else none := by
  have hown : (treeOf [[(text, v)]]).get? sectionName =
      if sectionName = name then some (Value.laid none rest v) else none :=
    get?_treeOf_singleton hpath
  obtain ⟨fields, hfields⟩ := htable
  rw [effect?, hown, hfields]
  by_cases hname : sectionName = name
  · rw [if_pos hname, if_pos hname]
    rfl
  · rw [if_neg hname, if_neg hname]

/-- An entry with two keys sets that setting only. -/
theorem effect?_joined (hsection : IsName sectionName) (hkey : IsName key) {v : Value}
    (hv : v.isScalar = true) (sectionName' key' : String) :
    effect? sectionName' key' (sectionName ++ "." ++ key, v) =
      if sectionName' = sectionName ∧ key' = key then some (.sets v) else none := by
  rw [effect?_of_isTable (Step.pathOf_joined hsection hkey)
    (Value.isTable_overlayAt _ key [] v), Value.laid, Value.get?_overlayAt, Value.laid,
    Value.merged_eq (Value.not_isTable hv), ite_and]
  congr 1
  by_cases hk : key' = key
  · rw [if_pos hk, if_pos hk, Effect.ofValue?_isScalar hv]
  · rw [if_neg hk, if_neg hk]
    rfl

/-- The last field with a key gives its value. -/
theorem Value.get?_overlayAll {fields : List (String × Value)} {key : String}
    (h : ∀ v, (key, v) ∈ fields → v.isScalar = true) (root : Value) :
    (overlayAll root fields).get? key = (fields.reverse.lookup key).or (root.get? key) := by
  induction fields generalizing root with
  | nil => simp [overlayAll]
  | cons field fields ih =>
    obtain ⟨name, v⟩ := field
    rw [overlayAll, ih fun w hw => h w (List.mem_cons_of_mem _ hw), get?_overlay,
      List.reverse_cons, List.lookup_append, Option.or_assoc]
    congr 1
    by_cases hkey : key = name
    · subst hkey
      simp [merged_eq (not_isTable (h v List.mem_cons_self))]
    · simp [hkey, List.lookup_cons, beq_eq_false_iff_ne.2 hkey]

theorem effect?_section (hsection : IsName sectionName) {fields : List (String × Value)}
    (sectionName' : String) {key' : String}
    (hfields : ∀ v, (key', v) ∈ fields → v.isScalar = true) :
    effect? sectionName' key' (sectionName, .table fields) =
      if sectionName' = sectionName then (fields.reverse.lookup key').map .sets else none := by
  have htable : (Value.laid none [] (.table fields)).IsTable :=
    Value.IsTable.overlayAll ⟨[], rfl⟩ fields
  rw [effect?_of_isTable (Step.pathOf_isName hsection) htable, Value.laid, Value.merged,
    Value.get?_overlayAll hfields, Option.getD_none]
  congr 1
  cases hlookup : fields.reverse.lookup key' with
  | none => rfl
  | some v =>
    obtain ⟨front, behind, hreverse, -⟩ := List.lookup_eq_some_iff.1 hlookup
    have hmem : (key', v) ∈ fields := List.mem_reverse.1 (by simp [hreverse])
    exact Effect.ofValue?_isScalar (hfields v hmem)

/-! ## Entries laid over others -/

theorem isScalar_guess (s : String) : (guess s).isScalar = true := by
  rw [guess]
  split
  · rfl
  split
  · rfl
  split
  · rfl
  split <;> rfl

/-- A variable for a setting sets it, whatever came before, and leaves every other setting as it
is. -/
theorem lastEffect?_variable {name : String} (hsection : IsName sectionName) (hkey : IsName key)
    (hname : Value.lowerWord name = "mercuriale__" ++ sectionName ++ "__" ++ key) (value : String)
    (entries : List (String × Value)) (sectionName' key' : String) :
    lastEffect? sectionName' key' (entries ++ variableLayer [(name, value)]) =
      if sectionName' = sectionName ∧ key' = key then some (.sets (guess value))
      else lastEffect? sectionName' key' entries := by
  have hlayer : variableLayer [(name, value)] = [(sectionName ++ "." ++ key, guess value)] := by
    simp [variableLayer, variableKey?_joined hsection hkey hname]
  rw [hlayer, lastEffect?_append, effect?_joined hsection hkey (isScalar_guess value)]
  split <;> rfl

example : Value.lowerWord "MERCURIALE__PARSER__MAX_UNIT_CHARS" =
    "mercuriale__" ++ "parser" ++ "__" ++ "max_unit_chars" := by decide +kernel

/-- A field of a section sets its setting, whatever came before, and leaves every other setting as
it is. -/
theorem lastEffect?_section (hsection : IsName sectionName) {fields : List (String × Value)}
    (entries : List (String × Value)) (sectionName' : String) {key' : String}
    (hfields : ∀ v, (key', v) ∈ fields → v.isScalar = true) :
    lastEffect? sectionName' key' (entries ++ [(sectionName, .table fields)]) =
      (if sectionName' = sectionName then (fields.reverse.lookup key').map .sets else none).or
        (lastEffect? sectionName' key' entries) := by
  rw [lastEffect?_append, effect?_section hsection sectionName' hfields]

end PriceSurvey.Settings
