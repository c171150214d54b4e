import PriceSurvey.Proofs.Settings.Entries

/-!
# Where settings come from

The defaults, the settings file, the variables and the address of the database are laid one over the
other, and each setting is decided by the last of them that says anything of it.

Results:
* `ofSources_decided`: every setting, by the layers that say anything of it.
* `file_setting_dropped`: a variable for a whole section takes the settings of the file with it.
-/
namespace PriceSurvey.Settings

variable {α β : Type} {layers : List (List (String × Value))}

/-! ## Readable values -/

/-- What is read from scalars only is read from a scalar. -/
theorem Value.isScalar_of_read {read : Value → Option α} {v : Value} {a : α}
    (hlist : ∀ items, read (.list items) = none) (htable : ∀ fields, read (.table fields) = none)
    (hmissing : read .missing = none) (h : read v = some a) : v.isScalar = true := by
  cases v with
  | list items => rw [hlist] at h; cases h
  | table fields => rw [htable] at h; cases h
  | missing => rw [hmissing] at h; cases h
  | _ => rfl

theorem Value.isScalar_of_toText? {v : Value} {s : String} (h : v.toText? = some s) :
    v.isScalar = true :=
  isScalar_of_read (fun _ => rfl) (fun _ => rfl) rfl h

theorem Value.isScalar_of_toBool? {v : Value} {b : Bool} (h : v.toBool? = some b) :
    v.isScalar = true :=
  isScalar_of_read (fun _ => rfl) (fun _ => rfl) rfl h

theorem Value.isScalar_of_toCount? {limit : Nat} {v : Value} {n : Nat}
    (h : v.toCount? limit = some n) : v.isScalar = true :=
  isScalar_of_read (fun _ => rfl) (fun _ => rfl) rfl h

/-! ## Sections -/

/-- A sequence succeeds if each step does. -/
theorem bind_eq_ok {x : Except Fault α} {f : α → Except Fault β} {b : β} (h : x >>= f = .ok b) :
    ∃ a, x = .ok a ∧ f a = .ok b := by
  cases x with
  | error fault => cases h
  | ok a => exact ⟨a, rfl, h⟩

/-- The settings of the database come from the layers. -/
structure Database.IsDecided (layers : List (List (String × Value))) (d : Database) : Prop where
  url : Decides layers "database" 0 "url" Value.toText? ({} : Database).url d.url
  maxConnections : Decides layers "database" 1 "max_connections" (Value.toCount? mostConnections)
    ({} : Database).maxConnections d.maxConnections
  acquireTimeout : Decides layers "database" 2 "acquire_timeout_secs"
    (Value.toCount? Integer.maxUnsigned) ({} : Database).acquireTimeout d.acquireTimeout
  slowStatement : Decides layers "database" 3 "slow_statement_secs"
    (Value.toCount? Integer.maxUnsigned) ({} : Database).slowStatement d.slowStatement

/-- The settings for units come from the layers. -/
structure RuleIsDecided (layers : List (List (String × Value))) (r : UnitRule) : Prop where
  maxUnitLength : Decides layers "parser" 0 "max_unit_chars" (Value.toCount? Integer.maxUnsigned)
    ({} : UnitRule).maxUnitLength r.maxUnitLength
  allowDigitFirst : Decides layers "parser" 1 "allow_digit_led" Value.toBool?
    ({} : UnitRule).allowDigitFirst r.allowDigitFirst
  maxTailLength : Decides layers "parser" 2 "max_trailing_chars"
    (Value.toCount? Integer.maxUnsigned) ({} : UnitRule).maxTailLength r.maxTailLength

/-- The settings of the log come from the layers. -/
structure Logging.IsDecided (layers : List (List (String × Value))) (l : Logging) : Prop where
  filter : Decides layers "logging" 0 "filter" Value.toText? ({} : Logging).filter l.filter
  timestampFormat : Decides layers "logging" 1 "timestamp_format" Value.toText?
    ({} : Logging).timestampFormat l.timestampFormat

/-- All settings come from the layers. -/
structure IsDecided (layers : List (List (String × Value))) (s : Settings) : Prop where
  database : s.database.IsDecided layers
  rule : RuleIsDecided layers s.rule
  logging : s.logging.IsDecided layers

theorem Database.isDecided {d : Database} (h : Database.ofTree (treeOf layers) = .ok d) :
    d.IsDecided layers := by
  obtain ⟨s, hs, h⟩ := bind_eq_ok h
  obtain ⟨url, hurl, h⟩ := bind_eq_ok h
  obtain ⟨most, hmost, h⟩ := bind_eq_ok h
  obtain ⟨timeout, htimeout, h⟩ := bind_eq_ok h
  obtain ⟨slow, hslow, h⟩ := bind_eq_ok h
  obtain rfl := Except.ok.inj h
  exact {
    url := decides_of_setting hs (fun _ _ => Value.isScalar_of_toText?) hurl
    maxConnections := decides_of_setting hs (fun _ _ => Value.isScalar_of_toCount?) hmost
    acquireTimeout := decides_of_setting hs (fun _ _ => Value.isScalar_of_toCount?) htimeout
    slowStatement := decides_of_setting hs (fun _ _ => Value.isScalar_of_toCount?) hslow }

theorem ruleIsDecided {r : UnitRule} (h : ruleOfTree (treeOf layers) = .ok r) :
    RuleIsDecided layers r := by
  obtain ⟨s, hs, h⟩ := bind_eq_ok h
  obtain ⟨unit, hunit, h⟩ := bind_eq_ok h
  obtain ⟨first, hfirst, h⟩ := bind_eq_ok h
  obtain ⟨tail, htail, h⟩ := bind_eq_ok h
  obtain rfl := Except.ok.inj h
  exact {
    maxUnitLength := decides_of_setting hs (fun _ _ => Value.isScalar_of_toCount?) hunit
    allowDigitFirst := decides_of_setting hs (fun _ _ => Value.isScalar_of_toBool?) hfirst
    maxTailLength := decides_of_setting hs (fun _ _ => Value.isScalar_of_toCount?) htail }

theorem Logging.isDecided {l : Logging} (h : Logging.ofTree (treeOf layers) = .ok l) :
    l.IsDecided layers := by
  obtain ⟨s, hs, h⟩ := bind_eq_ok h
  obtain ⟨filter, hfilter, h⟩ := bind_eq_ok h
  obtain ⟨format, hformat, h⟩ := bind_eq_ok h
  obtain rfl := Except.ok.inj h
  exact {
    filter := decides_of_setting hs (fun _ _ => Value.isScalar_of_toText?) hfilter
    timestampFormat := decides_of_setting hs (fun _ _ => Value.isScalar_of_toText?) hformat }

theorem isDecided {s : Settings} (h : ofTree (treeOf layers) = .ok s) : s.IsDecided layers := by
  obtain ⟨database, hdatabase, h⟩ := bind_eq_ok h
  obtain ⟨rule, hrule, h⟩ := bind_eq_ok h
  obtain ⟨logging, hlogging, h⟩ := bind_eq_ok h
  obtain rfl := Except.ok.inj h
  exact ⟨Database.isDecided hdatabase, ruleIsDecided hrule, Logging.isDecided hlogging⟩

/-! ## The address of the database -/

theorem joined_address : "database" ++ "." ++ "url" = "database.url" := by decide

theorem pathOf_address : Step.pathOf "database.url" = [.key "database", .key "url"] := by
  rw [← joined_address, Step.pathOf_joined (by decide) (by decide)]

theorem effect?_address (url : String) :
    effect? "database" "url" ("database.url", .text url) = some (.sets (.text url)) := by
  rw [← joined_address, effect?_joined (by decide) (by decide) rfl, if_pos ⟨rfl, rfl⟩]

/-- The variable for the address has the last say, whatever came before. -/
theorem url_eq_of_address {s : Settings} {url : String}
    (h : s.IsDecided (layers ++ [[("database.url", .text url)]])) : s.database.url = url := by
  have htree : (treeOf (layers ++ [[("database.url", .text url)]])).get? "database" =
      some (Value.laid ((treeOf layers).get? "database") [.key "url"] (.text url)) := by
    rw [show treeOf (layers ++ [[("database.url", .text url)]]) =
      (treeOf layers).overlayAt (Step.pathOf "database.url") (.text url) by
        simp [treeOf, Value.overlayLayer], pathOf_address, Value.get?_overlayAt, if_pos rfl]
  obtain ⟨fields, hfields⟩ := Value.isTable_overlayAt
    (((treeOf layers).get? "database").getD .missing) "url" [] (.text url)
  have hurl := h.database.url
  rw [Decides, htree, Value.laid, hfields, List.flatten_append, List.flatten_singleton,
    lastEffect?_append, effect?_address] at hurl
  exact (Option.some.inj hurl).symm

/-! ## All layers -/

/-- Each setting comes from the defaults, the file, the variables and the address of the database,
the last of which has the last say. A layer leaves the settings that it says nothing of as the
layers below have them. -/
theorem ofSources_decided {file : Option String} {environment : List (String × String)}
    {s : Settings} (h : ofSources file environment = .ok s) :
    ∃ fields, (file.map fileLayer).getD (.ok []) = .ok fields ∧
      s.IsDecided [layer {}, fields, variableLayer environment, addressLayer environment] ∧
      (∀ url, environment.lookup "DATABASE_URL" = some url → s.database.url = url) ∧
      ∀ (lower : List (List (String × Value))) (upper : List (String × Value))
        (sectionName key : String), (∀ e ∈ upper, IsSilent sectionName key e) →
        given? (treeOf (lower ++ [upper])) sectionName key =
          given? (treeOf lower) sectionName key := by
  obtain ⟨fields, hfile, htree⟩ := bind_eq_ok h
  have hdecided := isDecided htree
  refine ⟨fields, hfile, hdecided, ?address, fun lower _ _ _ hsilent =>
    given?_treeOf_append lower hsilent⟩
  case address =>
    intro url hurl
    have hlayer : addressLayer environment = [("database.url", .text url)] := by
      rw [addressLayer, hurl]
    rw [hlayer] at hdecided
    change s.IsDecided ([layer {}, fields, variableLayer environment] ++
      [[("database.url", .text url)]]) at hdecided
    exact url_eq_of_address hdecided

/-- A file for short units. -/
def shortUnits : String := "[parser]\nmax_unit_chars = 8\n"

/-- An environment for units that start with a number, and for a database. -/
def digitsFirst : List (String × String) :=
  [("MERCURIALE__PARSER__ALLOW_DIGIT_LED", "true"), ("DATABASE_URL", "u")]

/-- One section from three layers. -/
theorem ofSources_decided_units :
    ofSources (some shortUnits) digitsFirst =
      .ok { database.url := "u", rule.maxUnitLength := 8, rule.allowDigitFirst := true } ∧
    ∃ fields, fileLayer shortUnits = .ok fields ∧
      Settings.IsDecided
        [layer {}, fields, variableLayer digitsFirst, addressLayer digitsFirst]
        { database.url := "u", rule.maxUnitLength := 8, rule.allowDigitFirst := true } := by
  have hload : ofSources (some shortUnits) digitsFirst =
      .ok { database.url := "u", rule.maxUnitLength := 8, rule.allowDigitFirst := true } := by
    decide +kernel
  obtain ⟨fields, hfields, hdecided, -⟩ := ofSources_decided hload
  rw [Option.map_some, Option.getD_some] at hfields
  exact ⟨hload, fields, hfields, hdecided⟩

/-- A file that has to be there gives the settings that it gives where it need not be. -/
theorem ofFile_eq_ok_iff {file : Option String} {environment : List (String × String)}
    {s : Settings} :
    ofFile file environment = .ok s ↔ file.isSome ∧ ofSources file environment = .ok s := by
  cases file with
  | none => simp [ofFile]
  | some text => simp [ofFile]

/-! ## A section that is dropped -/

/-- The count that entries set, if they set one. -/
def countSet? (sectionName key : String) (entries : List (String × Value)) : Option Nat :=
  (Effect.value? (lastEffect? sectionName key entries)).bind (Value.toCount? mostConnections)

/-- A file that sets one key of a section. -/
def fewConnections : String := "[database]\nmax_connections = 5\n"

/-- An environment with a text for the whole section, and with the address of the database. -/
def textForSection : List (String × String) :=
  [("MERCURIALE__DATABASE", "x"), ("DATABASE_URL", "u")]

/-- The file sets a count, and nothing after it sets another. Still the count is the default: the
text takes the place of the section, and the address makes a new one. -/
theorem file_setting_dropped :
    (fileLayer fewConnections).toOption.bind (countSet? "database" "max_connections") = some 5 ∧
    countSet? "database" "max_connections" (variableLayer textForSection) = none ∧
    countSet? "database" "max_connections" (addressLayer textForSection) = none ∧
    (ofSources (some fewConnections) textForSection).toOption.map (·.database.maxConnections) =
      some 20 := by
  decide +kernel

end PriceSurvey.Settings
