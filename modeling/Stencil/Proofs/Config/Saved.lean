import Stencil.Config.File
import Stencil.Proofs.Entries
import Stencil.Proofs.Toml.Documents

/-!
# Saved settings

Settings are read back from the document that says them, and valid ones are loaded from the file that they have been
saved to (`load_saved`).
-/

namespace Stencil.Config

/-! ### What sections and pairs say -/

/-- The table that binds names to settings. -/
def tableOf (fields : Entries Setting) : Toml.Table := fields.map fun field => (field.1, .value field.2)

def pairsOf (fields : Entries Setting) : List (Toml.Path × Setting) :=
  fields.map fun field => (fieldPath field.1, field.2)

theorem fieldSettings_append (before after : Toml.Table) :
    Toml.fieldSettings (before ++ after) = Toml.fieldSettings before ++ Toml.fieldSettings after := by
  induction before with
  | nil => rfl
  | cons field before ih => simp [Toml.fieldSettings, ih]

theorem tableSettings_eq_map (items : List Toml.Table) :
    Toml.tableSettings items = items.map fun fields => .table (Toml.fieldSettings fields) := by
  induction items with
  | nil => rfl
  | cons fields items ih => simp [Toml.tableSettings, ih]

theorem fieldSettings_tableOf (fields : Entries Setting) : Toml.fieldSettings (tableOf fields) = fields := by
  induction fields with
  | nil => rfl
  | cons field fields ih =>
    show (field.1, field.2) :: Toml.fieldSettings (tableOf fields) = _
    rw [ih]

theorem keys_tableOf (fields : Entries Setting) : Entries.keys (tableOf fields) = Entries.keys fields := by
  simp [Entries.keys, tableOf]

theorem assign_tableOf {before : Entries Setting} {name : String} (fresh : name ∉ Entries.keys before)
    (setting : Setting) :
    (tableOf before).assign (fieldPath name, setting) = some (tableOf (before ++ [(name, setting)])) := by
  have free : Entries.get? name (tableOf before) = none := Entries.get?_of_fresh (by rwa [keys_tableOf])
  simp only [Toml.Table.assign, fieldPath, Toml.Table.bind?, free]
  simp [tableOf]

theorem assignAll_append {before after : Entries Setting} (distinct : Entries.Distinct (before ++ after)) :
    (tableOf before).assignAll (pairsOf after) = some (tableOf (before ++ after)) := by
  induction after generalizing before with
  | nil => simp [pairsOf, Toml.Table.assignAll]
  | cons field after ih =>
    obtain ⟨name, setting⟩ := field
    have fresh : name ∉ Entries.keys before := by
      intro member
      rw [Entries.Distinct, Entries.keys_append] at distinct
      exact (List.nodup_append.1 distinct).2.2 name member name List.mem_cons_self rfl
    have later := @ih (before ++ [(name, setting)]) (by simpa using distinct)
    rw [List.append_assoc] at later
    rw [pairsOf, List.map_cons, Toml.Table.assignAll, assign_tableOf fresh]
    exact later

/-- Pairs whose names are distinct say what they bind the names to. -/
theorem assignAll_pairsOf {fields : Entries Setting} (distinct : Entries.Distinct fields) :
    Toml.Table.assignAll [] (pairsOf fields) = some (tableOf fields) := by
  have none : Entries.Distinct ([] ++ fields) := distinct
  exact assignAll_append none

/-! ### What saved settings say -/

/-- The fields of a step that are written. -/
def stepFields (step : StrategyStep) : Entries Setting :=
  ("strategy", .text step.strategy) ::
    if step.arguments.isEmpty then [] else [("args", .list (step.arguments.map .text))]

/-- The fields of settings that are written before the key format. -/
def plainFields (settings : Settings) : Entries Setting :=
  [("perform_caching", .flag settings.performCaching), ("cache_namespace", .text settings.cacheNamespace),
    ("ignore_nil", .flag settings.ignoreNil)] ++
    match settings.defaultLifetime with
    | some seconds => [("default_expires_in_secs", .number seconds)]
    | none => []

/-- All fields of settings that are written. -/
def writtenFields (settings : Settings) : Entries Setting :=
  plainFields settings ++
    if settings.keyFormat.isEmpty then [] else
      [("key_format", .list (settings.keyFormat.map fun step => .table (stepFields step)))]

theorem itemSettings?_texts (texts : List String) : Toml.itemSettings? (texts.map .text) = some (texts.map .text) := by
  induction texts with
  | nil => rfl
  | cons text texts ih => simp [Toml.itemSettings?, Toml.Value.setting?, ih]

theorem pairSettings?_sectionOf (step : StrategyStep) :
    Toml.pairSettings? (sectionOf step).pairs = some (pairsOf (stepFields step)) := by
  unfold sectionOf stepFields
  split
  · rfl
  · simp [Toml.pairSettings?, Toml.Value.setting?, itemSettings?_texts, pairsOf]

theorem pairSettings?_documentOf (settings : Settings) :
    Toml.pairSettings? (documentOf settings).pairs = some (pairsOf (plainFields settings)) := by
  unfold documentOf plainFields
  cases settings.defaultLifetime <;> rfl

theorem distinct_stepFields (step : StrategyStep) : Entries.Distinct (stepFields step) := by
  unfold stepFields
  split <;> simp [Entries.Distinct, Entries.keys]

theorem distinct_plainFields (settings : Settings) : Entries.Distinct (plainFields settings) := by
  unfold plainFields
  split <;> simp [Entries.Distinct, Entries.keys]

/-- What a step adds to the table that the key format is in. -/
theorem enter_sectionOf (step : StrategyStep) (table : Toml.Table) :
    table.enter (sectionOf step).header (pairsOf (stepFields step)) =
      match Entries.get? "key_format" table with
      | none => some (Entries.insert "key_format" (.tables [tableOf (stepFields step)]) table)
      | some (.tables items) => some (Entries.insert "key_format" (.tables (tableOf (stepFields step) :: items)) table)
      | some _ => none := by
  simp only [sectionOf, fieldPath, Toml.Table.enter, Toml.Table.modify, assignAll_pairsOf (distinct_stepFields step)]
  rfl

theorem enterAll_more (steps : List StrategyStep) (items : List Toml.Table) (table : Toml.Table) :
    Toml.Table.enterAll (Entries.insert "key_format" (.tables items) table) (steps.map sectionOf) =
      some (Entries.insert "key_format" (.tables ((steps.map fun step => tableOf (stepFields step)).reverse ++ items))
        table) := by
  induction steps generalizing items with
  | nil => rfl
  | cons step steps ih =>
    rw [List.map_cons, Toml.Table.enterAll, pairSettings?_sectionOf]
    simp [enter_sectionOf, Entries.get?_insert, Entries.insert_insert, ih]

/-- What the sections of a key format make of a table that has none. -/
theorem enterAll_sections {table : Toml.Table} (fresh : "key_format" ∉ Entries.keys table) (steps : List StrategyStep) :
    table.enterAll (steps.map sectionOf) = some (table ++
      if steps.isEmpty then [] else
        [("key_format", .tables (steps.map fun step => tableOf (stepFields step)).reverse)]) := by
  cases steps with
  | nil => simp [Toml.Table.enterAll]
  | cons step steps =>
    have entered : table.enter (sectionOf step).header (pairsOf (stepFields step)) =
        some (Entries.insert "key_format" (.tables [tableOf (stepFields step)]) table) := by
      rw [enter_sectionOf, Entries.get?_of_fresh fresh]
    have more := enterAll_more steps [tableOf (stepFields step)] table
    rw [Entries.insert_of_fresh fresh (.tables (_ ++ _))] at more
    rw [List.map_cons, Toml.Table.enterAll, pairSettings?_sectionOf]
    simp [entered, more]

theorem setting?_documentOf (settings : Settings) :
    (documentOf settings).setting? = some (.table (writtenFields settings)) := by
  have fresh : "key_format" ∉ Entries.keys (tableOf (plainFields settings)) := by
    rw [keys_tableOf, plainFields]
    split <;> simp [Entries.keys]
  have sections : (tableOf (plainFields settings)).enterAll (documentOf settings).sections = _ :=
    enterAll_sections fresh settings.keyFormat
  rw [Toml.Document.setting?, pairSettings?_documentOf]
  simp only [Option.bind_eq_bind, Option.bind_some, assignAll_pairsOf (distinct_plainFields settings), sections,
    fieldSettings_append, fieldSettings_tableOf, writtenFields]
  split
  · rfl
  · simp [Toml.fieldSettings, Toml.Node.setting, tableSettings_eq_map, fieldSettings_tableOf, Function.comp_def]

/-! ### Reading the settings -/

theorem mapM_of_inverse {α β : Type} {read : β → Option α} {write : α → β} (inverse : ∀ x, read (write x) = some x)
    (items : List α) : (items.map write).mapM read = some items := by
  induction items with
  | nil => rfl
  | cons item items ih => simp [inverse, ih]

theorem stepOfSetting?_stepFields (surplus : Bool) (step : StrategyStep) :
    stepOfSetting? surplus (.table (stepFields step)) = some step := by
  obtain ⟨strategy, arguments⟩ := step
  have texts : (arguments.map Setting.text).mapM Setting.text? = some arguments :=
    mapM_of_inverse (fun text => (rfl : (Setting.text text).text? = some text)) arguments
  unfold stepFields
  split
  · rename_i empty
    obtain rfl : arguments = [] := List.isEmpty_iff.1 empty
    rfl
  · simp [stepOfSetting?, Setting.fields?, Setting.field?, Entries.get?, Setting.text?, Setting.list?, texts]

theorem seconds?_number {n : Nat} (bound : n < 0x10000000000000000) : (Setting.number n).seconds? = some (some n) := by
  have whole : (0 : Int) ≤ n ∧ (n : Int) < 0x10000000000000000 := by omega
  -- The bound is too large for the comparison to be evaluated.
  rw [Setting.seconds?, if_pos whole]
  rfl

section Fields

variable (settings : Settings)

theorem fields?_writtenFields (surplus : Bool) :
    (Setting.table (writtenFields settings)).fields? surplus settingNames = some (writtenFields settings) := by
  obtain ⟨_, _, _, steps, seconds⟩ := settings
  cases steps <;> cases seconds <;> rfl

theorem get?_lifetime : Entries.get? "default_expires_in_secs" (writtenFields settings) =
    settings.defaultLifetime.map fun seconds => .number seconds := by
  obtain ⟨_, _, _, steps, seconds⟩ := settings
  cases steps <;> cases seconds <;> rfl

theorem get?_format : Entries.get? "key_format" (writtenFields settings) =
    if settings.keyFormat.isEmpty then none
    else some (.list (settings.keyFormat.map fun step => .table (stepFields step))) := by
  obtain ⟨_, _, _, steps, seconds⟩ := settings
  cases steps <;> cases seconds <;> rfl

end Fields

theorem settingsOfSetting?_writtenFields (surplus : Bool) {settings : Settings}
    (lifetime : ∀ seconds ∈ settings.defaultLifetime, seconds < 0x10000000000000000) :
    settingsOfSetting? surplus (.table (writtenFields settings)) = some settings := by
  have caching : Setting.field? (writtenFields settings) "perform_caching" Setting.flag? true =
      some settings.performCaching := rfl
  have name : Setting.field? (writtenFields settings) "cache_namespace" Setting.text? defaultNamespace =
      some settings.cacheNamespace := rfl
  have ignoring : Setting.field? (writtenFields settings) "ignore_nil" Setting.flag? false =
      some settings.ignoreNil := rfl
  have format : Setting.field? (writtenFields settings) "key_format" (Setting.list? (stepOfSetting? surplus)) [] =
      some settings.keyFormat := by
    rw [Setting.field?, get?_format]
    split
    · rename_i found
      split at found
      · contradiction
      · obtain rfl := Option.some.inj found
        exact mapM_of_inverse (stepOfSetting?_stepFields surplus) settings.keyFormat
    · rename_i missing
      split at missing
      · rename_i empty
        exact congrArg some (List.isEmpty_iff.1 empty).symm
      · contradiction
  have seconds : Setting.field? (writtenFields settings) "default_expires_in_secs" Setting.seconds? none =
      some settings.defaultLifetime := by
    rw [Setting.field?, get?_lifetime]
    cases found : settings.defaultLifetime with
    | none => rfl
    | some n => exact seconds?_number (lifetime n found)
  rw [settingsOfSetting?, fields?_writtenFields]
  simp [caching, name, ignoring, format, seconds]

/-! ### Files -/

theorem text?_toUTF8 (text : String) : FileContent.text? (some text.toUTF8) = some text :=
  dif_pos text.isValidUTF8

theorem legible_fieldPath (name : String) : (fieldPath name).Legible := by
  show 0 < Toml.maxNames
  decide

theorem legible_texts {depth : Nat} (texts : List String) :
    (Toml.Value.array (texts.map .text)).Legible (depth + 1) := by
  intro item member
  obtain ⟨text, _, rfl⟩ := List.mem_map.1 member
  cases depth <;> trivial

theorem legible_sectionOf (step : StrategyStep) : (sectionOf step).Legible := by
  refine ⟨legible_fieldPath _, fun pair member => ?_⟩
  obtain rfl | later := List.mem_cons.1 member
  · exact ⟨legible_fieldPath _, trivial⟩
  · split at later
    · contradiction
    · obtain rfl := List.mem_singleton.1 later
      exact ⟨legible_fieldPath _, legible_texts _⟩

theorem legible_documentOf {settings : Settings}
    (lifetime : ∀ seconds ∈ settings.defaultLifetime, seconds < 0x10000000000000000) :
    (documentOf settings).Legible := by
  refine ⟨fun pair member => ?_, fun opened member => ?_⟩
  · obtain plain | last := List.mem_append.1 member
    · simp only [List.mem_cons, List.not_mem_nil, or_false] at plain
      obtain rfl | rfl | rfl := plain
      all_goals exact ⟨legible_fieldPath _, trivial⟩
    · split at last
      · rename_i seconds found
        obtain rfl := List.mem_singleton.1 last
        have bound := lifetime seconds found
        have low : (0 : Int) ≤ Int.pow 2 127 := by decide
        have high : (0x10000000000000000 : Int) ≤ Int.pow 2 128 := by decide
        exact ⟨legible_fieldPath _, by omega, by omega⟩
      · contradiction
  · obtain ⟨step, _, rfl⟩ := List.mem_map.1 member
    exact legible_sectionOf step

/-- Whatever the settings, their text says them. -/
theorem settingsOfText?_textOf {settings : Settings}
    (lifetime : ∀ seconds ∈ settings.defaultLifetime, seconds < 0x10000000000000000) :
    settingsOfText? (textOf settings) = some settings := by
  have parsed : Toml.parse? (textOf settings) = some (documentOf settings) :=
    Toml.parse?_text (legible_documentOf lifetime)
  rw [settingsOfText?, settingOfText?, parsed]
  simp [setting?_documentOf, settingsOfSetting?_writtenFields true lifetime]

/-- Valid settings are loaded from the file that they have been saved to. -/
theorem load_saved {settings : Settings} (valid : settings.validate = .ok ())
    (lifetime : ∀ seconds ∈ settings.defaultLifetime, seconds < 0x10000000000000000) :
    ∃ text, save settings none = .ok text ∧ load (some text.toUTF8) = .ok settings := by
  refine ⟨textOf settings, rfl, ?_⟩
  rw [load, text?_toUTF8]
  dsimp only
  rw [loadText, settingsOfText?_textOf lifetime]
  dsimp only
  rw [valid]

/-- A namespace that needs escapes, arguments in one line and in several, and the longest lifetime. -/
def awkwardSettings : Settings where
  performCaching := false
  cacheNamespace := "it's\"é\"\\\x01"
  ignoreNil := true
  keyFormat := [⟨"camelize", ["lower"]⟩, ⟨"underscore", []⟩, ⟨"camelize", ["lower", "upper"]⟩]
  defaultLifetime := some 0xFFFFFFFFFFFFFFFF

theorem load_saved_awkward : awkwardSettings.validate = .ok () ∧
    ∃ text, save awkwardSettings none = .ok text ∧ load (some text.toUTF8) = .ok awkwardSettings := by
  have valid : awkwardSettings.validate = .ok () := by rfl
  exact ⟨valid, load_saved valid (by decide)⟩

end Stencil.Config
