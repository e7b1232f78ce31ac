import SqlWorkflow.Project
import SqlWorkflow.Proofs.Project.Packages

namespace SqlWorkflow

namespace Settings

def names (settings : Settings) : List (String × Option String) :=
  [("defaultDatabase", settings.defaultDatabase), ("defaultSchema", settings.defaultSchema),
    ("assertionSchema", settings.assertionSchema)]

def Filled (field : String × Option String) : Prop :=
  ∀ text, field.2 = some text → Text.isBlankText text = false

def PlainSuffix (suffix : String) : Prop :=
  ∀ c ∈ suffix.toList, isSuffixChar c = true

structure Valid (settings : Settings) : Prop where
  filled : ∀ field ∈ settings.names, Filled field
  suffix : ∀ suffix, settings.schemaSuffix = some suffix → PlainSuffix suffix

-- Names come before the suffix, each in the order of `names`.
inductive Invalid (settings : Settings) : SettingsFault → Prop where
  | blank (field : String × Option String) (earlier later : List (String × Option String))
      (order : settings.names = earlier ++ field :: later)
      (filled : ∀ other ∈ earlier, Filled other) (blank : ¬ Filled field) :
      Invalid settings (.emptyField field.1)
  | suffix (suffix : String) (filled : ∀ field ∈ settings.names, Filled field)
      (stated : settings.schemaSuffix = some suffix) (foreign : ¬ PlainSuffix suffix) :
      Invalid settings (.badSuffix suffix)

theorem filled_iff (field : String × Option String) :
    Filled field ↔ field.2.any Text.isBlankText = false := by
  unfold Filled
  cases field.2 <;> simp

theorem first_blank_none_iff (fields : List (String × Option String)) :
    firstBlank fields = none ↔ ∀ field ∈ fields, Filled field := by
  simp only [firstBlank, Option.map_eq_none_iff, List.find?_eq_none, filled_iff, Bool.not_eq_true]

theorem first_blank_some_iff (fields : List (String × Option String)) (name : String) :
    firstBlank fields = some name ↔
      ∃ field earlier later, fields = earlier ++ field :: later ∧
        (∀ other ∈ earlier, Filled other) ∧ ¬ Filled field ∧ field.1 = name := by
  simp only [firstBlank, Option.map_eq_some_iff, List.find?_eq_some_iff_append, filled_iff,
    Bool.not_eq_false, Bool.not_eq_true']
  refine exists_congr fun field => ?_
  tauto

def checkSuffix (settings : Settings) : Except Error Unit :=
  match settings.schemaSuffix with
  | none => .ok ()
  | some suffix =>
      if suffix.toList.all isSuffixChar then .ok ()
      else .error (.settingsInvalid (.badSuffix suffix))

theorem plain_suffix_iff (suffix : String) :
    PlainSuffix suffix ↔ suffix.toList.all isSuffixChar = true :=
  List.all_eq_true.symm

theorem check_suffix_plain (settings : Settings)
    (plain : ∀ suffix, settings.schemaSuffix = some suffix → PlainSuffix suffix) :
    settings.checkSuffix = .ok () := by
  unfold checkSuffix
  cases stated : settings.schemaSuffix with
  | none => rfl
  | some suffix => exact if_pos ((plain_suffix_iff suffix).mp (plain suffix stated))

theorem check_suffix_foreign (settings : Settings) (suffix : String)
    (stated : settings.schemaSuffix = some suffix) (foreign : ¬ PlainSuffix suffix) :
    settings.checkSuffix = .error (.settingsInvalid (.badSuffix suffix)) := by
  rw [plain_suffix_iff] at foreign
  rw [checkSuffix, stated]
  exact if_neg foreign

theorem validate_steps (settings : Settings) : settings.validate =
    match firstBlank settings.names with
    | some field => .error (.settingsInvalid (.emptyField field))
    | none => settings.checkSuffix :=
  rfl

theorem validate_valid (settings : Settings) (valid : settings.Valid) :
    settings.validate = .ok () := by
  rw [validate_steps, (first_blank_none_iff _).mpr valid.filled]
  exact check_suffix_plain settings valid.suffix

theorem validate_invalid (settings : Settings) (fault : SettingsFault)
    (invalid : settings.Invalid fault) : settings.validate = .error (.settingsInvalid fault) := by
  rw [validate_steps]
  cases invalid with
  | blank field earlier later order filled blank =>
      rw [(first_blank_some_iff _ _).mpr ⟨field, earlier, later, order, filled, blank, rfl⟩]
  | suffix suffix filled stated foreign =>
      rw [(first_blank_none_iff _).mpr filled]
      exact check_suffix_foreign settings suffix stated foreign

theorem valid_or_invalid (settings : Settings) :
    settings.Valid ∨ ∃ fault, settings.Invalid fault := by
  cases found : firstBlank settings.names with
  | some name =>
      obtain ⟨field, earlier, later, order, filled, blank, _⟩ :=
        (first_blank_some_iff _ _).mp found
      exact .inr ⟨_, .blank field earlier later order filled blank⟩
  | none =>
      have filled := (first_blank_none_iff _).mp found
      by_cases plain : ∀ suffix, settings.schemaSuffix = some suffix → PlainSuffix suffix
      · exact .inl ⟨filled, plain⟩
      · simp only [not_forall] at plain
        obtain ⟨suffix, stated, foreign⟩ := plain
        exact .inr ⟨_, .suffix suffix filled stated foreign⟩

theorem validate_outcome (settings : Settings) :
    (∀ checked, settings.validate = .ok checked ↔ settings.Valid) ∧
    ∀ error, settings.validate = .error error ↔
      ∃ fault, settings.Invalid fault ∧ .settingsInvalid fault = error := by
  refine outcome_iff _ _ _ (fun _ => validate_valid settings) (fun error failed => ?_) ?_
  · obtain ⟨fault, invalid, rfl⟩ := failed
    exact validate_invalid settings fault invalid
  · rcases valid_or_invalid settings with valid | ⟨fault, invalid⟩
    · exact .inl ⟨(), valid⟩
    · exact .inr ⟨_, fault, invalid, rfl⟩

end Settings

namespace SettingsSource

variable (folder : Folder)

inductive Chosen : SettingsSource → Prop where
  | workflow (there : folder.has [workflow.fileName] = true) : Chosen .workflow
  | legacy (absent : folder.has [workflow.fileName] = false)
      (there : folder.has [legacy.fileName] = true) : Chosen .legacy

theorem locate_chosen (source : SettingsSource) (chosen : Chosen folder source) :
    locate folder = .ok source := by
  unfold locate
  cases chosen with
  | workflow there => exact if_pos there
  | legacy absent there => rw [absent, if_neg Bool.false_ne_true, if_pos there]

theorem locate_missing
    (absent : ∀ source : SettingsSource, folder.has [source.fileName] = false) :
    locate folder = .error (.settingsNotFound (folder.pathOf [workflow.fileName])) := by
  rw [locate, absent .workflow, absent .legacy, if_neg Bool.false_ne_true,
    if_neg Bool.false_ne_true]

theorem chosen_or_missing : (∃ source, Chosen folder source) ∨
    ∀ source : SettingsSource, folder.has [source.fileName] = false := by
  cases current : folder.has [workflow.fileName] with
  | true => exact .inl ⟨.workflow, .workflow current⟩
  | false =>
      cases old : folder.has [legacy.fileName] with
      | true => exact .inl ⟨.legacy, .legacy current old⟩
      | false =>
          refine .inr fun source => ?_
          cases source with
          | workflow => exact current
          | legacy => exact old

theorem locate_outcome :
    (∀ source, locate folder = .ok source ↔ Chosen folder source) ∧
    ∀ error, locate folder = .error error ↔
      (∀ source : SettingsSource, folder.has [source.fileName] = false) ∧
        .settingsNotFound (folder.pathOf [workflow.fileName]) = error := by
  refine outcome_iff _ _ _ (locate_chosen folder) (fun error failed => ?_) ?_
  · rw [← failed.2]
    exact locate_missing folder failed.1
  · rcases chosen_or_missing folder with chosen | absent
    · exact .inl chosen
    · exact .inr ⟨_, absent, rfl⟩

theorem chosen_has (source : SettingsSource) (chosen : Chosen folder source) :
    folder.has [source.fileName] = true := by
  cases chosen with
  | workflow there => exact there
  | legacy absent there => exact there

end SettingsSource

namespace Folder

variable (folder : Folder)

def Configures (settings : Settings) : Prop :=
  ∃ source, SettingsSource.Chosen folder source ∧
    folder.States [source.fileName] source.read settings ∧ settings.Valid

inductive Misconfigures : Error → Prop where
  | missing (absent : ∀ source : SettingsSource, folder.has [source.fileName] = false) :
      Misconfigures (.settingsNotFound (folder.pathOf [SettingsSource.workflow.fileName]))
  | misstated (source : SettingsSource) (chosen : SettingsSource.Chosen folder source)
      (error : Error) (bad : folder.Misstates [source.fileName] source.read error) :
      Misconfigures error
  | invalid (source : SettingsSource) (chosen : SettingsSource.Chosen folder source)
      (settings : Settings) (states : folder.States [source.fileName] source.read settings)
      (fault : SettingsFault) (bad : settings.Invalid fault) :
      Misconfigures (.settingsInvalid fault)

end Folder

def Settings.ensureValid (settings : Settings) : Except Error Settings :=
  settings.validate >>= fun _ => pure settings

theorem ensure_valid_ok_iff (settings result : Settings) :
    settings.ensureValid = .ok result ↔ settings.Valid ∧ settings = result := by
  rw [Settings.ensureValid, except_bind_ok_iff]
  constructor
  · intro found
    obtain ⟨_, valid, same⟩ := found
    exact ⟨((Settings.validate_outcome settings).1 _).mp valid, Except.ok.inj same⟩
  · intro found
    obtain ⟨valid, rfl⟩ := found
    exact ⟨(), ((Settings.validate_outcome settings).1 _).mpr valid, rfl⟩

theorem ensure_valid_error_iff (settings : Settings) (error : Error) :
    settings.ensureValid = .error error ↔
      ∃ fault, settings.Invalid fault ∧ .settingsInvalid fault = error := by
  rw [Settings.ensureValid, except_bind_error_iff, (Settings.validate_outcome settings).2]
  constructor
  · intro failed
    rcases failed with invalid | ⟨_, _, failed⟩
    · exact invalid
    · cases failed
  · exact Or.inl

namespace Folder

variable (folder : Folder)

def configuration : Except Error Settings :=
  SettingsSource.locate folder >>= fun source => source.load folder

theorem load_steps (source : SettingsSource) :
    source.load folder =
      folder.document [source.fileName] source.read >>= Settings.ensureValid := by
  rw [document, bind_assoc]
  rfl

theorem configuration_ok_iff (settings : Settings) :
    folder.configuration = .ok settings ↔ folder.Configures settings := by
  have located := (SettingsSource.locate_outcome folder).1
  rw [configuration, except_bind_ok_iff]
  simp only [located, load_steps, except_bind_ok_iff, document_ok_iff, ensure_valid_ok_iff,
    Configures]
  refine exists_congr fun source => and_congr_right fun _ => ?_
  constructor
  · intro found
    obtain ⟨_, states, valid, rfl⟩ := found
    exact ⟨states, valid⟩
  · intro found
    exact ⟨settings, found.1, found.2, rfl⟩

theorem configuration_error_iff (error : Error) :
    folder.configuration = .error error ↔ folder.Misconfigures error := by
  obtain ⟨located, unlocated⟩ := SettingsSource.locate_outcome folder
  rw [configuration, except_bind_error_iff, unlocated]
  simp only [located, load_steps, except_bind_error_iff, document_ok_iff, ensure_valid_error_iff]
  constructor
  · intro failed
    rcases failed with ⟨absent, rfl⟩ | ⟨source, chosen, failed⟩
    · exact .missing absent
    · rcases failed with unread | ⟨settings, states, fault, bad, rfl⟩
      · rw [document_error_iff _ _ _ (SettingsSource.chosen_has folder source chosen)] at unread
        exact .misstated source chosen error unread
      · exact .invalid source chosen settings states fault bad
  · intro failed
    cases failed with
    | missing absent => exact .inl ⟨absent, rfl⟩
    | misstated source chosen error bad =>
        rw [← document_error_iff _ _ _ (SettingsSource.chosen_has folder source chosen)] at bad
        exact .inr ⟨source, chosen, .inl bad⟩
    | invalid source chosen settings states fault bad =>
        exact .inr ⟨source, chosen, .inr ⟨settings, states, fault, bad, rfl⟩⟩

end Folder

namespace Settings

variable (folder : Folder) (overrides : Overrides)

inductive Fails : Error → Prop where
  | configuration (error : Error) (bad : folder.Misconfigures error) : Fails error
  | packages (stated : Settings) (configures : folder.Configures stated) (error : Error)
      (disagrees : Packages.Disagrees folder stated error) : Fails error
  | overridden (stated : Settings) (configures : folder.Configures stated)
      (agrees : Packages.Agrees folder stated) (fault : SettingsFault)
      (bad : (stated.withOverrides overrides).Invalid fault) : Fails (.settingsInvalid fault)

theorem resolve_steps : resolve folder overrides =
    folder.configuration >>= fun stated =>
      Packages.check folder stated >>= fun _ => (stated.withOverrides overrides).ensureValid := by
  rw [Folder.configuration, bind_assoc]
  rfl

theorem resolve_ok_iff (settings : Settings) :
    resolve folder overrides = .ok settings ↔
      ∃ stated, folder.Configures stated ∧ Packages.Agrees folder stated ∧
        (stated.withOverrides overrides).Valid ∧ settings = stated.withOverrides overrides := by
  rw [resolve_steps]
  simp only [except_bind_ok_iff, Folder.configuration_ok_iff, ensure_valid_ok_iff]
  constructor
  · intro found
    obtain ⟨stated, configures, _, agrees, valid, rfl⟩ := found
    exact ⟨stated, configures, (Packages.check_ok_iff folder stated).mp agrees, valid, rfl⟩
  · intro found
    obtain ⟨stated, configures, agrees, valid, rfl⟩ := found
    exact ⟨stated, configures, (), (Packages.check_ok_iff folder stated).mpr agrees, valid, rfl⟩

theorem resolve_error_iff (error : Error) :
    resolve folder overrides = .error error ↔ Fails folder overrides error := by
  rw [resolve_steps]
  simp only [except_bind_error_iff, Folder.configuration_ok_iff, Folder.configuration_error_iff,
    Packages.check_error_iff, ensure_valid_error_iff]
  constructor
  · intro failed
    rcases failed with bad | ⟨stated, configures, failed⟩
    · exact .configuration error bad
    · rcases failed with disagrees | ⟨_, agrees, fault, bad, rfl⟩
      · exact .packages stated configures error disagrees
      · have agrees := (Packages.check_ok_iff folder stated).mp agrees
        exact .overridden stated configures agrees fault bad
  · intro failed
    cases failed with
    | configuration error bad => exact .inl bad
    | packages stated configures error disagrees => exact .inr ⟨stated, configures, .inl disagrees⟩
    | overridden stated configures agrees fault bad =>
        have agrees := (Packages.check_ok_iff folder stated).mpr agrees
        exact .inr ⟨stated, configures, .inr ⟨(), agrees, fault, bad, rfl⟩⟩

theorem configures_unique (a b : Settings) (configuresA : folder.Configures a)
    (configuresB : folder.Configures b) : a = b := by
  have readA := (folder.configuration_ok_iff a).mpr configuresA
  have readB := (folder.configuration_ok_iff b).mpr configuresB
  exact Except.ok.inj (readA.symm.trans readB)

-- Whether the packages fit is settled before the overrides are looked at, which can only make the
-- settings invalid.
theorem agrees_fails_invalid (stated : Settings) (configures : folder.Configures stated)
    (agrees : Packages.Agrees folder stated) (error : Error)
    (fails : Fails folder overrides error) :
    ∃ fault, (stated.withOverrides overrides).Invalid fault ∧ error = .settingsInvalid fault := by
  cases fails with
  | configuration error bad =>
      rw [← Folder.configuration_error_iff,
        (folder.configuration_ok_iff stated).mpr configures] at bad
      cases bad
  | packages other configured error disagrees =>
      obtain rfl := configures_unique folder stated other configures configured
      rw [← Packages.check_error_iff, (Packages.check_ok_iff folder stated).mpr agrees] at disagrees
      cases disagrees
  | overridden other configured _ fault bad =>
      obtain rfl := configures_unique folder stated other configures configured
      exact ⟨fault, bad, rfl⟩

theorem resolve_outcome (folder : Folder) :
    (∀ overrides settings, resolve folder overrides = .ok settings ↔
      ∃ stated, folder.Configures stated ∧ Packages.Agrees folder stated ∧
        (stated.withOverrides overrides).Valid ∧ settings = stated.withOverrides overrides) ∧
    (∀ overrides error, resolve folder overrides = .error error ↔ Fails folder overrides error) ∧
    (∀ stated, folder.Configures stated →
      (∃ error, Packages.Disagrees folder stated error ∧
        ∀ overrides, resolve folder overrides = .error error) ∨
      Packages.Agrees folder stated ∧ ∀ overrides error,
        resolve folder overrides = .error error →
          ∃ fault, (stated.withOverrides overrides).Invalid fault ∧
            error = .settingsInvalid fault) := by
  refine ⟨resolve_ok_iff folder, resolve_error_iff folder, fun stated configures => ?_⟩
  cases checked : Packages.check folder stated with
  | error error =>
      have disagrees := (Packages.check_error_iff folder stated error).mp checked
      refine .inl ⟨error, disagrees, fun overrides => ?_⟩
      exact (resolve_error_iff folder overrides error).mpr
        (.packages stated configures error disagrees)
  | ok =>
      have agrees := (Packages.check_ok_iff folder stated).mp checked
      refine .inr ⟨agrees, fun overrides error failed => ?_⟩
      have fails := (resolve_error_iff folder overrides error).mp failed
      exact agrees_fails_invalid folder overrides stated configures agrees error fails

end Settings

end SqlWorkflow
