import SqlWorkflow.Proofs.SortedMap
import SqlWorkflow.Settings

namespace SqlWorkflow

inductive TextField where
  | defaultDatabase
  | defaultSchema
  | assertionSchema
  | defaultLocation
  | schemaSuffix
deriving DecidableEq

namespace TextField

def stated (settings : Settings) : TextField → Option String
  | defaultDatabase => settings.defaultDatabase
  | defaultSchema => settings.defaultSchema
  | assertionSchema => settings.assertionSchema
  | defaultLocation => settings.defaultLocation
  | schemaSuffix => settings.schemaSuffix

def given (overrides : Overrides) : TextField → Option String
  | defaultDatabase => overrides.defaultDatabase
  | defaultSchema => overrides.defaultSchema
  | assertionSchema => overrides.assertionSchema
  | defaultLocation => overrides.defaultLocation
  | schemaSuffix => overrides.schemaSuffix

theorem forall_iff (holds : TextField → Prop) :
    (∀ field, holds field) ↔ holds defaultDatabase ∧ holds defaultSchema ∧
      holds assertionSchema ∧ holds defaultLocation ∧ holds schemaSuffix := by
  constructor
  · intro each
    exact ⟨each _, each _, each _, each _, each _⟩
  · intro all field
    cases field with
    | defaultDatabase => exact all.1
    | defaultSchema => exact all.2.1
    | assertionSchema => exact all.2.2.1
    | defaultLocation => exact all.2.2.2.1
    | schemaSuffix => exact all.2.2.2.2

end TextField

namespace Overrides

-- The later override wins wherever both say something, and each of them can turn assertions off.
def under (earlier later : Overrides) : Overrides where
  vars := earlier.vars.merge later.vars
  schemaSuffix := later.schemaSuffix <|> earlier.schemaSuffix
  defaultLocation := later.defaultLocation <|> earlier.defaultLocation
  defaultDatabase := later.defaultDatabase <|> earlier.defaultDatabase
  defaultSchema := later.defaultSchema <|> earlier.defaultSchema
  assertionSchema := later.assertionSchema <|> earlier.assertionSchema
  disableAssertions := earlier.disableAssertions || later.disableAssertions

structure Layered (earlier later both : Overrides) : Prop where
  vars : ∀ name, both.vars.get? name = (later.vars.get? name).or (earlier.vars.get? name)
  texts : ∀ field : TextField, field.given both = (field.given later).or (field.given earlier)
  assertions : both.disableAssertions = (earlier.disableAssertions || later.disableAssertions)

theorem overrides_ext (a b : Overrides) (vars : ∀ name, a.vars.get? name = b.vars.get? name)
    (texts : ∀ field : TextField, field.given a = field.given b)
    (assertions : a.disableAssertions = b.disableAssertions) : a = b := by
  have sameVars : a.vars = b.vars := SortedMap.get_ext _ _ vars
  simp only [TextField.forall_iff, TextField.given] at texts
  cases a
  cases b
  simp_all

theorem under_layered (earlier later : Overrides) : Layered earlier later (earlier.under later) where
  vars := SortedMap.get_merge earlier.vars later.vars
  texts field := by cases field <;> exact Option.orElse_eq_or
  assertions := rfl

theorem under_eq_iff (earlier later both : Overrides) :
    earlier.under later = both ↔ Layered earlier later both := by
  have laid := under_layered earlier later
  constructor
  · rintro rfl
    exact laid
  · intro layered
    refine overrides_ext _ _ (fun name => ?_) (fun field => ?_) ?_
    · rw [laid.vars, layered.vars]
    · rw [laid.texts, layered.texts]
    · rw [laid.assertions, layered.assertions]

def naming (overrides : Overrides) : Overrides where
  defaultDatabase := overrides.defaultDatabase
  defaultSchema := overrides.defaultSchema
  assertionSchema := overrides.assertionSchema

end Overrides

namespace Settings

structure Overridden (settings : Settings) (overrides : Overrides) (result : Settings) : Prop where
  warehouse : result.warehouse = settings.warehouse
  coreVersion : result.coreVersion = settings.coreVersion
  storage : result.storage = settings.storage
  vars : ∀ name, result.vars.get? name =
    (overrides.vars.get? name).or (settings.vars.get? name)
  texts : ∀ field : TextField, field.stated result =
    (field.given overrides).or (field.stated settings)
  assertions : result.disableAssertions =
    if overrides.disableAssertions then some true else settings.disableAssertions

theorem settings_ext (a b : Settings) (warehouse : a.warehouse = b.warehouse)
    (coreVersion : a.coreVersion = b.coreVersion) (storage : a.storage = b.storage)
    (vars : ∀ name, a.vars.get? name = b.vars.get? name)
    (texts : ∀ field : TextField, field.stated a = field.stated b)
    (assertions : a.disableAssertions = b.disableAssertions) : a = b := by
  have sameVars : a.vars = b.vars := SortedMap.get_ext _ _ vars
  simp only [TextField.forall_iff, TextField.stated] at texts
  cases a
  cases b
  simp_all

theorem with_overrides_overridden (settings : Settings) (overrides : Overrides) :
    Overridden settings overrides (settings.withOverrides overrides) where
  warehouse := rfl
  coreVersion := rfl
  storage := rfl
  vars := SortedMap.get_merge settings.vars overrides.vars
  texts field := by cases field <;> exact Option.orElse_eq_or
  assertions := rfl

theorem with_overrides_eq_iff (settings : Settings) (overrides : Overrides) (result : Settings) :
    settings.withOverrides overrides = result ↔ Overridden settings overrides result := by
  have made := with_overrides_overridden settings overrides
  constructor
  · rintro rfl
    exact made
  · intro overridden
    refine settings_ext _ _ ?_ ?_ ?_ (fun name => ?_) (fun field => ?_) ?_
    · rw [made.warehouse, overridden.warehouse]
    · rw [made.coreVersion, overridden.coreVersion]
    · rw [made.storage, overridden.storage]
    · rw [made.vars, overridden.vars]
    · rw [made.texts, overridden.texts]
    · rw [made.assertions, overridden.assertions]

theorem Overridden.then {settings middle result : Settings} {earlier later both : Overrides}
    (first : Overridden settings earlier middle) (second : Overridden middle later result)
    (layered : Overrides.Layered earlier later both) : Overridden settings both result where
  warehouse := second.warehouse.trans first.warehouse
  coreVersion := second.coreVersion.trans first.coreVersion
  storage := second.storage.trans first.storage
  vars name := by rw [second.vars, first.vars, layered.vars, Option.or_assoc]
  texts field := by rw [second.texts, first.texts, layered.texts, Option.or_assoc]
  assertions := by
    rw [second.assertions, first.assertions, layered.assertions]
    cases earlier.disableAssertions <;> cases later.disableAssertions <;> rfl

theorem with_overrides_under (settings : Settings) (earlier later : Overrides) :
    (settings.withOverrides earlier).withOverrides later =
      settings.withOverrides (earlier.under later) := by
  have first := with_overrides_overridden settings earlier
  have second := with_overrides_overridden (settings.withOverrides earlier) later
  have both := first.then second (Overrides.under_layered earlier later)
  exact ((with_overrides_eq_iff _ _ _).mpr both).symm

theorem layered_self (overrides : Overrides) : Overrides.Layered overrides overrides overrides where
  vars _ := Option.or_self.symm
  texts _ := Option.or_self.symm
  assertions := (Bool.or_self _).symm

theorem with_overrides_again (settings : Settings) (overrides : Overrides) :
    (settings.withOverrides overrides).withOverrides overrides =
      settings.withOverrides overrides := by
  rw [with_overrides_under, (Overrides.under_eq_iff _ _ _).mpr (layered_self overrides)]

theorem assertions_disabled_either (settings : Settings) (overrides : Overrides) :
    (settings.withOverrides overrides).assertionsDisabled =
      (settings.assertionsDisabled || overrides.disableAssertions) := by
  rw [assertionsDisabled, (with_overrides_overridden settings overrides).assertions]
  cases overrides.disableAssertions with
  | false => exact (Bool.or_false _).symm
  | true => exact (Bool.or_true _).symm

-- An identity that leaves something open shows what the settings put there.
theorem canonical_targets_eq_iff (a b : Settings) :
    (∀ kind identity, a.canonicalTarget kind identity = b.canonicalTarget kind identity) ↔
      a.defaultDatabase = b.defaultDatabase ∧ a.effectiveSchema = b.effectiveSchema ∧
        a.effectiveAssertionSchema = b.effectiveAssertionSchema := by
  constructor
  · intro same
    have table := same .table { name := "" }
    have assertion := same .assertion { name := "" }
    exact ⟨congrArg Target.database table, congrArg Target.schema table,
      congrArg Target.schema assertion⟩
  · intro same kind identity
    obtain ⟨database, schema, assertionSchema⟩ := same
    cases kind <;> simp only [canonicalTarget, database, schema, assertionSchema]

theorem canonical_target_naming (settings : Settings) (overrides : Overrides) (kind : ActionKind)
    (identity : Identity) :
    (settings.withOverrides overrides).canonicalTarget kind identity =
      (settings.withOverrides overrides.naming).canonicalTarget kind identity :=
  (canonical_targets_eq_iff _ _).mpr ⟨rfl, rfl, rfl⟩ kind identity

-- Overrides are merged to the right, field by field and variable by variable. Canonical targets
-- change through the two default schemas and the default database, and in no other way.
theorem overrides_merge :
    (∀ (settings : Settings) (overrides : Overrides) (result : Settings),
      settings.withOverrides overrides = result ↔ Overridden settings overrides result) ∧
    (∀ earlier later both : Overrides,
      earlier.under later = both ↔ Overrides.Layered earlier later both) ∧
    (∀ (settings : Settings) (earlier later : Overrides),
      (settings.withOverrides earlier).withOverrides later =
        settings.withOverrides (earlier.under later)) ∧
    (∀ (settings : Settings) (overrides : Overrides),
      (settings.withOverrides overrides).withOverrides overrides =
        settings.withOverrides overrides) ∧
    (∀ (settings : Settings) (overrides : Overrides),
      (settings.withOverrides overrides).assertionsDisabled =
        (settings.assertionsDisabled || overrides.disableAssertions)) ∧
    (∀ (settings : Settings) (overrides : Overrides) (kind : ActionKind) (identity : Identity),
      (settings.withOverrides overrides).canonicalTarget kind identity =
        (settings.withOverrides overrides.naming).canonicalTarget kind identity) ∧
    ∀ a b : Settings,
      (∀ kind identity, a.canonicalTarget kind identity = b.canonicalTarget kind identity) ↔
        a.defaultDatabase = b.defaultDatabase ∧ a.effectiveSchema = b.effectiveSchema ∧
          a.effectiveAssertionSchema = b.effectiveAssertionSchema :=
  ⟨with_overrides_eq_iff, Overrides.under_eq_iff, with_overrides_under, with_overrides_again,
    assertions_disabled_either, canonical_target_naming, canonical_targets_eq_iff⟩

end Settings

end SqlWorkflow
