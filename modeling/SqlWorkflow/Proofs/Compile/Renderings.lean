import SqlWorkflow.Compile
import SqlWorkflow.Proofs.Results
import SqlWorkflow.Proofs.Template.Environment
import SqlWorkflow.Proofs.Text

namespace SqlWorkflow

namespace Sql

-- A text that a warehouse can run: it is there, and no blank stands around it.
def IsStatement (sql : String) : Prop :=
  sql ≠ "" ∧ Text.Trimmed sql

theorem split_statements_all (sql : String) :
    ∀ statement ∈ splitStatements sql, IsStatement statement := by
  intro statement member
  obtain ⟨chars, kept, rfl⟩ := List.mem_map.mp member
  obtain ⟨found, some⟩ := List.mem_filter.mp kept
  obtain ⟨group, _, rfl⟩ := List.mem_map.mp found
  refine ⟨fun empty => ?_, Text.trimmed_of_chars _⟩
  have gone := congrArg String.toList empty
  rw [String.toList_ofList] at gone
  simp [gone] at some

end Sql

theorem Template.Environment.settle_trimmed (env : Environment)
    (result : Except TemplateError String) (text : String)
    (settled : (env.settle result).1 = .ok text) : Text.Trimmed text := by
  cases result with
  | error cause => cases settled
  | ok whole =>
      obtain rfl := Except.ok.inj settled
      exact Text.trimmed_of_chars whole.toList

theorem Template.render_trimmed (setting : Setting) (template text : String)
    (rendered : (render setting template).1 = .ok text) : Text.Trimmed text :=
  Environment.settle_trimmed _ _ text rendered

namespace Rendering

def Renders {α : Type} (step : Rendering α) (parts : List (Template.Setting × String))
    (good : α → Prop) : Prop :=
  ∀ before value after, step.run before = .ok (value, after) → good value ∧
    (∀ part ∈ parts, ∃ text, (Template.render part.1 part.2).1 = .ok text) ∧
    after = before ++ parts.flatMap fun part => (Template.render part.1 part.2).2

-- The templates of a definition are rendered as if one environment rendered them all.
theorem text_shared (env : Template.Environment) (idle : env.Idle) (job : Template.Job) :
    (text { env.setting with incremental := job.incremental } job.template).run env.mentions =
      match env.perform job with
      | (.ok sql, after) => .ok (sql, after.mentions)
      | (.error cause, _) => .error (.template cause) := by
  rw [Template.Environment.perform_eq env idle job]
  unfold text Template.Environment.alone
  cases Template.render { env.setting with incremental := job.incremental } job.template with
  | mk result mentions => cases result <;> rfl

theorem renders_pure {α : Type} (value : α) (good : α → Prop) (holds : good value) :
    Renders (pure value) [] good := by
  intro before _ after ran
  obtain ⟨rfl, rfl⟩ := Prod.mk.inj (Except.ok.inj ran)
  exact ⟨holds, by simp, by simp⟩

theorem renders_throw {α : Type} (fault : DraftFault) (parts : List (Template.Setting × String))
    (good : α → Prop) : Renders (throw fault) parts good := by
  intro before value after ran
  cases ran

theorem renders_bind {α β : Type} (first : Rendering β) (next : β → Rendering α)
    (parts more : List (Template.Setting × String)) (middle : β → Prop) (good : α → Prop)
    (rendersFirst : Renders first parts middle)
    (rendersNext : ∀ value, middle value → Renders (next value) more good) :
    Renders (first >>= next) (parts ++ more) good := by
  intro before value after ran
  obtain ⟨⟨found, between⟩, ranFirst, ranNext⟩ := (except_bind_ok_iff _ _ _).mp ran
  obtain ⟨reached, okFirst, kept⟩ := rendersFirst before found between ranFirst
  obtain ⟨holds, okNext, keptNext⟩ := rendersNext found reached between value after ranNext
  refine ⟨holds, fun part member => ?_, ?_⟩
  · exact (List.mem_append.mp member).elim (okFirst part) (okNext part)
  · rw [keptNext, kept, List.append_assoc, List.flatMap_append]

theorem renders_last {α β : Type} (step : Rendering β) (f : β → α)
    (parts : List (Template.Setting × String)) (middle : β → Prop) (good : α → Prop)
    (renders : Renders step parts middle) (holds : ∀ value, middle value → good (f value)) :
    Renders (step >>= fun value => pure (f value)) parts good := by
  rw [← List.append_nil parts]
  exact renders_bind step _ parts [] middle good renders fun value reached =>
    renders_pure (f value) good (holds value reached)

theorem renders_text (setting : Template.Setting) (template : String) :
    Renders (text setting template) [(setting, template)]
      fun text => (Template.render setting template).1 = .ok text := by
  intro before value after ran
  unfold text at ran
  cases rendered : Template.render setting template with
  | mk result mentions =>
      rw [rendered] at ran
      cases result with
      | error cause => cases ran
      | ok text =>
          obtain ⟨rfl, rfl⟩ := Prod.mk.inj (Except.ok.inj ran)
          simp [rendered]

theorem renders_query (setting : Template.Setting) (definition : Definition) :
    Renders (query setting definition) [(setting, definition.body)] Sql.IsStatement := by
  refine renders_bind _ _ [(setting, definition.body)] [] _ _ (renders_text _ _)
    fun text rendered => ?_
  dsimp only
  by_cases empty : text.isEmpty = true
  · rw [if_pos empty]
    exact renders_throw _ [] _
  · rw [if_neg empty]
    refine renders_pure text _ ⟨fun same => ?_, Template.render_trimmed _ _ _ rendered⟩
    exact empty (String.isEmpty_iff.mpr same)

theorem renders_statements (setting : Template.Setting) (template : String) :
    Renders (statements setting template) [(setting, template)]
      fun statements => ∀ sql ∈ statements, Sql.IsStatement sql :=
  renders_last _ _ _ _ _ (renders_text setting template) fun text _ => Sql.split_statements_all text

theorem renders_optional (setting : Template.Setting) (template : Option String) :
    Renders (optionalStatements setting template) (template.toList.map (setting, ·))
      fun statements => ∀ sql ∈ statements, Sql.IsStatement sql := by
  cases template with
  | none => exact renders_pure [] _ fun sql member => by cases member
  | some template => exact renders_statements setting template

end Rendering

namespace DraftKind

def incrementalQuery? : DraftKind → Option String
  | .table _ _ incrementalQuery _ _ _ _ => incrementalQuery
  | _ => none

def tableType? : DraftKind → Option TableType
  | .table tableType _ _ _ _ _ _ => some tableType
  | _ => none

def Checked : DraftKind → Prop
  | .table _ query incrementalQuery _ preOps postOps _ =>
      Sql.IsStatement query ∧ (∀ sql ∈ incrementalQuery, Text.Trimmed sql) ∧
        (∀ sql ∈ preOps, Sql.IsStatement sql) ∧ ∀ sql ∈ postOps, Sql.IsStatement sql
  | .assertion query _ => Sql.IsStatement query
  | .operation queries _ => ∀ sql ∈ queries, Sql.IsStatement sql
  | .declaration => True

end DraftKind

namespace Definition

-- The templates that are rendered for a definition, in order, each with its setting. An incremental
-- table has its body rendered twice.
def renderings (setting : Template.Setting) (definition : Definition) :
    List (Template.Setting × String) :=
  match definition.config with
  | .table tableType _ _ _ =>
      let again := match tableType with
        | .incremental => [({ setting with incremental := true }, definition.body)]
        | _ => []
      (setting, definition.body) :: again ++
        (definition.preOperations.toList ++ definition.postOperations.toList).map (setting, ·)
  | .declaration _ => []
  | _ => [(setting, definition.body)]

structure Stated (setting : Template.Setting) (definition : Definition) (made : DraftKind) : Prop where
  kind : made.actionKind = definition.config.actionKind
  type : made.tableType? = definition.config.tableType?
  checked : made.Checked
  incremental : ∀ sql, made.incrementalQuery? = some sql ↔
    definition.config.tableType? = some .incremental ∧
      (Template.render { setting with incremental := true } definition.body).1 = .ok sql

theorem renders_hooks (setting : Template.Setting) (definition : Definition)
    (finish : List String → List String → DraftKind) (good : DraftKind → Prop)
    (holds : ∀ preOps postOps, (∀ sql ∈ preOps, Sql.IsStatement sql) →
      (∀ sql ∈ postOps, Sql.IsStatement sql) → good (finish preOps postOps)) :
    Rendering.Renders (do
      let preOps ← Rendering.optionalStatements setting definition.preOperations
      let postOps ← Rendering.optionalStatements setting definition.postOperations
      pure (finish preOps postOps))
      ((definition.preOperations.toList ++ definition.postOperations.toList).map (setting, ·))
      good := by
  rw [List.map_append]
  refine Rendering.renders_bind _ _ _ _ _ _ (Rendering.renders_optional setting _)
    fun preOps before => ?_
  exact Rendering.renders_last _ _ _ _ _ (Rendering.renders_optional setting _)
    fun postOps after => holds preOps postOps before after

theorem renders_again (setting : Template.Setting) (definition : Definition) (tableType : TableType) :
    Rendering.Renders
      (match tableType with
        | .incremental => some <$> Rendering.text { setting with incremental := true } definition.body
        | _ => pure none)
      (match tableType with
        | .incremental => [({ setting with incremental := true }, definition.body)]
        | _ => [])
      fun again => ∀ sql, again = some sql ↔ tableType = .incremental ∧
        (Template.render { setting with incremental := true } definition.body).1 = .ok sql := by
  cases tableType with
  | incremental =>
      dsimp only
      rw [← bind_pure_comp]
      refine Rendering.renders_last _ some _ _ _ (Rendering.renders_text _ _)
        fun text rendered sql => ?_
      rw [rendered, Option.some.injEq, Except.ok.injEq, and_iff_right rfl]
  | _ => exact Rendering.renders_pure none _ fun sql => ⟨nofun, nofun⟩

theorem renders_draft_kind (setting : Template.Setting) (definition : Definition) :
    Rendering.Renders (Rendering.draftKind setting definition) (definition.renderings setting)
      (definition.Stated setting) := by
  have body := Rendering.renders_query setting definition
  have bodies := Rendering.renders_statements setting definition.body
  have only (other : definition.config.tableType? ≠ some .incremental) (sql : String) :
      none = some sql ↔ definition.config.tableType? = some .incremental ∧
        (Template.render { setting with incremental := true } definition.body).1 = .ok sql :=
    ⟨nofun, fun both => absurd both.1 other⟩
  unfold Rendering.draftKind renderings
  cases config : definition.config with
  | table tableType options assertions uniqueKey =>
      have isTable : ActionKind.table = definition.config.actionKind := by rw [config]; rfl
      have type : definition.config.tableType? = some tableType := by rw [config]; rfl
      refine Rendering.renders_bind _ _ [(setting, definition.body)] _ _ _ body
        fun query stated => ?_
      have whole (again : Option String)
          (second : ∀ sql, again = some sql ↔ tableType = .incremental ∧
            (Template.render { setting with incremental := true } definition.body).1 = .ok sql)
          (preOps postOps : List String) (before : ∀ sql ∈ preOps, Sql.IsStatement sql)
          (after : ∀ sql ∈ postOps, Sql.IsStatement sql) : definition.Stated setting
            (.table tableType query again uniqueKey preOps postOps assertions) := by
        have trimmed (sql : String) (member : sql ∈ again) : Text.Trimmed sql :=
          Template.render_trimmed _ _ _ ((second sql).mp member).2
        refine ⟨isTable, type.symm, ⟨stated, trimmed, before, after⟩, fun sql => ?_⟩
        rw [type, Option.some.injEq]
        exact second sql
      have again := renders_again setting definition tableType
      cases tableType with
      | incremental =>
          exact Rendering.renders_bind _ _ _ _ _ _ again fun sql second =>
            renders_hooks setting definition _ _ (whole sql second)
      | _ =>
          exact Rendering.renders_bind _ _ _ _ _ _ again fun sql second =>
            renders_hooks setting definition _ _ (whole sql second)
  | assertion options =>
      exact Rendering.renders_last _ _ _ _ _ body fun query stated =>
        ⟨by rw [config]; rfl, by rw [config]; rfl, stated, only (by rw [config]; simp [ConfigBlock.tableType?])⟩
  | operation options hasOutput =>
      exact Rendering.renders_last _ _ _ _ _ bodies fun queries stated =>
        ⟨by rw [config]; rfl, by rw [config]; rfl, stated, only (by rw [config]; simp [ConfigBlock.tableType?])⟩
  | declaration options =>
      exact Rendering.renders_pure _ _
        ⟨by rw [config]; rfl, by rw [config]; rfl, trivial, only (by rw [config]; simp [ConfigBlock.tableType?])⟩

structure Drafted (names : NameTable) (definition : Definition) (listed : List String)
    (draft : Draft) (declared : List Target) (mentions : List Template.Mention) : Prop where
  resolved : names.declaredDependencies listed = .ok declared
  rendered : (Rendering.draftKind (definition.setting names) definition).run [] =
    .ok (draft.kind, mentions)
  dependencies : draft.dependencies = declared ++ (Template.dependencies mentions).toList
  identity : draft.identity = definition.identity

theorem draft_drafted (names : NameTable) (definition : Definition) (draft : Draft)
    (drafted : definition.draft names = .ok draft) : ∃ declared mentions,
    Drafted names definition ((definition.config.options?.map ActionOptions.dependencies).getD [])
      draft declared mentions := by
  unfold Definition.draft at drafted
  cases options : definition.config.options? with
  | none =>
      rw [options] at drafted
      obtain rfl := Except.ok.inj drafted
      refine ⟨[], [], rfl, ?_, rfl, rfl⟩
      unfold Rendering.draftKind
      cases config : definition.config with
      | declaration options => rfl
      | _ => rw [config] at options; cases options
  | some options' =>
      rw [options] at drafted
      have rendered := (map_error_ok_iff _ _ _).mp drafted
      obtain ⟨declared, listed, rendered⟩ := (except_bind_ok_iff _ _ _).mp rendered
      obtain ⟨⟨kind, mentions⟩, ran, rendered⟩ := (except_bind_ok_iff _ _ _).mp rendered
      obtain rfl := Except.ok.inj rendered
      exact ⟨declared, mentions, (map_error_ok_iff _ _ _).mp listed, ran, rfl, rfl⟩

theorem draft_canonical (names : NameTable) (definition : Definition) (draft : Draft)
    (drafted : definition.draft names = .ok draft) (settings : Settings) :
    settings.canonicalTarget draft.actionKind draft.identity =
      definition.canonicalTarget settings := by
  obtain ⟨declared, mentions, drafted⟩ := draft_drafted names definition draft drafted
  rw [drafted.identity, Draft.actionKind,
    (renders_draft_kind _ definition _ _ _ drafted.rendered).1.kind]
  rfl

end Definition

end SqlWorkflow
