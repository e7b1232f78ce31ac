import SqlWorkflow.Proofs.Compile.Files
import SqlWorkflow.Proofs.Graph.Errors

namespace SqlWorkflow

open Reference

namespace Target

inductive Named (target : Target) : String → List String → Prop where
  | name : Named target target.name [target.name]
  | schemaName : Named target (target.schema ++ "." ++ target.name) [target.schema, target.name]
  | display : Named target target.display target.parts

theorem named_text (target : Target) (name : String) (parts : List String)
    (named : target.Named name parts) : name = Text.join "." parts := by
  cases named with
  | name => exact (Text.join_single "." target.name).symm
  | schemaName => rw [Text.join_cons _ _ _ (List.cons_ne_nil _ _), Text.join_single]
  | display => rfl

theorem named_parts (target : Target) (name : String) (parts : List String)
    (named : target.Named name parts) : parts ≠ [] ∧ parts.length ≤ 3 ∧ parts <:+ target.parts := by
  cases named with
  | name =>
      have before : target.database.toList ++ [target.schema] ++ [target.name] = target.parts := by
        simp [Target.parts]
      exact ⟨by simp, by simp, ⟨_, before⟩⟩
  | schemaName => exact ⟨by simp, by simp, ⟨target.database.toList, rfl⟩⟩
  | display =>
      refine ⟨by simp [Target.parts], ?_, List.suffix_rfl⟩
      cases target.database <;> simp [Target.parts]

end Target

-- The pieces of a name are the last parts of the target that it means, and there are no fewer of
-- them than parts were written. So every written part is a piece, and pieces are plain.
theorem named_means_iff (action : Action) (name : String) (parts : List String)
    (named : action.canonicalTarget.Named name parts) :
    Reads name ∧ Means name action ↔ ∀ part ∈ parts, PlainPart part := by
  obtain ⟨some, most, suffix⟩ := Target.named_parts _ name parts named
  have text := Target.named_text _ name parts named
  constructor
  · intro ⟨reads, means⟩ part member
    have pieces := ((Target.matches_parts_iff _ _).mp means).2
    have longer : parts.length ≤ (dottedParts name).length := text ▸ dotted_parts_length parts some
    have within : parts <:+ dottedParts name := List.suffix_of_suffix_length_le suffix pieces longer
    have piece := within.subset member
    obtain ⟨undotted, trimmed⟩ := dotted_parts_piece name part piece
    exact ⟨fun empty => reads.1 (empty ▸ piece), undotted, trimmed⟩
  · intro plain
    have pieces : dottedParts name = parts := text ▸ dotted_parts_plain parts some plain
    have filled : "" ∉ parts := fun empty => (plain "" empty).filled rfl
    constructor
    · rw [Reads, pieces]
      exact ⟨filled, List.length_pos_iff.mpr some, most⟩
    · rw [Means, pieces]
      exact (Target.matches_parts_iff _ _).mpr ⟨some, suffix⟩

namespace Graph

section OneName

variable (graph : Graph) (wellFormed : graph.WellFormed) (action : Action)
variable (member : action ∈ graph.actions) (runnable : action.kind ≠ .declaration) (name : String)

include wellFormed member runnable

theorem select_one_name (run : RunOptions) (alone : run.actions = [name]) (reads : Reads name)
    (means : Means name action) :
    ∃ order, graph.select run = .ok order ∧ action.canonicalTarget ∈ order := by
  have accepts : graph.Accepts name := ⟨reads, action, member, runnable, means⟩
  rcases graph.well_formed_select wellFormed run with
    ⟨earlier, other, later, cause, split, _, refuses, _⟩ | ⟨_, order, selected, _, members, _⟩
  · have listed : other ∈ run.actions := by simp [split]
    rw [alone, List.mem_singleton] at listed
    rw [listed] at refuses
    exact absurd accepts ((graph.refused_iff name).mp ⟨cause, refuses⟩)
  · refine ⟨order, selected, (members _).mpr ⟨action, Or.inl ⟨member, runnable, ?_⟩, rfl⟩⟩
    rw [if_pos (by simp [alone])]
    exact ⟨name, by simp [alone], means⟩

theorem select_one_name_iff :
    (∃ order, graph.select { actions := [name] } = .ok order ∧ action.canonicalTarget ∈ order) ↔
      Reads name ∧ Means name action := by
  constructor
  · intro ⟨order, selected, listed⟩
    obtain ⟨accepted, _, members, _⟩ := graph.well_formed_selected wellFormed _ order selected
    have reads := (accepted name List.mem_cons_self).1
    obtain ⟨chosen, base | extra, same⟩ := (members _).mp listed
    · obtain ⟨_, _, named⟩ := base
      rw [if_pos (List.cons_ne_nil _ _)] at named
      obtain ⟨text, alone, means⟩ := named
      obtain rfl := List.mem_singleton.mp alone
      rw [Means, same] at means
      exact ⟨reads, means⟩
    · -- without the options that extend a selection nothing is added to it
      obtain ⟨_, _, _, _, _, ⟨included, _⟩ | ⟨included, _⟩⟩ := extra
      · cases included
      · cases included
  · intro ⟨reads, means⟩
    exact graph.select_one_name wellFormed action member runnable name _ rfl reads means

end OneName

end Graph

namespace Compile

theorem compile_well_formed (project : Project) (clean : project.compile.hasErrors = false) :
    project.compile.WellFormed := by
  rw [compile_eq_files] at clean ⊢
  exact ((Graph.error_free_iff _ _ _ _).mp clean).2

theorem own_name_selects_iff (project : Project) (clean : project.compile.hasErrors = false)
    (action : Action) (member : action ∈ project.compile.actions)
    (runnable : action.kind ≠ .declaration) (name : String) (parts : List String)
    (named : action.canonicalTarget.Named name parts) :
    ((∃ order, project.compile.select { actions := [name] } = .ok order ∧
        action.canonicalTarget ∈ order) ↔ ∀ part ∈ parts, PlainPart part) ∧
    ((∀ part ∈ parts, PlainPart part) → ∀ run : RunOptions, run.actions = [name] →
      ∃ order, project.compile.select run = .ok order ∧ action.canonicalTarget ∈ order) := by
  have wellFormed := compile_well_formed project clean
  have exactly := named_means_iff action name parts named
  constructor
  · rw [Graph.select_one_name_iff _ wellFormed action member runnable, exactly]
  · intro plain run alone
    obtain ⟨reads, means⟩ := exactly.mpr plain
    exact Graph.select_one_name _ wellFormed action member runnable name run alone reads means

def projectOf (path text : String) : Project where
  folder := ⟨"", .ofPaths [(FilePath.names path, .file (some text))]⟩
  settings := {}
  definitions := .ofList [path]

def operationDraft (path name : String) (schema : Option String) : Draft where
  fileName := path
  identity := { name, schema }
  kind := .operation ["select 1"] false

theorem project_of_compiled (path text : String) (drafts : List Draft)
    (made : drafted (.ofList {} (declared {} (filesOf (projectOf path text))))
      (parsed (filesOf (projectOf path text))) = drafts)
    (faultless : unread (filesOf (projectOf path text)) ++
      unrendered (.ofList {} (declared {} (filesOf (projectOf path text))))
        (parsed (filesOf (projectOf path text))) ++ (Synthesis.ofDrafts {} drafts).errors = [])
    (silent : (parsed (filesOf (projectOf path text))).flatMap Definition.notes = []) :
    (projectOf path text).compile = .build {} (withAssertions {} drafts) [] [] := by
  subst made
  rw [compile_eq_files, compileFiles, silent]
  exact congrArg (fun faults => Graph.build {} _ faults []) faultless

-- The file name has two dots, so the name of the action has one.
def dotted : Project :=
  projectOf "definitions/orders.v1.sqlx" "select 1"

theorem dotted_compiled : dotted.compile =
    .build {} [operationDraft "definitions/orders.v1.sqlx" "orders.v1" none] [] [] :=
  project_of_compiled "definitions/orders.v1.sqlx" "select 1"
    [operationDraft "definitions/orders.v1.sqlx" "orders.v1" none]
    (by decide +kernel) (by decide +kernel) (by decide +kernel)

theorem dotted_name_not_found :
    dotted.compile.hasErrors = false ∧
    (∃ action ∈ dotted.compile.actions, action.kind = .operation ∧
      action.canonicalTarget = ⟨none, "dataform", "orders.v1"⟩) ∧
    dotted.compile.select { actions := ["orders.v1"] } = .error (.actionNotFound "orders.v1") ∧
    dotted.compile.select { actions := ["dataform.orders.v1"] } =
      .error (.actionNotFound "dataform.orders.v1") := by
  rw [dotted_compiled]
  exact ⟨by cbv, by decide +kernel, by decide +kernel, by decide +kernel⟩

def spaced : Project :=
  projectOf "definitions/daily/order items.sqlx" "config \x7b schema: shop \x7d\nselect 1"

theorem spaced_compiled : spaced.compile =
    .build {} [operationDraft "definitions/daily/order items.sqlx" "order items" (some "shop")]
      [] [] :=
  project_of_compiled "definitions/daily/order items.sqlx" "config \x7b schema: shop \x7d\nselect 1"
    [operationDraft "definitions/daily/order items.sqlx" "order items" (some "shop")]
    (by decide +kernel) (by decide +kernel) (by decide +kernel)

theorem spaced_name_selected :
    spaced.compile.hasErrors = false ∧
    (∃ action ∈ spaced.compile.actions, action.kind ≠ .declaration ∧
      action.canonicalTarget = ⟨none, "shop", "order items"⟩ ∧
      action.canonicalTarget.Named "shop.order items" ["shop", "order items"]) ∧
    ∃ order, spaced.compile.select { actions := ["shop.order items"] } = .ok order ∧
      ⟨none, "shop", "order items"⟩ ∈ order := by
  have clean : spaced.compile.hasErrors = false := by
    rw [spaced_compiled]
    cbv
  obtain ⟨action, member, runnable, target⟩ : ∃ action ∈ spaced.compile.actions,
      action.kind ≠ .declaration ∧ action.canonicalTarget = ⟨none, "shop", "order items"⟩ := by
    rw [spaced_compiled]
    decide +kernel
  have named : action.canonicalTarget.Named "shop.order items" ["shop", "order items"] := by
    rw [target]
    exact .schemaName
  refine ⟨clean, ⟨action, member, runnable, target, named⟩, ?_⟩
  rw [← target]
  refine (own_name_selects_iff spaced clean action member runnable _ _ named).1.mpr ?_
  intro part known
  rcases List.mem_pair.mp known with rfl | rfl
  · exact ⟨by decide, by decide, by decide⟩
  · exact ⟨by decide, by decide, by decide⟩

end Compile

end SqlWorkflow
