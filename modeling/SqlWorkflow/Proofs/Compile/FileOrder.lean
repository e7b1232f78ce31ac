import SqlWorkflow.Proofs.Compile.Files
import SqlWorkflow.Proofs.NameTable
import SqlWorkflow.Proofs.Template.Agreement

-- The order of the files can change which kind the table of names keeps for a target, but not what
-- a reference stands for.
namespace SqlWorkflow.Compile

section Rendering

variable {s s' : Template.Setting} (agree : s.Agree s')

include agree

theorem text_congr : Rendering.text s = Rendering.text s' := by
  funext template
  unfold Rendering.text
  rw [Template.render_congr agree]

theorem incremental_agree :
    Template.Setting.Agree { s with incremental := true } { s' with incremental := true } :=
  { agree with incremental := rfl }

theorem draft_kind_congr : Rendering.draftKind s = Rendering.draftKind s' := by
  funext definition
  simp only [Rendering.draftKind, Rendering.query, Rendering.optionalStatements,
    Rendering.statements, text_congr agree, text_congr (incremental_agree agree)]

end Rendering

section Tables

variable {names others : NameTable} (settings : names.settings = others.settings)
  (targets : names.targets = others.targets)

include settings targets

theorem setting_agree (definition : Definition) :
    (definition.setting names).Agree (definition.setting others) where
  settings := settings
  targets := targets
  action := rfl
  target := by simp only [Definition.setting, settings]
  incremental := rfl

theorem draft_congr : Definition.draft names = Definition.draft others := by
  funext definition
  simp only [Definition.draft, Definition.render, NameTable.declaredDependencies, settings, targets,
    draft_kind_congr (setting_agree settings targets definition)]

end Tables

-- Each file has at most one definition, so its notes keep their order.
theorem notes_in_order {definitions others : List Definition} (perm : definitions.Perm others)
    (distinct : (definitions.map Definition.path).Nodup) (path : String) :
    (definitions.flatMap Definition.notes).filter (·.path = path) =
      (others.flatMap Definition.notes).filter (·.path = path) := by
  have alone (items : List Definition) (nodup : (items.map Definition.path).Nodup) :
      (items.filter (·.path = path)).Pairwise fun _ _ => False := by
    refine ((List.pairwise_map.mp nodup).filter _).imp_of_mem fun first second different => ?_
    have one := of_decide_eq_true (List.mem_filter.mp first).2
    have two := of_decide_eq_true (List.mem_filter.mp second).2
    exact different (one.trans two.symm)
  have here : definitions.filter (·.path = path) = others.filter (·.path = path) :=
    (perm.filter _).eq_of_pairwise (fun _ _ _ _ never => never.elim) (alone _ distinct)
      (alone _ ((perm.map _).nodup_iff.mp distinct))
  have noted := flat_map_filter Definition.notes Definition.path FileMessage.path notes_path
    (decide <| · = path)
  rw [noted, noted, here]

theorem compile_files_perm (settings : Settings) (files others : List SourceFile)
    (perm : files.Perm others) (distinct : (files.map SourceFile.path).Nodup)
    (consistent : NameTable.Consistent (declared settings files)) :
    compileFiles settings files = compileFiles settings others := by
  let names := NameTable.ofList settings (declared settings files)
  let otherNames := NameTable.ofList settings (declared settings others)
  obtain ⟨reordered, unreadPerm⟩ := separate_perm SourceFile.read perm
  have settingsSame : names.settings = otherNames.settings := by simp [names, otherNames]
  have targetsSame : names.targets = otherNames.targets :=
    NameTable.targets_perm settings _ _ (reordered.map _) consistent
  have same : Definition.draft names = Definition.draft otherNames :=
    draft_congr settingsSame targetsSame
  obtain ⟨drafts, faults⟩ :
      (drafted names (parsed files)).Perm (drafted otherNames (parsed others)) ∧
        (unrendered names (parsed files)).Perm (unrendered otherNames (parsed others)) := by
    simp only [drafted, unrendered, same]
    exact separate_perm _ reordered
  have errors (message : FileMessage) :
      message ∈ unread files ++ unrendered names (parsed files) ++
          (Synthesis.ofDrafts settings (drafted names (parsed files))).errors ↔
        message ∈ unread others ++ unrendered otherNames (parsed others) ++
          (Synthesis.ofDrafts settings (drafted otherNames (parsed others))).errors := by
    rw [Synthesis.of_drafts_errors, Synthesis.of_drafts_errors]
    exact ((unreadPerm.append faults).append (drafts.flatMap_right _)).mem_iff
  have withMade : (withAssertions settings (drafted names (parsed files))).Perm
      (withAssertions settings (drafted otherNames (parsed others))) := by
    rw [withAssertions, withAssertions, Synthesis.of_drafts_drafts, Synthesis.of_drafts_drafts]
    exact drafts.append (drafts.flatMap_right _)
  exact Graph.build_perm settings _ _ _ _ _ _ withMade
    (with_assertions_apart settings _ (drafted_files_nodup names files distinct)) errors
    (notes_in_order reordered (parsed_paths_nodup files distinct))

-- Two files with one target, of different kinds, and a file that refers to it.
def sharedTarget : List SourceFile :=
  [⟨"definitions/orders.sqlx", .ok "config \x7b type: table \x7d select 1 as id"⟩,
    ⟨"definitions/copy.sqlx", .ok "config \x7b name: orders \x7d select 2 as id"⟩,
    ⟨"definitions/report.sqlx",
      .ok "config \x7b type: view \x7d select id from $\x7bref('orders')\x7d"⟩]

theorem compile_files_perm_shared : sharedTarget.Perm sharedTarget.reverse ∧
    (sharedTarget.map SourceFile.path).Nodup ∧
    NameTable.Consistent (declared {} sharedTarget) ∧
    compileFiles {} sharedTarget = compileFiles {} sharedTarget.reverse := by
  have perm : sharedTarget.Perm sharedTarget.reverse := (List.reverse_perm _).symm
  have distinct : (sharedTarget.map SourceFile.path).Nodup := by decide
  have names : declared {} sharedTarget = [(.table, ⟨none, "dataform", "orders"⟩),
      (.operation, ⟨none, "dataform", "orders"⟩), (.table, ⟨none, "dataform", "report"⟩)] := by
    decide +kernel
  have consistent : NameTable.Consistent (declared {} sharedTarget) := by
    rw [names, NameTable.Consistent]
    decide
  exact ⟨perm, distinct, consistent, compile_files_perm {} _ _ perm distinct consistent⟩

end SqlWorkflow.Compile
