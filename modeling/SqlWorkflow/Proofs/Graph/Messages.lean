import SqlWorkflow.Proofs.Graph.Errors

namespace SqlWorkflow.Graph

def Reports (graph : Graph) (path text : String) : Prop :=
  ∃ texts, (path, texts) ∈ graph.errors.toList ∧ text ∈ texts

def checkErrors (actions : List Action) : List FileMessage :=
  duplicateErrors actions ++ unresolvedErrors actions ++ cycleErrors actions

theorem group_errors_mem (messages : List FileMessage) (path text : String) :
    (∃ texts, (path, texts) ∈ (groupErrors messages).toList ∧ text ∈ texts) ↔
      (⟨path, text⟩ : FileMessage) ∈ messages := by
  simp only [mem_group_errors]
  constructor
  · rintro ⟨_, ⟨_, rfl⟩, member⟩
    obtain ⟨message, found, rfl⟩ := List.mem_map.mp ((SortedSet.mem_of_list _ _).mp member)
    obtain ⟨known, here⟩ := List.mem_filter.mp found
    obtain rfl := of_decide_eq_true here
    exact known
  · intro known
    refine ⟨_, ⟨List.mem_map_of_mem known, rfl⟩, (SortedSet.mem_of_list _ _).mpr ?_⟩
    exact List.mem_map_of_mem (f := FileMessage.message)
      (List.mem_filter.mpr ⟨known, decide_eq_true rfl⟩)

theorem build_reports (settings : Settings) (drafts : List Draft)
    (fileErrors fileWarnings : List FileMessage) (path text : String) :
    (build settings drafts fileErrors fileWarnings).Reports path text ↔
      (⟨path, text⟩ : FileMessage) ∈ fileErrors ∨
        (⟨path, text⟩ : FileMessage) ∈ checkErrors (orderedActions settings drafts) := by
  rw [← List.mem_append, checkErrors, ← List.append_assoc, ← List.append_assoc]
  exact group_errors_mem _ path text

section Checks

variable (actions : List Action) (path text : String)

theorem mem_duplicate_errors :
    (⟨path, text⟩ : FileMessage) ∈ duplicateErrors actions ↔
      ∃ action ∈ actions, action.fileName = path ∧
        2 ≤ (actionsAt actions action.canonicalTarget).length ∧
        text = (Error.duplicateTarget action.canonicalTarget
          ((actionsAt actions action.canonicalTarget).map Action.fileName)).message := by
  simp only [duplicateErrors, targetsOf, List.mem_flatMap, SortedSet.mem_of_list]
  constructor
  · rintro ⟨target, _, message⟩
    split at message
    · cases message
    · rename_i several
      obtain ⟨_, file, same⟩ := List.mem_map.mp message
      obtain ⟨action, there, rfl⟩ := List.mem_map.mp file
      obtain ⟨rfl, rfl⟩ := FileMessage.mk.inj same
      obtain ⟨known, rfl⟩ : action ∈ actions ∧ action.canonicalTarget = target := by
        simpa [actionsAt] using there
      rw [List.length_map] at several
      exact ⟨action, known, rfl, by omega, rfl⟩
  · rintro ⟨action, known, rfl, several, rfl⟩
    refine ⟨action.canonicalTarget, List.mem_map_of_mem known, ?_⟩
    rw [if_neg (by rw [List.length_map]; omega), List.mem_map]
    exact ⟨action.fileName, List.mem_map_of_mem (by simp [actionsAt, known]), rfl⟩

theorem mem_unresolved_errors :
    (⟨path, text⟩ : FileMessage) ∈ unresolvedErrors actions ↔
      ∃ action ∈ actions, action.fileName = path ∧ ∃ dependency ∈ action.dependencyTargets,
        dependency ∉ actions.map Action.canonicalTarget ∧
        text = (Error.unresolvedDependency action.canonicalTarget dependency).message := by
  simp only [unresolvedErrors, targetsOf, List.mem_flatMap, List.mem_map, List.mem_filter,
    SortedSet.mem_of_list, decide_eq_true_eq, FileMessage.mk.injEq]
  constructor
  · rintro ⟨action, known, dependency, ⟨depends, absent⟩, rfl, rfl⟩
    exact ⟨action, known, rfl, dependency, depends, absent, rfl⟩
  · rintro ⟨action, known, rfl, dependency, depends, absent, rfl⟩
    exact ⟨action, known, dependency, ⟨depends, absent⟩, rfl, rfl⟩

theorem mem_cycle_errors :
    (⟨path, text⟩ : FileMessage) ∈ cycleErrors actions ↔
      ∃ cycle ∈ (Dag.build (mergedDependencies actions)).cycles,
        text = (Error.circularDependency cycle).message ∧
        ∃ action ∈ actions, action.fileName = path ∧ action.canonicalTarget ∈ cycle := by
  simp only [cycleErrors, List.mem_flatMap, List.mem_map, List.mem_filter, decide_eq_true_eq,
    FileMessage.mk.injEq]
  constructor
  · rintro ⟨cycle, reported, _, ⟨action, ⟨known, inside⟩, rfl⟩, rfl, rfl⟩
    exact ⟨cycle, reported, rfl, action, known, rfl, inside⟩
  · rintro ⟨cycle, reported, rfl, action, known, rfl, inside⟩
    exact ⟨cycle, reported, _, ⟨action, ⟨known, inside⟩, rfl⟩, rfl, rfl⟩

end Checks

def TellsCycle (text : String) : Prop :=
  ∃ shown, text = "[E009] Circular dependency detected: " ++ shown

theorem circular_tells_cycle (cycle : List Target) :
    TellsCycle (Error.circularDependency cycle).message :=
  ⟨_, rfl⟩

def Tells (code text : String) : Prop :=
  code.toList <+: text.toList

instance (code text : String) : Decidable (Tells code text) :=
  inferInstanceAs (Decidable (code.toList <+: text.toList))

theorem tells_append (code first rest : String) (starts : Tells code first) :
    Tells code (first ++ rest) := by
  rw [Tells, String.toList_append]
  exact starts.trans (List.prefix_append _ _)

theorem tells_one (a b text : String) (tellsA : Tells a text) (tellsB : Tells b text)
    (length : a.toList.length = b.toList.length) : a = b := by
  have within := List.prefix_of_prefix_length_le tellsA tellsB (Nat.le_of_eq length)
  exact String.toList_injective (within.eq_of_length length)

theorem cycle_told (text : String) (cycle : TellsCycle text) : Tells "[E009]" text := by
  obtain ⟨shown, rfl⟩ := cycle
  exact tells_append _ _ _ (by decide)

theorem duplicate_told (target : Target) (files : List String) :
    Tells "[E010]" (Error.duplicateTarget target files).message := by
  have message : (Error.duplicateTarget target files).message =
      "[E010] Duplicate action target '" ++ target.display ++ "' defined in " ++
        Text.join ", " files := rfl
  rw [message, String.append_assoc, String.append_assoc]
  exact tells_append _ _ _ (by decide)

theorem unresolved_told (action dependency : Target) :
    Tells "[E011]" (Error.unresolvedDependency action dependency).message := by
  have message : (Error.unresolvedDependency action dependency).message =
      "[E011] Action '" ++ action.display ++ "' depends on '" ++ dependency.display ++
        "', which is not defined in this project" := rfl
  rw [message, String.append_assoc, String.append_assoc, String.append_assoc]
  exact tells_append _ _ _ (by decide)

theorem duplicate_tells_no_cycle (target : Target) (files : List String) :
    ¬ TellsCycle (Error.duplicateTarget target files).message := by
  intro cycle
  have same := tells_one _ _ _ (duplicate_told target files) (cycle_told _ cycle) (by decide)
  exact absurd same (by decide)

theorem unresolved_tells_no_cycle (action dependency : Target) :
    ¬ TellsCycle (Error.unresolvedDependency action dependency).message := by
  intro cycle
  have same := tells_one _ _ _ (unresolved_told action dependency) (cycle_told _ cycle) (by decide)
  exact absurd same (by decide)

end SqlWorkflow.Graph
