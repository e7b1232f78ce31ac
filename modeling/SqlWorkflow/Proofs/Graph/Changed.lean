import SqlWorkflow.Proofs.Graph.Isolated

-- The order, the checks and the dependency graph of actions read kinds, targets, files and
-- dependencies only, so a change that keeps these can be made before a graph is built or after it.
namespace SqlWorkflow.Graph

structure KeepsLinks (change : Action → Action) : Prop where
  kind : ∀ action, (change action).kind = action.kind
  canonical : ∀ action, (change action).canonicalTarget = action.canonicalTarget
  file : ∀ action, (change action).fileName = action.fileName
  dependencies : ∀ action, (change action).dependencyTargets = action.dependencyTargets

section Changed

variable {change : Action → Action} (keeps : KeepsLinks change)

include keeps

theorem ordered_actions_changed (settings other : Settings) (drafts : List Draft)
    (made : ∀ draft, Draft.toAction other draft = change (Draft.toAction settings draft)) :
    orderedActions other drafts = (orderedActions settings drafts).map change := by
  have actions : drafts.map (Draft.toAction other) =
      (drafts.map (Draft.toAction settings)).map change := by
    rw [List.map_map]
    exact List.map_congr_left fun draft _ => made draft
  have order (a b : Action) : actionOrder (change a) (change b) = actionOrder a b := by
    simp only [actionOrder, compareLex, compareOn, keeps.canonical, keeps.file]
  rw [orderedActions, actions, orderedActions]
  exact (List.map_mergeSort fun a _ b _ => congrArg Ordering.isLE (order a b).symm).symm

theorem targets_of_changed (actions : List Action) :
    targetsOf (actions.map change) = targetsOf actions := by
  simp only [targetsOf, List.map_map, Function.comp_def, keeps.canonical]

theorem actions_at_changed (actions : List Action) (target : Target) :
    actionsAt (actions.map change) target = (actionsAt actions target).map change := by
  simp only [actionsAt, List.filter_map, Function.comp_def, keeps.canonical]

theorem duplicate_errors_changed (actions : List Action) :
    duplicateErrors (actions.map change) = duplicateErrors actions := by
  simp only [duplicateErrors, targets_of_changed keeps, actions_at_changed keeps, List.map_map,
    Function.comp_def, keeps.file]

theorem unresolved_errors_changed (actions : List Action) :
    unresolvedErrors (actions.map change) = unresolvedErrors actions := by
  simp only [unresolvedErrors, targets_of_changed keeps, List.flatMap_map, keeps.canonical,
    keeps.file, keeps.dependencies]

theorem merged_dependencies_changed (actions : List Action) :
    mergedDependencies (actions.map change) = mergedDependencies actions := by
  simp only [mergedDependencies, targets_of_changed keeps, actions_at_changed keeps,
    List.flatMap_map, keeps.dependencies]

theorem cycle_errors_changed (actions : List Action) :
    cycleErrors (actions.map change) = cycleErrors actions := by
  simp only [cycleErrors, merged_dependencies_changed keeps, List.filter_map, List.map_map,
    Function.comp_def, keeps.canonical, keeps.file]

theorem settled_changed (settings other : Settings) (drafts : List Draft)
    (made : ∀ draft, Draft.toAction other draft = change (Draft.toAction settings draft))
    (settles : ∀ actions, propagateDisabled (actions.map change) =
      (propagateDisabled actions).map change) :
    propagateDisabled (orderedActions other drafts) =
      (propagateDisabled (orderedActions settings drafts)).map change := by
  rw [ordered_actions_changed keeps settings other drafts made, settles]

-- A change that can be made before propagation or after it changes a built graph in its actions
-- alone.
theorem build_changed (settings other : Settings) (drafts : List Draft)
    (fileErrors fileWarnings : List FileMessage)
    (made : ∀ draft, Draft.toAction other draft = change (Draft.toAction settings draft))
    (settles : ∀ actions, propagateDisabled (actions.map change) =
      (propagateDisabled actions).map change) :
    (build other drafts fileErrors fileWarnings).actions =
        (build settings drafts fileErrors fileWarnings).actions.map change ∧
      (build other drafts fileErrors fileWarnings).errors =
        (build settings drafts fileErrors fileWarnings).errors := by
  refine ⟨?_, ?_⟩
  · rw [build_actions_eq, build_actions_eq, List.map_flatMap,
      settled_changed keeps settings other drafts made settles]
    simp only [List.filter_map, Function.comp_def, keeps.kind]
  · simp only [build, ordered_actions_changed keeps settings other drafts made,
      duplicate_errors_changed keeps, unresolved_errors_changed keeps, cycle_errors_changed keeps]

theorem runnable_changed (action : Action) : (change action).runnable = action.runnable := by
  rw [Action.runnable, Action.runnable, keeps.kind]

variable {graph other : Graph} (changed : other.actions = graph.actions.map change)

include changed

theorem dag_changed : other.dag = graph.dag := by
  simp only [dag, dependencies, changed, List.map_map, Function.comp_def, keeps.canonical,
    keeps.dependencies]

theorem find_changed (target : Target) :
    other.find? target = (graph.find? target).map change := by
  simp only [find?, changed, List.find?_map, Function.comp_def, keeps.canonical]

theorem named_changed (name : String) : other.named name = graph.named name := by
  have matching (parts : List String) :
      other.actions.filter (·.canonicalTarget.matchesParts parts) =
        (graph.actions.filter (·.canonicalTarget.matchesParts parts)).map change := by
    simp only [changed, List.filter_map, Function.comp_def, keeps.canonical]
  have runnable (found : List Action) : (found.map change).filter Action.runnable =
      (found.filter Action.runnable).map change := by
    simp only [List.filter_map, Function.comp_def, runnable_changed keeps]
  unfold named
  cases Reference.parse? name with
  | none => rfl
  | some reference =>
      dsimp only
      rw [matching]
      cases graph.actions.filter (·.canonicalTarget.matchesParts reference.parts) with
      | nil => rfl
      | cons first rest =>
          rw [List.map_cons]
          dsimp only
          rw [← List.map_cons, runnable]
          cases (first :: rest).filter Action.runnable with
          | nil => rfl
          | cons chosen others =>
              simp only [List.map_cons, List.map_map, Function.comp_def, keeps.canonical]

end Changed

end SqlWorkflow.Graph
