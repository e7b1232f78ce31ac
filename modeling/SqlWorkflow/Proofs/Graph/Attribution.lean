import SqlWorkflow.Proofs.Graph.CycleErrors
import SqlWorkflow.Proofs.Graph.Rearranged

namespace SqlWorkflow.Graph

-- A graph is built by target and then by file, so the actions of one target come by file.
def filesAt (graph : Graph) (target : Target) : List String :=
  ((actionsAt graph.actions target).map Action.fileName).mergeSort fun a b => (compare a b).isLE

inductive BelongsTo (graph : Graph) (cycles : List (List Target)) (fileErrors : List FileMessage)
    (path : String) : String → Prop where
  | file {text : String} (known : (⟨path, text⟩ : FileMessage) ∈ fileErrors) :
      BelongsTo graph cycles fileErrors path text
  | duplicate {target : Target} (shared : 2 ≤ (graph.filesAt target).length)
      (owner : path ∈ graph.filesAt target) :
      BelongsTo graph cycles fileErrors path
        (Error.duplicateTarget target (graph.filesAt target)).message
  | unresolved {action : Action} {dependency : Target} (member : action ∈ graph.actions)
      (here : action.fileName = path) (depends : dependency ∈ action.dependencyTargets)
      (absent : ∀ other ∈ graph.actions, other.canonicalTarget ≠ dependency) :
      BelongsTo graph cycles fileErrors path
        (Error.unresolvedDependency action.canonicalTarget dependency).message
  | cycle {cycle : List Target} {action : Action} (reported : cycle ∈ cycles)
      (member : action ∈ graph.actions) (here : action.fileName = path)
      (inside : action.canonicalTarget ∈ cycle) :
      BelongsTo graph cycles fileErrors path (Error.circularDependency cycle).message

theorem group_errors_get (messages : List FileMessage) (path : String) (texts : List String) :
    (groupErrors messages).get? path = some texts ↔
      path ∈ messages.map FileMessage.path ∧ texts =
        (SortedSet.ofList ((messages.filter (·.path = path)).map FileMessage.message)).toList := by
  rw [SortedMap.get_eq_some_iff, mem_group_errors]

theorem reports_iff_get (graph : Graph) (path text : String) :
    graph.Reports path text ↔ ∃ texts, graph.errors.get? path = some texts ∧ text ∈ texts := by
  simp only [Reports, SortedMap.get_eq_some_iff]

section Build

variable (settings : Settings) (drafts : List Draft) (fileErrors fileWarnings : List FileMessage)

theorem actions_at_sorted (target : Target) :
    ((actionsAt (orderedActions settings drafts) target).map Action.fileName).Pairwise
      fun a b => (compare a b).isLE = true := by
  rw [List.pairwise_map]
  refine List.Pairwise.imp_of_mem (fun {a b} memberA memberB below => ?_)
    ((ordered_actions_sorted settings drafts).filter _)
  have there : a.canonicalTarget = b.canonicalTarget :=
    (of_decide_eq_true (List.mem_filter.mp memberA).2).trans
      (of_decide_eq_true (List.mem_filter.mp memberB).2).symm
  -- the targets are equal, so the files decide
  have targets : compareOn Action.canonicalTarget a b = .eq := by
    rw [compareOn, there, Std.ReflOrd.compare_self]
  rw [actionOrder, compareLex, targets] at below
  exact below

theorem build_files_at (target : Target) :
    (build settings drafts fileErrors fileWarnings).filesAt target =
      (actionsAt (orderedActions settings drafts) target).map Action.fileName := by
  have perm : ((actionsAt (build settings drafts fileErrors fileWarnings).actions target).map
      Action.fileName).Perm
        ((actionsAt (orderedActions settings drafts) target).map Action.fileName) := by
    have final := ((build_actions_perm settings drafts fileErrors fileWarnings).filter
      (·.canonicalTarget = target)).map Action.fileName
    simpa only [propagateDisabled, List.filter_map, List.map_map, Function.comp_def, actionsAt,
      disable_assertion_canonical, disable_assertion_file] using final
  refine ((List.mergeSort_perm _ _).trans perm).eq_of_pairwise ?_
    (List.pairwise_mergeSort (fun _ _ _ => Std.TransCmp.isLE_trans) (compare_total compare) _)
    (actions_at_sorted settings drafts target)
  intro a b _ _ below above
  exact Std.LawfulEqOrd.eq_of_compare (Std.OrientedCmp.isLE_antisymm below above)

theorem mem_build_targets (target : Target) :
    target ∈ (orderedActions settings drafts).map Action.canonicalTarget ↔
      ∃ other ∈ (build settings drafts fileErrors fileWarnings).actions,
        other.canonicalTarget = target := by
  rw [← (build_targets_perm settings drafts fileErrors fileWarnings).mem_iff, List.mem_map]

theorem check_errors_belong (path text : String)
    (told : (⟨path, text⟩ : FileMessage) ∈ checkErrors (orderedActions settings drafts)) :
    (build settings drafts fileErrors fileWarnings).BelongsTo (reportedCycles settings drafts)
      fileErrors path text := by
  have final (own : Action) (known : own ∈ orderedActions settings drafts) :=
    (mem_build_actions settings drafts fileErrors fileWarnings _).mpr ⟨own, known, rfl⟩
  simp only [checkErrors, List.mem_append, mem_duplicate_errors, mem_unresolved_errors,
    mem_cycle_errors] at told
  rcases told with (⟨own, known, rfl, several, rfl⟩ |
    ⟨own, known, rfl, dependency, depends, absent, rfl⟩) | ⟨cycle, reported, rfl, own, known, rfl, inside⟩
  · rw [← build_files_at settings drafts fileErrors fileWarnings]
    refine .duplicate ?_ ?_
    · rw [build_files_at, List.length_map]
      exact several
    · rw [build_files_at]
      exact List.mem_map_of_mem (List.mem_filter.mpr ⟨known, decide_eq_true rfl⟩)
  · have message : (build settings drafts fileErrors fileWarnings).BelongsTo
        (reportedCycles settings drafts) fileErrors own.fileName _ :=
      .unresolved (final own known) (disable_assertion_file _ own)
        ((disable_assertion_dependencies _ own).symm ▸ depends) fun other member there =>
          absent ((mem_build_targets settings drafts fileErrors fileWarnings _).mpr
            ⟨other, member, there⟩)
    rwa [disable_assertion_canonical] at message
  · exact .cycle reported (final own known) (disable_assertion_file _ own)
      ((disable_assertion_canonical _ own).symm ▸ inside)

theorem belongs_check_errors (path text : String)
    (belongs : (build settings drafts fileErrors fileWarnings).BelongsTo
      (reportedCycles settings drafts) fileErrors path text) :
    (⟨path, text⟩ : FileMessage) ∈ fileErrors ∨
      (⟨path, text⟩ : FileMessage) ∈ checkErrors (orderedActions settings drafts) := by
  simp only [checkErrors, List.mem_append, mem_duplicate_errors, mem_unresolved_errors,
    mem_cycle_errors]
  cases belongs with
  | file known => exact Or.inl known
  | @duplicate target shared owner =>
      rw [build_files_at] at shared owner ⊢
      obtain ⟨own, there, rfl⟩ := List.mem_map.mp owner
      obtain ⟨known, there⟩ := List.mem_filter.mp there
      obtain rfl := of_decide_eq_true there
      rw [List.length_map] at shared
      exact Or.inr (Or.inl (Or.inl ⟨own, known, rfl, shared, rfl⟩))
  | @unresolved action dependency member here depends absent =>
      obtain ⟨own, known, rfl⟩ := (mem_build_actions _ _ _ _ _).mp member
      rw [disable_assertion_file] at here
      rw [disable_assertion_dependencies] at depends
      refine Or.inr (Or.inl (Or.inr ⟨own, known, here, dependency, depends, fun found => ?_, ?_⟩))
      · obtain ⟨other, member, there⟩ :=
          (mem_build_targets settings drafts fileErrors fileWarnings dependency).mp found
        exact absent other member there
      · rw [disable_assertion_canonical]
  | @cycle cycle action reported member here inside =>
      obtain ⟨own, known, rfl⟩ := (mem_build_actions _ _ _ _ _).mp member
      rw [disable_assertion_file] at here
      rw [disable_assertion_canonical] at inside
      exact Or.inr (Or.inr ⟨cycle, reported, rfl, own, known, here, inside⟩)

theorem build_reports_iff (path text : String) :
    (build settings drafts fileErrors fileWarnings).Reports path text ↔
      (build settings drafts fileErrors fileWarnings).BelongsTo (reportedCycles settings drafts)
        fileErrors path text := by
  rw [build_reports]
  constructor
  · rintro (known | told)
    · exact .file known
    · exact check_errors_belong settings drafts fileErrors fileWarnings path text told
  · exact belongs_check_errors settings drafts fileErrors fileWarnings path text

theorem build_entry_filled (path : String) (texts : List String)
    (entry : (build settings drafts fileErrors fileWarnings).errors.get? path = some texts) :
    ∃ text, text ∈ texts := by
  obtain ⟨told, rfl⟩ := (group_errors_get _ path texts).mp entry
  obtain ⟨message, known, here⟩ := List.mem_map.mp told
  refine ⟨message.message, (SortedSet.mem_of_list _ _).mpr (List.mem_map_of_mem ?_)⟩
  exact List.mem_filter.mpr ⟨known, decide_eq_true here⟩

theorem build_entry_ascending (path : String) (texts : List String)
    (entry : (build settings drafts fileErrors fileWarnings).errors.get? path = some texts) :
    Ascending texts := by
  obtain ⟨_, rfl⟩ := (group_errors_get _ path texts).mp entry
  exact SortedSet.ascending _

theorem build_entries_exact (path : String) :
    ((∃ texts, (build settings drafts fileErrors fileWarnings).errors.get? path = some texts) ↔
      ∃ text, (build settings drafts fileErrors fileWarnings).BelongsTo
        (reportedCycles settings drafts) fileErrors path text) ∧
    (∀ texts, (build settings drafts fileErrors fileWarnings).errors.get? path = some texts →
      Ascending texts ∧ texts.Nodup ∧
      ∀ text, text ∈ texts ↔ (build settings drafts fileErrors fileWarnings).BelongsTo
        (reportedCycles settings drafts) fileErrors path text) ∧
    (build settings drafts fileErrors fileWarnings).warnings.get? path =
      if fileWarnings.filter (·.path = path) = [] then none
      else some ((fileWarnings.filter (·.path = path)).map FileMessage.message) := by
  have reports := build_reports_iff settings drafts fileErrors fileWarnings path
  refine ⟨⟨?_, ?_⟩, fun texts entry => ?_, group_warnings_get fileWarnings path⟩
  · rintro ⟨texts, entry⟩
    obtain ⟨text, listed⟩ := build_entry_filled settings drafts fileErrors fileWarnings path texts entry
    exact ⟨text, (reports text).mp ((reports_iff_get _ path text).mpr ⟨texts, entry, listed⟩)⟩
  · rintro ⟨text, belongs⟩
    obtain ⟨texts, entry, _⟩ := (reports_iff_get _ path text).mp ((reports text).mpr belongs)
    exact ⟨texts, entry⟩
  · have sorted := build_entry_ascending settings drafts fileErrors fileWarnings path texts entry
    refine ⟨sorted, ascending_nodup texts sorted, fun text => ?_⟩
    rw [← reports, reports_iff_get]
    constructor
    · exact fun listed => ⟨texts, entry, listed⟩
    · rintro ⟨others, same, listed⟩
      obtain rfl := Option.some.inj (same.symm.trans entry)
      exact listed

end Build

end SqlWorkflow.Graph
