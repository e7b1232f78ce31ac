import SqlWorkflow.Proofs.Graph.Actions
import SqlWorkflow.Proofs.SortedMap

namespace SqlWorkflow.Graph

instance : Std.TransCmp actionOrder :=
  inferInstanceAs (Std.TransCmp
    (compareLex (compareOn Action.canonicalTarget) (compareOn Action.fileName)))

theorem same_place_of_order (a b : Action) (forward : (actionOrder a b).isLE = true)
    (back : (actionOrder b a).isLE = true) :
    a.canonicalTarget = b.canonicalTarget ∧ a.fileName = b.fileName := by
  have equal : actionOrder a b = .eq := Std.OrientedCmp.isLE_antisymm forward back
  obtain ⟨targets, files⟩ := Ordering.then_eq_eq.mp equal
  exact ⟨Std.LawfulEqOrd.eq_of_compare targets, Std.LawfulEqOrd.eq_of_compare files⟩

theorem ordered_actions_sorted (settings : Settings) (drafts : List Draft) :
    (orderedActions settings drafts).Pairwise fun a b => (actionOrder a b).isLE = true :=
  List.pairwise_mergeSort (fun _ _ _ => Std.TransCmp.isLE_trans) (compare_total actionOrder) _

def Apart (actions : List Action) : Prop :=
  ∀ a ∈ actions, ∀ b ∈ actions, a.canonicalTarget = b.canonicalTarget → a.fileName = b.fileName →
    a = b

theorem sorted_ext (a b : List Action) (perm : a.Perm b) (apart : Apart a)
    (sortedA : a.Pairwise fun x y => (actionOrder x y).isLE = true)
    (sortedB : b.Pairwise fun x y => (actionOrder x y).isLE = true) : a = b := by
  refine perm.eq_of_pairwise ?_ sortedA sortedB
  intro x y memberX memberY forward back
  obtain ⟨target, file⟩ := same_place_of_order x y forward back
  exact apart x memberX y (perm.mem_iff.mpr memberY) target file

theorem ordered_actions_congr (settings : Settings) (drafts others : List Draft)
    (perm : drafts.Perm others) (apart : Apart (drafts.map (Draft.toAction settings))) :
    orderedActions settings drafts = orderedActions settings others := by
  have first := ordered_actions_perm settings drafts
  have second := ordered_actions_perm settings others
  refine sorted_ext _ _ (first.trans ((perm.map _).trans second.symm)) ?_
    (ordered_actions_sorted settings drafts) (ordered_actions_sorted settings others)
  exact fun a memberA b memberB => apart a (first.mem_iff.mp memberA) b (first.mem_iff.mp memberB)

theorem group_errors_congr (a b : List FileMessage) (same : ∀ message, message ∈ a ↔ message ∈ b) :
    groupErrors a = groupErrors b := by
  have paths : SortedSet.ofList (a.map FileMessage.path) =
      SortedSet.ofList (b.map FileMessage.path) :=
    SortedSet.of_list_congr _ _ fun path => by simp only [List.mem_map, same]
  have texts (path : String) :
      SortedSet.ofList ((a.filter (·.path = path)).map FileMessage.message) =
        SortedSet.ofList ((b.filter (·.path = path)).map FileMessage.message) :=
    SortedSet.of_list_congr _ _ fun text => by simp only [List.mem_map, List.mem_filter, same]
  simp only [groupErrors, paths, texts]

theorem mem_paths_iff (messages : List FileMessage) (path : String) :
    path ∈ messages.map FileMessage.path ↔ messages.filter (·.path = path) ≠ [] := by
  simp [List.filter_eq_nil_iff]

theorem group_warnings_congr (a b : List FileMessage)
    (same : ∀ path, a.filter (·.path = path) = b.filter (·.path = path)) :
    groupWarnings a = groupWarnings b := by
  have paths : SortedSet.ofList (a.map FileMessage.path) =
      SortedSet.ofList (b.map FileMessage.path) :=
    SortedSet.of_list_congr _ _ fun path => by rw [mem_paths_iff, mem_paths_iff, same]
  simp only [groupWarnings, paths, same]

theorem group_warnings_get (messages : List FileMessage) (path : String) :
    (groupWarnings messages).get? path =
      if messages.filter (·.path = path) = [] then none
      else some ((messages.filter (·.path = path)).map FileMessage.message) := by
  have entry (texts : List String) : (groupWarnings messages).get? path = some texts ↔
      messages.filter (·.path = path) ≠ [] ∧
        texts = (messages.filter (·.path = path)).map FileMessage.message := by
    rw [SortedMap.get_eq_some_iff, groupWarnings,
      SortedMap.mem_of_list_map _ (SortedSet.of_list_nodup _), SortedSet.mem_of_list, mem_paths_iff]
  split
  · rename_i empty
    refine Option.eq_none_iff_forall_ne_some.mpr fun texts found => ?_
    exact ((entry texts).mp found).1 empty
  · rename_i filled
    exact (entry _).mpr ⟨filled, rfl⟩

theorem build_perm (settings : Settings) (drafts otherDrafts : List Draft)
    (errors otherErrors warnings otherWarnings : List FileMessage)
    (perm : drafts.Perm otherDrafts) (apart : Apart (drafts.map (Draft.toAction settings)))
    (sameErrors : ∀ message, message ∈ errors ↔ message ∈ otherErrors)
    (sameWarnings : ∀ path, warnings.filter (·.path = path) =
      otherWarnings.filter (·.path = path)) :
    build settings drafts errors warnings =
      build settings otherDrafts otherErrors otherWarnings := by
  have ordered := ordered_actions_congr settings drafts otherDrafts perm apart
  have grouped : groupErrors (errors ++ duplicateErrors (orderedActions settings otherDrafts) ++
        unresolvedErrors (orderedActions settings otherDrafts) ++
        cycleErrors (orderedActions settings otherDrafts)) =
      groupErrors (otherErrors ++ duplicateErrors (orderedActions settings otherDrafts) ++
        unresolvedErrors (orderedActions settings otherDrafts) ++
        cycleErrors (orderedActions settings otherDrafts)) :=
    group_errors_congr _ _ fun message => by simp only [List.mem_append, sameErrors]
  simp only [build, ordered, grouped, group_warnings_congr warnings otherWarnings sameWarnings]

end SqlWorkflow.Graph
