import Mathlib.Data.List.Chain
import Mathlib.Data.List.Nodup
import Mathlib.Data.List.Perm.Subperm
import Mathlib.Data.Nat.Find
import SqlWorkflow.Proofs.Dag.Cycles

-- The search goes level by level. After k rounds it has seen what is at most k steps away, and it
-- holds one walk to each target that is exactly k steps away.
namespace SqlWorkflow.Dag

open Relation

structure IsCycle (depends : Target → Target → Prop) (start : Target) (path : List Target) :
    Prop where
  starts : path.head? = some start
  ends : path.getLast? = some start
  long : 2 ≤ path.length
  linked : path.IsChain depends

structure IsShortestCycle (depends : Target → Target → Prop) (start : Target)
    (path : List Target) : Prop extends IsCycle depends start path where
  simple : path.dropLast.Nodup
  least : ∀ other, IsCycle depends start other → path.length ≤ other.length

theorem cycle_split {depends : Target → Target → Prop} {start : Target} {path : List Target}
    (cycle : IsCycle depends start path) : ∃ front t, path = front ++ [t] ++ [start] := by
  obtain ⟨before, rfl⟩ := List.getLast?_eq_some_iff.mp cycle.ends
  rcases List.eq_nil_or_concat' before with rfl | ⟨front, t, rfl⟩
  · have long := cycle.long
    simp at long
  · exact ⟨front, t, rfl⟩

section Walks

variable (dag : Dag) (members : List Target) (start : Target)

-- What is some number of dependencies away from the start, by a walk that stays among the members.
inductive Away : Nat → Target → Prop where
  | here : Away 0 start
  | step {n : Nat} {a b : Target} (walked : Away n a) (edge : dag.DependsOn a b)
      (inside : b ∈ members) : Away (n + 1) b

inductive WalkTo : Target → List Target → Prop where
  | here : WalkTo start [start]
  | step {a b : Target} {walk : List Target} (walked : WalkTo a walk) (edge : dag.DependsOn a b)
      (inside : b ∈ members) : WalkTo b (b :: walk)

def Nearest (n : Nat) (t : Target) : Prop :=
  dag.Away members start n t ∧ ∀ m < n, ¬ dag.Away members start m t

end Walks

section Search

variable {dag : Dag} {members : List Target} {start : Target}

theorem walk_head {t : Target} {walk : List Target} (walked : dag.WalkTo members start t walk) :
    walk.head? = some t := by
  cases walked with
  | here => rfl
  | step => rfl

theorem walk_last {t : Target} {walk : List Target} (walked : dag.WalkTo members start t walk) :
    walk.getLast? = some start := by
  induction walked with
  | here => rfl
  | step walked _ _ ih =>
      rw [List.getLast?_cons, ih]
      rfl

theorem walk_linked {t : Target} {walk : List Target} (walked : dag.WalkTo members start t walk) :
    walk.reverse.IsChain dag.DependsOn := by
  induction walked with
  | here => exact List.IsChain.singleton start
  | step walked edge _ ih =>
      rw [List.reverse_cons, List.isChain_append]
      refine ⟨ih, List.IsChain.singleton _, ?_⟩
      intro last atEnd first atStart
      rw [List.getLast?_reverse, walk_head walked] at atEnd
      cases atEnd
      cases atStart
      exact edge

theorem walk_away {t : Target} {walk : List Target} (walked : dag.WalkTo members start t walk) :
    dag.Away members start (walk.length - 1) t ∧
      ∀ x ∈ walk.tail, ∃ m < walk.length - 1, dag.Away members start m x := by
  induction walked with
  | here => exact ⟨.here, by simp⟩
  | @step a b walk walked edge inside ih =>
      obtain ⟨away, nearer⟩ := ih
      have filled : walk ≠ [] := by
        rintro rfl
        cases walked
      have positive := List.length_pos_iff.mpr filled
      have steps : (b :: walk).length - 1 = walk.length - 1 + 1 := by
        rw [List.length_cons]
        omega
      rw [steps]
      refine ⟨.step away edge inside, ?_⟩
      intro x member
      obtain ⟨first, rest, rfl⟩ := List.exists_cons_of_ne_nil filled
      rcases List.mem_cons.mp member with rfl | later
      · have same : x = a := by simpa using walk_head walked
        exact ⟨_, Nat.lt_succ_self _, same ▸ away⟩
      · obtain ⟨m, less, awayX⟩ := nearer x later
        exact ⟨m, Nat.lt_succ_of_lt less, awayX⟩

theorem walk_inside {t : Target} {walk : List Target} (walked : dag.WalkTo members start t walk)
    (home : start ∈ members) : ∀ x ∈ walk, x ∈ members := by
  intro x member
  induction walked with
  | here => exact List.mem_singleton.mp member ▸ home
  | step _ _ inside ih =>
      rcases List.mem_cons.mp member with rfl | later
      · exact inside
      · exact ih later

theorem away_reaches {n : Nat} {t : Target} (away : dag.Away members start n t) :
    ReflTransGen dag.DependsOn start t := by
  induction away with
  | here => exact .refl
  | step _ edge _ ih => exact ih.tail edge

theorem away_walk {n : Nat} {t : Target} (away : dag.Away members start n t) :
    ∃ walk, dag.WalkTo members start t walk ∧ walk.length = n + 1 := by
  induction away with
  | here => exact ⟨[start], .here, rfl⟩
  | step _ edge inside ih =>
      obtain ⟨walk, walked, length⟩ := ih
      exact ⟨_, .step walked edge inside, by rw [List.length_cons, length]⟩

-- A target that is nearest by a walk has only nearer ones before it, so the walk is simple.
theorem walk_nodup {t : Target} {walk : List Target} (walked : dag.WalkTo members start t walk)
    (nearest : dag.Nearest members start (walk.length - 1) t) : walk.Nodup := by
  induction walked with
  | here => exact List.nodup_singleton start
  | @step a b walk walked edge inside ih =>
      have positive : 0 < walk.length := by cases walked <;> simp
      have nearer := (walk_away (.step walked edge inside)).2
      refine List.nodup_cons.mpr ⟨?_, ih ⟨(walk_away walked).1, ?_⟩⟩
      · intro again
        obtain ⟨m, less, away⟩ := nearer b again
        exact nearest.2 m less away
      · intro m less away
        refine nearest.2 (m + 1) ?_ (.step away edge inside)
        rw [List.length_cons]
        omega

theorem extend_walks_mem (dag : Dag) (members seen : List Target) (walks : List (List Target))
    (walk : List Target) (member : walk ∈ (dag.extendWalks members seen walks).2) :
    ∃ old ∈ walks, ∃ a b, old.head? = some a ∧ dag.DependsOn a b ∧ b ∈ members ∧ b ∉ seen ∧
      walk = b :: old := by
  induction walks generalizing seen with
  | nil => cases member
  | cons first rest ih =>
      rw [extendWalks] at member
      rcases List.mem_append.mp member with fresh | later
      · obtain ⟨b, found, rfl⟩ := List.mem_map.mp fresh
        obtain ⟨listed, inside⟩ := List.mem_filter.mp found
        obtain ⟨inside, unseen⟩ := of_decide_eq_true inside
        obtain ⟨a, current, edge⟩ := List.mem_flatMap.mp ((SortedSet.mem_of_list _ _).mp listed)
        exact ⟨first, List.mem_cons_self, a, b, by simpa using current,
          (dag.mem_dependencies_of a b).mp edge, inside, unseen, rfl⟩
      · obtain ⟨old, known, a, b, head, edge, inside, unseen, same⟩ := ih _ later
        exact ⟨old, List.mem_cons_of_mem first known, a, b, head, edge, inside,
          fun before => unseen (List.mem_append_right _ before), same⟩

def Enters (dag : Dag) (members seen : List Target) (walks : List (List Target)) (t : Target) :
    Prop :=
  t ∈ members ∧ t ∉ seen ∧ ∃ walk ∈ walks, ∃ a, walk.head? = some a ∧ dag.DependsOn a t

theorem extend_walks_enters (dag : Dag) (members seen : List Target) (walks : List (List Target))
    (t : Target) :
    (t ∈ (dag.extendWalks members seen walks).1 ↔ t ∈ seen ∨ dag.Enters members seen walks t) ∧
      ((∃ walk ∈ (dag.extendWalks members seen walks).2, walk.head? = some t) ↔
        dag.Enters members seen walks t) := by
  induction walks generalizing seen with
  | nil => simp [extendWalks, Enters]
  | cons first rest ih =>
      rw [extendWalks]
      dsimp only
      generalize step : (SortedSet.ofList (first.head?.toList.flatMap dag.dependenciesOf)).toList.filter
        (fun b => decide (b ∈ members ∧ b ∉ seen)) = next
      have entered : t ∈ next ↔
          t ∈ members ∧ t ∉ seen ∧ ∃ a, first.head? = some a ∧ dag.DependsOn a t := by
        rw [← step, List.mem_filter, SortedSet.mem_of_list, decide_eq_true_eq]
        simp only [List.mem_flatMap, Option.mem_toList, mem_dependencies_of]
        tauto
      have now : dag.Enters members seen (first :: rest) t ↔
          t ∈ next ∨ dag.Enters members (next ++ seen) rest t := by
        by_cases here : t ∈ next
        · obtain ⟨inside, unseen, a, head, edge⟩ := entered.mp here
          exact iff_of_true ⟨inside, unseen, first, List.mem_cons_self, a, head, edge⟩ (Or.inl here)
        · have elsewhere : t ∉ next ++ seen ↔ t ∉ seen := by simp [here]
          simp only [Enters, elsewhere, here, false_or, List.exists_mem_cons_iff]
          refine and_congr_right fun inside => and_congr_right fun unseen => ?_
          exact or_iff_right fun current => here (entered.mpr ⟨inside, unseen, current⟩)
      obtain ⟨seenAfter, headsAfter⟩ := ih (next ++ seen)
      constructor
      · rw [seenAfter, now, List.mem_append]
        tauto
      · rw [now, ← headsAfter]
        constructor
        · rintro ⟨walk, member, head⟩
          rcases List.mem_append.mp member with fresh | later
          · obtain ⟨b, found, rfl⟩ := List.mem_map.mp fresh
            cases head
            exact Or.inl found
          · exact Or.inr ⟨walk, later, head⟩
        · rintro (found | ⟨walk, later, head⟩)
          · exact ⟨t :: first, List.mem_append_left _ (List.mem_map_of_mem found), rfl⟩
          · exact ⟨walk, List.mem_append_right _ later, head⟩

structure Level (dag : Dag) (members : List Target) (start : Target) (k : Nat)
    (seen : List Target) (walks : List (List Target)) : Prop where
  seen_iff : ∀ t, t ∈ seen ↔ ∃ m ≤ k, dag.Away members start m t
  heads_iff : ∀ t, (∃ walk ∈ walks, walk.head? = some t) ↔ dag.Nearest members start k t
  walked : ∀ walk ∈ walks, walk.length = k + 1 ∧ ∃ t, dag.WalkTo members start t walk
  open_before : ∀ m < k, ∀ t, dag.Away members start m t → ¬ dag.DependsOn t start

theorem level_start (dag : Dag) (members : List Target) (start : Target) :
    dag.Level members start 0 [start] [[start]] where
  seen_iff t := by
    constructor
    · intro member
      obtain rfl := List.mem_singleton.mp member
      exact ⟨0, Nat.le_refl 0, .here⟩
    · rintro ⟨m, bound, away⟩
      obtain rfl := Nat.le_zero.mp bound
      cases away
      exact List.mem_cons_self
  heads_iff t := by
    constructor
    · rintro ⟨walk, member, head⟩
      obtain rfl := List.mem_singleton.mp member
      cases head
      exact ⟨.here, fun m less => absurd less (Nat.not_lt_zero m)⟩
    · rintro ⟨away, _⟩
      cases away
      exact ⟨[start], List.mem_cons_self, rfl⟩
  walked walk member := by
    obtain rfl := List.mem_singleton.mp member
    exact ⟨rfl, start, .here⟩
  open_before m less := absurd less (Nat.not_lt_zero m)

-- Where no walk closes, nothing at this distance leads back to the start.
theorem level_open {k : Nat} {seen : List Target} {walks : List (List Target)}
    (level : dag.Level members start k seen walks)
    (unclosed : ∀ walk ∈ walks, ∀ a, walk.head? = some a → ¬ dag.DependsOn a start) :
    ∀ m < k + 1, ∀ t, dag.Away members start m t → ¬ dag.DependsOn t start := by
  intro m less t away
  by_cases earlier : ∃ n < k, dag.Away members start n t
  · obtain ⟨n, before, awayN⟩ := earlier
    exact level.open_before n before t awayN
  · have here : m = k := by
      by_contra different
      exact earlier ⟨m, by omega, away⟩
    subst here
    have nearest : dag.Nearest members start m t :=
      ⟨away, fun n before awayN => earlier ⟨n, before, awayN⟩⟩
    obtain ⟨walk, member, head⟩ := (level.heads_iff t).mpr nearest
    exact unclosed walk member t head

theorem level_enters {k : Nat} {seen : List Target} {walks : List (List Target)}
    (level : dag.Level members start k seen walks) (t : Target) :
    dag.Enters members seen walks t ↔ dag.Nearest members start (k + 1) t := by
  constructor
  · rintro ⟨inside, unseen, walk, member, a, head, edge⟩
    have nearest := (level.heads_iff a).mp ⟨walk, member, head⟩
    exact ⟨.step nearest.1 edge inside, fun m less away =>
      unseen ((level.seen_iff t).mpr ⟨m, Nat.le_of_lt_succ less, away⟩)⟩
  · rintro ⟨away, nearest⟩
    cases away with
    | @step _ a _ before edge inside =>
        refine ⟨inside, ?_, ?_⟩
        · intro known
          obtain ⟨m, bound, awayM⟩ := (level.seen_iff t).mp known
          exact nearest m (Nat.lt_succ_of_le bound) awayM
        · -- the target before the last step is nearest too, so a walk of this level ends there
          have last : dag.Nearest members start k a :=
            ⟨before, fun m less awayM => nearest (m + 1) (Nat.succ_lt_succ less)
              (.step awayM edge inside)⟩
          obtain ⟨walk, member, head⟩ := (level.heads_iff a).mpr last
          exact ⟨walk, member, a, head, edge⟩

theorem level_next {k : Nat} {seen : List Target} {walks : List (List Target)}
    (level : dag.Level members start k seen walks)
    (unclosed : ∀ walk ∈ walks, ∀ a, walk.head? = some a → ¬ dag.DependsOn a start) :
    dag.Level members start (k + 1) (dag.extendWalks members seen walks).1
      (dag.extendWalks members seen walks).2 where
  seen_iff t := by
    rw [(extend_walks_enters dag members seen walks t).1, level.seen_iff, level_enters level]
    constructor
    · rintro (⟨m, bound, away⟩ | ⟨away, _⟩)
      · exact ⟨m, Nat.le_succ_of_le bound, away⟩
      · exact ⟨k + 1, Nat.le_refl _, away⟩
    · rintro ⟨m, bound, away⟩
      by_cases near : ∃ n ≤ k, dag.Away members start n t
      · exact Or.inl near
      · have far : m = k + 1 := by
          by_contra different
          exact near ⟨m, by omega, away⟩
        exact Or.inr ⟨far ▸ away, fun n less awayN => near ⟨n, Nat.le_of_lt_succ less, awayN⟩⟩
  heads_iff t := by
    rw [(extend_walks_enters dag members seen walks t).2, level_enters level]
  walked walk member := by
    obtain ⟨old, known, a, b, head, edge, inside, _, rfl⟩ :=
      extend_walks_mem dag members seen walks walk member
    obtain ⟨length, t, walked⟩ := level.walked old known
    rw [walk_head walked] at head
    cases head
    exact ⟨by rw [List.length_cons, length], b, .step walked edge inside⟩
  open_before := level_open level unclosed

def Closes (dag : Dag) (members : List Target) (start : Target) (walk : List Target) : Prop :=
  ∃ t, dag.WalkTo members start t walk ∧ dag.DependsOn t start ∧
    ∀ m < walk.length - 1, ∀ x, dag.Away members start m x → ¬ dag.DependsOn x start

theorem close_walk_level (rounds k : Nat) (seen : List Target) (walks : List (List Target))
    (level : dag.Level members start k seen walks) :
    (∀ walk, dag.closeWalk members start rounds seen walks = some walk →
      dag.Closes members start walk) ∧
    (dag.closeWalk members start rounds seen walks = none →
      ∀ m < k + rounds, ∀ t, dag.Away members start m t → ¬ dag.DependsOn t start) := by
  induction rounds generalizing k seen walks with
  | zero => exact ⟨fun _ found => (nomatch found), fun _ => level.open_before⟩
  | succ rounds ih =>
      rw [closeWalk]
      split
      · rename_i walk found
        refine ⟨fun other same => ?_, fun absent => (nomatch absent)⟩
        obtain rfl := Option.some.inj same
        obtain ⟨length, t, walked⟩ := level.walked walk (List.mem_of_find?_eq_some found)
        have closing := List.find?_some found
        rw [walk_head walked] at closing
        refine ⟨t, walked, (dag.mem_dependencies_of t start).mp (by simpa using closing), ?_⟩
        rw [length]
        exact level.open_before
      · rename_i none
        have unclosed (walk : List Target) (member : walk ∈ walks) (a : Target)
            (head : walk.head? = some a) : ¬ dag.DependsOn a start := by
          have absent := List.find?_eq_none.mp none walk member
          rw [head] at absent
          simpa [mem_dependencies_of] using absent
        obtain ⟨sound, complete⟩ := ih (k + 1) _ _ (level_next level unclosed)
        refine ⟨sound, fun absent => ?_⟩
        have rounds' : k + (rounds + 1) = k + 1 + rounds := by omega
        rw [rounds']
        exact complete absent

end Search

section Group

variable (dag : Dag) (closed : dag.Closed) (start : Target)
  (cyclic : TransGen dag.DependsOn start start)

include closed

theorem away_of_reaches (t : Target) (there : ReflTransGen dag.DependsOn start t)
    (back : TransGen dag.DependsOn t start) :
    ∃ n, dag.Away (dag.component start) start n t := by
  induction there with
  | refl => exact ⟨0, .here⟩
  | @tail a b walked edge ih =>
      obtain ⟨n, away⟩ := ih (.head edge back)
      exact ⟨n + 1, .step away edge
        ((dag.mem_component closed start b).mpr ⟨.tail' walked edge, back⟩)⟩

theorem away_of_chain (front : List Target) (t : Target)
    (linked : (front ++ [t]).IsChain dag.DependsOn) (starts : (front ++ [t]).head? = some start)
    (back : TransGen dag.DependsOn t start) :
    dag.Away (dag.component start) start front.length t := by
  induction front using List.reverseRecOn generalizing t with
  | nil =>
      cases starts
      exact .here
  | append_singleton front last ih =>
      obtain ⟨before, _, joined⟩ := List.isChain_append.mp linked
      have edge : dag.DependsOn last t := joined last (by simp) t rfl
      have away := ih last before (by simpa using starts) (.head edge back)
      rw [List.length_append]
      exact .step away edge ((dag.mem_component closed start t).mpr
        ⟨.tail' (away_reaches away) edge, back⟩)

include cyclic

-- A shortest way round meets each node at most once, so it is found within one round for each.
theorem close_walk_some :
    ∃ walk, dag.closeWalk (dag.component start) start dag.nodes.length [start] [[start]] =
      some walk ∧ dag.Closes (dag.component start) start walk := by
  obtain ⟨sound, complete⟩ := close_walk_level dag.nodes.length 0 _ _
    (dag.level_start (dag.component start) start)
  cases found : dag.closeWalk (dag.component start) start dag.nodes.length [start] [[start]] with
  | some walk => exact ⟨walk, rfl, sound walk found⟩
  | none =>
      exfalso
      have opened := complete found
      rw [Nat.zero_add] at opened
      classical
      have returns : ∃ n t, dag.Away (dag.component start) start n t ∧ dag.DependsOn t start := by
        obtain ⟨t, walked, edge⟩ := TransGen.tail'_iff.mp cyclic
        obtain ⟨n, away⟩ := dag.away_of_reaches closed start t walked (.single edge)
        exact ⟨n, t, away, edge⟩
      obtain ⟨t, away, edge⟩ := Nat.find_spec returns
      obtain ⟨walk, walked, length⟩ := away_walk away
      have nearest : dag.Nearest (dag.component start) start (walk.length - 1) t := by
        rw [length]
        exact ⟨away, fun m less awayM => Nat.find_min returns less ⟨t, awayM, edge⟩⟩
      have known (x : Target) (member : x ∈ walk) : x ∈ dag.nodes := by
        have inside := walk_inside walked ((dag.mem_component closed start start).mpr
          ⟨cyclic, cyclic⟩) x member
        obtain ⟨there, back⟩ := (dag.mem_component closed start x).mp inside
        exact dag.cyclic_mem_nodes closed x (back.trans there)
      have bound : walk.length ≤ dag.nodes.length :=
        (List.subperm_of_subset (walk_nodup walked nearest) known).length_le
      exact opened (Nat.find returns) (by omega) t away edge

theorem cycle_path_shortest :
    IsShortestCycle dag.DependsOn start (dag.cyclePath start) ∧
      ∀ t ∈ dag.cyclePath start, t ∈ dag.component start := by
  obtain ⟨walk, found, last, walked, edge, nearest⟩ := dag.close_walk_some closed start cyclic
  have path : dag.cyclePath start = walk.reverse ++ [start] := by
    rw [cyclePath, found]
    rfl
  have filled : 1 ≤ walk.length := by cases walked <;> simp
  have home : start ∈ dag.component start :=
    (dag.mem_component closed start start).mpr ⟨cyclic, cyclic⟩
  rw [path]
  refine ⟨{ starts := ?_, ends := ?_, long := ?_, linked := ?_, simple := ?_, least := ?_ }, ?_⟩
  · rw [List.head?_append, List.head?_reverse, walk_last walked]
    rfl
  · exact List.getLast?_concat
  · simpa using filled
  · rw [List.isChain_append]
    refine ⟨walk_linked walked, List.IsChain.singleton start, ?_⟩
    intro a atEnd b atStart
    rw [List.getLast?_reverse, walk_head walked] at atEnd
    cases atEnd
    cases atStart
    exact edge
  · rw [List.dropLast_concat, List.nodup_reverse]
    refine walk_nodup walked ⟨(walk_away walked).1, fun m less away => ?_⟩
    exact nearest m less last away edge
  · intro other cycle
    obtain ⟨front, t, rfl⟩ := cycle_split cycle
    obtain ⟨before, _, joined⟩ := List.isChain_append.mp cycle.linked
    have back : dag.DependsOn t start := joined t (by simp) start rfl
    have away := dag.away_of_chain closed start front t before
      (by simpa using cycle.starts) (.single back)
    have far : ¬ front.length < walk.length - 1 := fun less => nearest _ less t away back
    simp only [List.length_append, List.length_reverse, List.length_singleton]
    omega
  · intro t member
    rcases List.mem_append.mp member with inside | atEnd
    · exact walk_inside walked home t (List.mem_reverse.mp inside)
    · exact List.mem_singleton.mp atEnd ▸ home

end Group

end SqlWorkflow.Dag
