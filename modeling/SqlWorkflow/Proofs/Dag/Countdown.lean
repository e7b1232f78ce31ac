import SqlWorkflow.Proofs.Dag.Drains

-- In every state of the countdown the degree of a node is the number of nodes not listed yet that
-- it waits for, and the ready nodes are the free ones among them. So no degree falls below zero,
-- and each step takes the least free node.
namespace SqlWorkflow.Dag.Countdown

open Relation

section Lowering

variable (state : Countdown)

theorem get_lower (target t : Target) : (state.lower target).degrees.get? t =
    if t = target then (state.degrees.get? t).map (· - 1) else state.degrees.get? t := by
  by_cases same : t = target
  · subst same
    rw [if_pos rfl, lower]
    cases found : state.degrees.get? t with
    | none => exact found
    | some degree => exact (SortedMap.get_insert _ _ _ _).trans (if_pos rfl)
  · rw [if_neg same, lower]
    cases state.degrees.get? target with
    | none => rfl
    | some degree => exact (SortedMap.get_insert _ _ _ _).trans (if_neg same)

theorem mem_ready_lower (target t : Target) : t ∈ (state.lower target).ready ↔
    t ∈ state.ready ∨ t = target ∧ state.degrees.get? t = some 1 := by
  unfold lower
  cases found : state.degrees.get? target with
  | none =>
      refine ⟨Or.inl, fun either => either.resolve_right ?_⟩
      rintro ⟨rfl, one⟩
      cases found.symm.trans one
  | some degree =>
      dsimp only
      split
      · rename_i zero
        obtain rfl : degree = 1 := by omega
        rw [List.mem_cons, or_comm]
        exact or_congr_right ⟨fun same => ⟨same, same ▸ found⟩, And.left⟩
      · rename_i left
        refine ⟨Or.inl, fun either => either.resolve_right ?_⟩
        rintro ⟨rfl, one⟩
        obtain rfl := Option.some.inj (found.symm.trans one)
        exact left rfl

theorem ready_lower_nodup (target : Target) (once : state.ready.Nodup)
    (fresh : target ∉ state.ready) : (state.lower target).ready.Nodup := by
  unfold lower
  split
  · exact once
  · dsimp only
    split
    · exact List.nodup_cons.mpr ⟨fresh, once⟩
    · exact once

theorem order_lower (target : Target) : (state.lower target).order = state.order := by
  unfold lower
  split <;> rfl

end Lowering

theorem order_lower_all (targets : List Target) (state : Countdown) :
    (targets.foldl lower state).order = state.order := by
  induction targets generalizing state with
  | nil => rfl
  | cons first rest ih => rw [List.foldl_cons, ih, order_lower]

theorem get_lower_all (targets : List Target) (state : Countdown) (distinct : targets.Nodup)
    (t : Target) : (targets.foldl lower state).degrees.get? t =
      if t ∈ targets then (state.degrees.get? t).map (· - 1) else state.degrees.get? t := by
  induction targets generalizing state with
  | nil => rfl
  | cons first rest ih =>
      obtain ⟨fresh, distinct⟩ := List.nodup_cons.mp distinct
      rw [List.foldl_cons, ih _ distinct, get_lower]
      by_cases same : t = first
      · subst same
        rw [if_neg fresh, if_pos rfl, if_pos List.mem_cons_self]
      · simp only [List.mem_cons, same, false_or, if_false]

theorem mem_ready_lower_all (targets : List Target) (state : Countdown) (distinct : targets.Nodup)
    (t : Target) : t ∈ (targets.foldl lower state).ready ↔
      t ∈ state.ready ∨ t ∈ targets ∧ state.degrees.get? t = some 1 := by
  induction targets generalizing state with
  | nil => simp
  | cons first rest ih =>
      obtain ⟨fresh, distinct⟩ := List.nodup_cons.mp distinct
      rw [List.foldl_cons, ih _ distinct, mem_ready_lower, get_lower, or_assoc]
      refine or_congr_right ?_
      by_cases same : t = first
      · subst same
        simp [fresh]
      · simp [same]

theorem ready_lower_all_nodup (targets : List Target) (state : Countdown)
    (distinct : targets.Nodup) (once : state.ready.Nodup)
    (fresh : ∀ t ∈ targets, t ∉ state.ready) : (targets.foldl lower state).ready.Nodup := by
  induction targets generalizing state with
  | nil => exact once
  | cons first rest ih =>
      obtain ⟨head, distinct⟩ := List.nodup_cons.mp distinct
      have first_fresh := fresh first List.mem_cons_self
      refine ih _ distinct (state.ready_lower_nodup first once first_fresh) fun t later ready => ?_
      rcases (state.mem_ready_lower first t).mp ready with old | ⟨rfl, _⟩
      · exact fresh t (List.mem_cons_of_mem first later) old
      · exact head later

def remaining (chosen : List Target) (state : Countdown) : List Target :=
  chosen.filter (· ∉ state.order)

theorem remaining_snoc (chosen : List Target) (state next : Countdown) (t : Target)
    (listed : next.order = state.order ++ [t]) :
    next.remaining chosen = (state.remaining chosen).filter (· ≠ t) := by
  rw [remaining, listed, remaining, List.filter_filter]
  exact List.filter_congr fun u _ => by simp [and_comm, not_or]

theorem remaining_nodup (chosen : List Target) (distinct : chosen.Nodup) (state : Countdown) :
    (state.remaining chosen).Nodup :=
  distinct.filter _

structure Counts (dag : Dag) (chosen : List Target) (state : Countdown) : Prop where
  degrees : ∀ t degree, state.degrees.get? t = some degree ↔
    t ∈ chosen ∧ degree = dag.degree (state.remaining chosen) t
  ready : ∀ t, t ∈ state.ready ↔ t ∈ dag.free (state.remaining chosen)
  once : state.ready.Nodup
  settled : ∀ t ∈ state.order, ∀ other ∈ state.remaining chosen, ¬ TransGen dag.DependsOn t other

theorem followers_of_nodup (dag : Dag) (chosen : List Target) (distinct : chosen.Nodup)
    (target : Target) : (dag.followersOf chosen target).Nodup :=
  distinct.filter _

theorem followers_get (dag : Dag) (chosen : List Target) (distinct : chosen.Nodup)
    (target : Target) (member : target ∈ chosen) :
    (dag.followers chosen).get? target = some (dag.followersOf chosen target) := by
  rw [SortedMap.get_eq_some_iff, followers, SortedMap.mem_of_list_map chosen distinct]
  exact ⟨member, rfl⟩

def taken (dag : Dag) (chosen : List Target) (state : Countdown) (target : Target) : Countdown :=
  (dag.followersOf chosen target).foldl lower (state.emit target)

section Steps

variable {dag : Dag} (closed : dag.Closed)

include closed

theorem mem_followers_of (chosen : List Target) (target t : Target) :
    t ∈ dag.followersOf chosen target ↔ t ∈ chosen ∧ t ≠ target ∧ TransGen dag.DependsOn t target := by
  rw [followersOf, List.mem_filter, decide_eq_true_eq, mem_descendants dag closed]

-- Taking a node out lowers the degrees of exactly those that depend on it.
theorem degree_without (chosen rest : List Target) (distinct : rest.Nodup) (target t : Target)
    (pending : target ∈ rest) (member : t ∈ chosen) :
    dag.degree rest t = dag.degree (rest.filter (· ≠ target)) t +
      if t ∈ dag.followersOf chosen target then 1 else 0 := by
  have split := (List.perm_cons_erase pending).countP_eq
    fun other => decide (other ≠ t ∧ other ∈ (dag.ancestors t).toList)
  have waits : (target ≠ t ∧ target ∈ (dag.ancestors t).toList) ↔
      t ∈ dag.followersOf chosen target := by
    rw [mem_followers_of closed, mem_ancestors dag closed, and_iff_right member, ne_comm]
  rw [degree, degree, split, List.countP_cons, filter_ne_eq_erase rest distinct]
  simp only [decide_eq_true_eq, waits]

variable {chosen : List Target} {state : Countdown} (counts : Counts dag chosen state)

include counts

theorem follower_remains (target t : Target) (pending : target ∈ state.remaining chosen)
    (follows : t ∈ dag.followersOf chosen target) :
    t ∈ state.remaining chosen ∧ t ∉ state.ready := by
  obtain ⟨member, different, depends⟩ := (mem_followers_of closed chosen target t).mp follows
  constructor
  · refine List.mem_filter.mpr ⟨member, decide_eq_true fun listed => ?_⟩
    exact counts.settled t listed target pending depends
  · intro ready
    have isFree := (dag.mem_free closed _ t).mp ((counts.ready t).mp ready)
    exact isFree.2 target pending different.symm depends

omit closed in
theorem get_degree (t : Target) (member : t ∈ chosen) :
    state.degrees.get? t = some (dag.degree (state.remaining chosen) t : Int) :=
  (counts.degrees t _).mpr ⟨member, rfl⟩

variable (distinct : chosen.Nodup) {target : Target} (pending : target ∈ state.remaining chosen)

include distinct pending

theorem lowered_degrees (t : Target) (degree : Int) :
    (taken dag chosen state target).degrees.get? t = some degree ↔
      t ∈ chosen ∧ degree = dag.degree ((state.remaining chosen).filter (· ≠ target)) t := by
  rw [taken, get_lower_all _ _ (followers_of_nodup dag chosen distinct target), emit]
  by_cases member : t ∈ chosen
  · have before := degree_without closed chosen _ (remaining_nodup chosen distinct state)
      target t pending member
    dsimp only
    rw [get_degree counts t member, before, and_iff_right member]
    split <;> simp [eq_comm]
  · have absent : t ∉ dag.followersOf chosen target :=
      fun follows => member (List.mem_of_mem_filter follows)
    rw [if_neg absent]
    exact (counts.degrees t degree).trans (by simp [member])

theorem lowered_ready (t : Target) :
    t ∈ (taken dag chosen state target).ready ↔
      t ∈ dag.free ((state.remaining chosen).filter (· ≠ target)) := by
  rw [taken, mem_ready_lower_all _ _ (followers_of_nodup dag chosen distinct target), free,
    List.mem_filter, List.mem_filter]
  simp only [emit, counts.once.mem_erase_iff, decide_eq_true_eq]
  by_cases member : t ∈ chosen
  · have before := degree_without closed chosen _ (remaining_nodup chosen distinct state)
      target t pending member
    have degree := get_degree counts t member
    by_cases follows : t ∈ dag.followersOf chosen target
    · obtain ⟨remains, busy⟩ := follower_remains closed counts target t pending follows
      have different := ((mem_followers_of closed chosen target t).mp follows).2.1
      rw [if_pos follows] at before
      rw [degree, before]
      simp only [busy, follows, remains, different, and_false, false_or, true_and,
        Option.some.injEq, ne_eq, not_false_eq_true]
      omega
    · rw [if_neg follows] at before
      rw [counts.ready, free, List.mem_filter, decide_eq_true_eq, before, Nat.add_zero]
      simp only [follows, false_and, or_false]
      exact and_left_comm.trans and_assoc.symm
  · have outside : t ∉ state.remaining chosen :=
      fun remains => member (List.mem_of_mem_filter remains)
    have idle : t ∉ state.ready := fun ready =>
      outside (List.mem_of_mem_filter ((counts.ready t).mp ready))
    have absent : t ∉ dag.followersOf chosen target :=
      fun follows => member (List.mem_of_mem_filter follows)
    simp [outside, idle, absent]

theorem lowered_once :
    (taken dag chosen state target).ready.Nodup := by
  refine ready_lower_all_nodup _ _ (followers_of_nodup dag chosen distinct target)
    (counts.once.erase _) fun t follows ready => ?_
  exact (follower_remains closed counts target t pending follows).2 (List.mem_of_mem_erase ready)

theorem follower_degree (t : Target) (follows : t ∈ dag.followersOf chosen target) :
    ∃ degree, state.degrees.get? t = some degree ∧ 0 < degree := by
  have member : t ∈ chosen := List.mem_of_mem_filter follows
  have counted := degree_without closed chosen _ (remaining_nodup chosen distinct state)
    target t pending member
  rw [if_pos follows] at counted
  exact ⟨_, get_degree counts t member, by omega⟩

omit pending

theorem step_counts (next : Countdown) (stepped : step (dag.followers chosen) state = some next) :
    ∃ t, least? (dag.free (state.remaining chosen)) = some t ∧ next.order = state.order ++ [t] ∧
      Counts dag chosen next := by
  obtain ⟨t, least, rfl⟩ := Option.map_eq_some_iff.mp stepped
  rw [least_congr _ _ counts.ready] at least
  have pending : t ∈ state.remaining chosen := dag.least_free_mem _ t least
  rw [followers_get dag chosen distinct t (List.mem_of_mem_filter pending), Option.getD_some,
    ← taken]
  have listed : (taken dag chosen state t).order = state.order ++ [t] :=
    order_lower_all _ _
  have left := remaining_snoc chosen state _ t listed
  refine ⟨t, least, listed, ?_⟩
  constructor
  · rw [left]
    exact lowered_degrees closed counts distinct pending
  · rw [left]
    exact lowered_ready closed counts distinct pending
  · exact lowered_once closed counts distinct pending
  · intro u member other remains
    rw [left] at remains
    rw [listed] at member
    obtain ⟨waiting, different⟩ := List.mem_filter.mp remains
    rcases List.mem_append.mp member with earlier | last
    · exact counts.settled u earlier other waiting
    · obtain rfl := List.mem_singleton.mp last
      have isFree := (dag.mem_free closed _ u).mp (dag.least_free _ u least)
      exact isFree.2 other waiting (of_decide_eq_true different)

end Steps

section Runs

variable {dag : Dag} (closed : dag.Closed) {chosen : List Target} (distinct : chosen.Nodup)

include closed distinct

theorem start_degree (t : Target) (member : t ∈ chosen) :
    (dag.followers chosen).toList.countP (t ∈ ·.2) = dag.degree chosen t := by
  have keys :
      ((chosen.map fun target => (target, dag.followersOf chosen target)).map Prod.fst).Nodup := by
    rw [List.map_map]
    exact (List.map_id chosen).symm ▸ distinct
  have perm : (dag.followers chosen).toList.Perm _ := SortedMap.of_list_to_list _ keys
  rw [perm.countP_eq, List.countP_map, degree]
  refine List.countP_congr fun other _ => ?_
  simp only [Function.comp_apply, decide_eq_true_eq, mem_followers_of closed,
    mem_ancestors dag closed, and_iff_right member, ne_comm]

omit closed distinct in
theorem start_remaining (followers : SortedMap Target (List Target)) :
    remaining chosen (start chosen followers) = chosen := by
  simp [remaining, start]

theorem start_counts : Counts dag chosen (start chosen (dag.followers chosen)) := by
  have left : remaining chosen (start chosen (dag.followers chosen)) = chosen := start_remaining _
  have degrees (t : Target) (degree : Int) :
      (start chosen (dag.followers chosen)).degrees.get? t = some degree ↔
        t ∈ chosen ∧ degree = dag.degree chosen t := by
    rw [SortedMap.get_eq_some_iff, start, SortedMap.mem_of_list_map chosen distinct]
    refine and_congr_right fun member => ?_
    rw [start_degree closed distinct t member]
  constructor
  · rw [left]
    exact degrees
  · intro t
    rw [left, free, List.mem_filter, decide_eq_true_eq]
    have zero := degrees t 0
    rw [SortedMap.get_eq_some_iff] at zero
    simp only [start, List.mem_map, List.mem_filter, decide_eq_true_eq]
    constructor
    · rintro ⟨⟨_, _⟩, ⟨entry, rfl⟩, rfl⟩
      obtain ⟨member, none⟩ := zero.mp entry
      exact ⟨member, by omega⟩
    · rintro ⟨member, none⟩
      exact ⟨(t, 0), ⟨zero.mpr ⟨member, by omega⟩, rfl⟩, rfl⟩
  · exact (ascending_nodup _ (SortedMap.ascending _)).sublist (List.filter_sublist.map Prod.fst)
  · simp [start]

def Reached (dag : Dag) (chosen : List Target) (state : Countdown) : Prop :=
  ReflTransGen (fun before next => step (dag.followers chosen) before = some next)
    (start chosen (dag.followers chosen)) state

theorem reached_counts (state : Countdown) (reached : Reached dag chosen state) :
    Counts dag chosen state := by
  induction reached with
  | refl => exact start_counts closed distinct
  | tail _ stepped ih =>
      obtain ⟨_, _, _, counts⟩ := step_counts closed ih distinct _ stepped
      exact counts

theorem reached_degrees (state : Countdown) (reached : Reached dag chosen state)
    (entry : Target × Int) (member : entry ∈ state.degrees.toList) : 0 ≤ entry.2 := by
  have counts := reached_counts closed distinct state reached
  have counted := (counts.degrees entry.1 entry.2).mp ((SortedMap.get_eq_some_iff _ _ _).mpr member)
  rw [counted.2]
  exact Int.natCast_nonneg _

theorem reached_lowers (state : Countdown) (reached : Reached dag chosen state) (target : Target)
    (least : least? state.ready = some target) (t : Target)
    (follows : t ∈ dag.followersOf chosen target) :
    ∃ degree, state.degrees.get? t = some degree ∧ 0 < degree := by
  have counts := reached_counts closed distinct state reached
  rw [least_congr _ _ counts.ready] at least
  exact follower_degree closed counts distinct (dag.least_free_mem _ target least) t follows

theorem run_drains (rounds : Nat) (state : Countdown) (counts : Counts dag chosen state)
    (bound : (state.remaining chosen).length ≤ rounds) :
    ∃ rest, (run (dag.followers chosen) rounds state).order = state.order ++ rest ∧
      Drains dag (state.remaining chosen) rest := by
  induction rounds generalizing state with
  | zero =>
      have none : state.remaining chosen = [] := List.length_eq_zero_iff.mp (Nat.le_zero.mp bound)
      refine ⟨[], (List.append_nil _).symm, ?_⟩
      rw [none]
      exact .stop rfl
  | succ rounds ih =>
      rw [run]
      cases stepped : step (dag.followers chosen) state with
      | none =>
          have stuck := Option.map_eq_none_iff.mp stepped
          rw [least_congr _ _ counts.ready] at stuck
          exact ⟨[], (List.append_nil _).symm, .stop stuck⟩
      | some next =>
          obtain ⟨t, least, listed, nextCounts⟩ := step_counts closed counts distinct next stepped
          have left := remaining_snoc chosen state next t listed
          have shorter : (next.remaining chosen).length < (state.remaining chosen).length := by
            rw [left]
            exact List.length_filter_lt_length_iff_exists.mpr
              ⟨t, dag.least_free_mem _ t least, by simp⟩
          obtain ⟨rest, ordered, drains⟩ := ih next nextCounts (by omega)
          refine ⟨t :: rest, ?_, .take least (left ▸ drains)⟩
          dsimp only
          rw [ordered, listed, List.append_assoc, List.singleton_append]

theorem countdown_drains :
    Drains dag chosen (run (dag.followers chosen) chosen.length
      (start chosen (dag.followers chosen))).order := by
  have left : remaining chosen (start chosen (dag.followers chosen)) = chosen := start_remaining _
  obtain ⟨rest, ordered, drains⟩ := run_drains closed distinct chosen.length _
    (start_counts closed distinct) (Nat.le_of_eq (congrArg List.length left))
  rw [ordered]
  exact left ▸ drains

end Runs

end SqlWorkflow.Dag.Countdown
