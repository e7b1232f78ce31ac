import Mathlib.Data.List.Perm.Subperm
import SqlWorkflow.Proofs.Dag.Cycles

namespace SqlWorkflow.Dag

open Relation

instance : Std.TransCmp compareDisplay :=
  inferInstanceAs (Std.TransCmp (compareLex (compareOn Target.display) compare))

theorem eq_of_compare_display (a b : Target) (same : compareDisplay a b = .eq) : a = b :=
  Std.LawfulEqOrd.eq_of_compare (Ordering.then_eq_eq.mp same).2

theorem compare_display_self (t : Target) : (compareDisplay t t).isLE :=
  Std.ReflCmp.isLE_rfl

theorem compare_display_lt (a b : Target) (least : (compareDisplay a b).isLE)
    (different : b ≠ a) : compareDisplay a b = .lt := by
  cases order : compareDisplay a b with
  | lt => rfl
  | eq => exact absurd (eq_of_compare_display a b order).symm different
  | gt =>
      rw [order] at least
      cases least

def lesser (best : Option Target) (target : Target) : Option Target :=
  match best with
  | none => some target
  | some other => if compareDisplay target other = .lt then some target else best

theorem lesser_cases (best : Option Target) (target : Target) :
    ∃ chosen, lesser best target = some chosen ∧ (best = some chosen ∨ chosen = target) ∧
      (compareDisplay chosen target).isLE ∧
      ∀ other, best = some other → (compareDisplay chosen other).isLE := by
  cases best with
  | none => exact ⟨target, rfl, Or.inr rfl, compare_display_self target, by simp⟩
  | some other =>
      by_cases less : compareDisplay target other = .lt
      · refine ⟨target, if_pos less, Or.inr rfl, compare_display_self target, ?_⟩
        rintro _ ⟨⟩
        rw [less]
        rfl
      · refine ⟨other, if_neg less, Or.inl rfl, ?_, ?_⟩
        · have swapped : compareDisplay other target = (compareDisplay target other).swap :=
            Std.OrientedCmp.eq_swap
          rw [swapped]
          cases order : compareDisplay target other with
          | lt => exact absurd order less
          | _ => rfl
        · rintro _ ⟨⟩
          exact compare_display_self other

theorem fold_lesser (targets : List Target) (best : Option Target) (t : Target)
    (found : targets.foldl lesser best = some t) :
    (best = some t ∨ t ∈ targets) ∧
      ∀ u, best = some u ∨ u ∈ targets → (compareDisplay t u).isLE := by
  induction targets generalizing best with
  | nil =>
      obtain rfl : best = some t := found
      refine ⟨Or.inl rfl, ?_⟩
      rintro u (same | none)
      · exact Option.some.inj same ▸ compare_display_self t
      · cases none
  | cons first rest ih =>
      obtain ⟨chosen, step, source, low, lower⟩ := lesser_cases best first
      obtain ⟨member, least⟩ := ih _ found
      rw [step] at member least
      have below : (compareDisplay t chosen).isLE := least chosen (Or.inl rfl)
      constructor
      · rcases member with same | later
        · obtain rfl := Option.some.inj same
          rcases source with kept | rfl
          · exact Or.inl kept
          · exact Or.inr List.mem_cons_self
        · exact Or.inr (List.mem_cons_of_mem first later)
      · rintro u (earlier | listed)
        · exact Std.TransCmp.isLE_trans below (lower u earlier)
        · rcases List.mem_cons.mp listed with rfl | later
          · exact Std.TransCmp.isLE_trans below low
          · exact least u (Or.inr later)

theorem least_none (targets : List Target) : least? targets = none ↔ targets = [] := by
  have kept (rest : List Target) (best : Target) : (rest.foldl lesser (some best)).isSome := by
    induction rest generalizing best with
    | nil => rfl
    | cons first rest ih =>
        obtain ⟨chosen, step, _⟩ := lesser_cases (some best) first
        rw [List.foldl_cons, step]
        exact ih chosen
  cases targets with
  | nil => exact ⟨fun _ => rfl, fun _ => rfl⟩
  | cons first rest =>
      have found := kept rest first
      constructor
      · intro absent
        change rest.foldl lesser (some first) = none at absent
        rw [absent] at found
        cases found
      · exact fun empty => absurd empty (List.cons_ne_nil first rest)

theorem least_some (targets : List Target) (t : Target) :
    least? targets = some t ↔ t ∈ targets ∧ ∀ u ∈ targets, u ≠ t → compareDisplay t u = .lt := by
  have picked (t : Target) (found : least? targets = some t) :
      t ∈ targets ∧ ∀ u ∈ targets, u ≠ t → compareDisplay t u = .lt := by
    obtain ⟨member, least⟩ := fold_lesser targets none t found
    refine ⟨member.resolve_left (by simp), fun u listed different => ?_⟩
    exact compare_display_lt t u (least u (Or.inr listed)) different
  refine ⟨picked t, fun ⟨member, least⟩ => ?_⟩
  cases found : least? targets with
  | none => exact absurd ((least_none targets).mp found) (List.ne_nil_of_mem member)
  | some other =>
      obtain ⟨listed, lower⟩ := picked other found
      by_cases same : t = other
      · rw [same]
      · have less := least other listed (Ne.symm same)
        exact absurd (lower t member same) (Std.OrientedCmp.not_lt_of_lt less)

theorem least_congr (a b : List Target) (same : ∀ t, t ∈ a ↔ t ∈ b) : least? a = least? b := by
  refine Option.ext fun t => ?_
  rw [least_some, least_some]
  simp only [same]

def degree (dag : Dag) (rest : List Target) (target : Target) : Nat :=
  rest.countP fun other => other ≠ target ∧ other ∈ (dag.ancestors target).toList

def free (dag : Dag) (rest : List Target) : List Target :=
  rest.filter (dag.degree rest · = 0)

theorem mem_free (dag : Dag) (closed : dag.Closed) (rest : List Target) (t : Target) :
    t ∈ dag.free rest ↔
      t ∈ rest ∧ ∀ other ∈ rest, other ≠ t → ¬ TransGen dag.DependsOn t other := by
  rw [free, List.mem_filter, decide_eq_true_eq, degree, List.countP_eq_zero]
  simp only [decide_eq_true_eq, mem_ancestors dag closed, not_and]

-- The runs that take the least free node, by the nodes that are still to be listed.
inductive Drains (dag : Dag) : List Target → List Target → Prop where
  | stop {rest : List Target} (stuck : least? (dag.free rest) = none) : Drains dag rest []
  | take {rest order : List Target} {t : Target} (least : least? (dag.free rest) = some t)
      (later : Drains dag (rest.filter (· ≠ t)) order) : Drains dag rest (t :: order)

theorem least_free (dag : Dag) (rest : List Target) (t : Target)
    (least : least? (dag.free rest) = some t) : t ∈ dag.free rest :=
  ((least_some _ t).mp least).1

theorem least_free_mem (dag : Dag) (rest : List Target) (t : Target)
    (least : least? (dag.free rest) = some t) : t ∈ rest :=
  List.mem_of_mem_filter (dag.least_free rest t least)

section Runs

variable {dag : Dag} {rest order : List Target}

theorem drains_mem (drains : Drains dag rest order) : ∀ t ∈ order, t ∈ rest := by
  induction drains with
  | stop => simp
  | take least _ ih =>
      intro t member
      rcases List.mem_cons.mp member with rfl | later
      · exact dag.least_free_mem _ t least
      · exact List.mem_of_mem_filter (ih t later)

theorem drains_nodup (drains : Drains dag rest order) : order.Nodup := by
  induction drains with
  | stop => exact List.nodup_nil
  | take _ later ih =>
      refine List.nodup_cons.mpr ⟨fun again => ?_, ih⟩
      have kept := drains_mem later _ again
      simp at kept

theorem drains_dependencies_first (closed : dag.Closed) (drains : Drains dag rest order) :
    order.Pairwise fun a b => ¬ TransGen dag.DependsOn a b := by
  induction drains with
  | stop => exact List.Pairwise.nil
  | @take rest order t least later ih =>
      refine List.pairwise_cons.mpr ⟨fun after member => ?_, ih⟩
      have kept := List.mem_filter.mp (drains_mem later after member)
      have waitsForNone := ((dag.mem_free closed rest t).mp (dag.least_free rest t least)).2
      exact waitsForNone after kept.1 (of_decide_eq_true kept.2)

theorem drains_unique {other : List Target} (drains : Drains dag rest order)
    (again : Drains dag rest other) : order = other := by
  induction drains generalizing other with
  | stop stuck =>
      cases again with
      | stop => rfl
      | take least _ => cases stuck.symm.trans least
  | take least _ ih =>
      cases again with
      | stop stuck => cases stuck.symm.trans least
      | take same later =>
          obtain rfl := Option.some.inj (least.symm.trans same)
          rw [ih later]

end Runs

def Eligible (dag : Dag) (chosen listed : List Target) (t : Target) : Prop :=
  t ∈ chosen ∧ t ∉ listed ∧
    ∀ other ∈ chosen, other ≠ t → TransGen dag.DependsOn t other → other ∈ listed

def LeastFirst (dag : Dag) (chosen order : List Target) : Prop :=
  ∀ front t back, order = front ++ t :: back → dag.Eligible chosen front t ∧
    ∀ other, dag.Eligible chosen front other → other ≠ t → compareDisplay t other = .lt

theorem eligible_nil (dag : Dag) (closed : dag.Closed) (chosen : List Target) (t : Target) :
    dag.Eligible chosen [] t ↔ t ∈ dag.free chosen := by
  simp only [Eligible, mem_free dag closed, List.not_mem_nil, not_false_eq_true, true_and,
    imp_false]

theorem eligible_cons (dag : Dag) (chosen listed : List Target) (first t : Target) :
    dag.Eligible chosen (first :: listed) t ↔
      dag.Eligible (chosen.filter (· ≠ first)) listed t := by
  simp only [Eligible, List.mem_filter, List.mem_cons, decide_eq_true_eq, not_or]
  constructor
  · rintro ⟨member, ⟨different, fresh⟩, before⟩
    refine ⟨⟨member, different⟩, fresh, fun other ⟨otherMember, otherFirst⟩ apart depends => ?_⟩
    exact (before other otherMember apart depends).resolve_left otherFirst
  · rintro ⟨⟨member, different⟩, fresh, before⟩
    refine ⟨member, ⟨different, fresh⟩, fun other otherMember apart depends => ?_⟩
    by_cases same : other = first
    · exact Or.inl same
    · exact Or.inr (before other ⟨otherMember, same⟩ apart depends)

theorem drains_least_first {dag : Dag} {chosen order : List Target} (closed : dag.Closed)
    (drains : Drains dag chosen order) : dag.LeastFirst chosen order := by
  induction drains with
  | stop =>
      intro front t back split
      simp at split
  | @take chosen order first least _ ih =>
      intro front t back split
      cases front with
      | nil =>
          obtain ⟨rfl, rfl⟩ := List.cons.inj split
          simp only [eligible_nil dag closed]
          exact (least_some _ first).mp least
      | cons head front =>
          obtain ⟨rfl, rfl⟩ := List.cons.inj split
          simp only [eligible_cons]
          exact ih front t back rfl

def SameReach (dag other : Dag) (chosen : List Target) : Prop :=
  ∀ a ∈ chosen, ∀ b ∈ chosen, TransGen dag.DependsOn a b ↔ TransGen other.DependsOn a b

theorem mem_free_congr {dag other : Dag} {chosen : List Target} (closed : dag.Closed)
    (otherClosed : other.Closed) (same : dag.SameReach other chosen) (t : Target) :
    t ∈ dag.free chosen ↔ t ∈ other.free chosen := by
  rw [mem_free dag closed, mem_free other otherClosed]
  refine and_congr_right fun member => ?_
  exact forall₂_congr fun u listed => by rw [same t member u listed]

theorem drains_congr {dag other : Dag} {chosen order : List Target} (closed : dag.Closed)
    (otherClosed : other.Closed) (same : dag.SameReach other chosen)
    (drains : Drains dag chosen order) : Drains other chosen order := by
  induction drains with
  | stop stuck =>
      refine .stop (stuck ▸ least_congr _ _ fun t => ?_)
      exact (mem_free_congr closed otherClosed same t).symm
  | take least _ ih =>
      refine .take (least ▸ least_congr _ _ fun t => ?_) (ih fun a memberA b memberB => ?_)
      · exact (mem_free_congr closed otherClosed same t).symm
      · exact same a (List.mem_of_mem_filter memberA) b (List.mem_of_mem_filter memberB)

def Entangled (dag : Dag) (chosen : List Target) : Prop :=
  ∃ a ∈ chosen, ∃ b ∈ chosen, a ≠ b ∧ TransGen dag.DependsOn a b ∧ TransGen dag.DependsOn b a

theorem exists_minimal {α : Type} (before : α → α → Prop) (items : List α) (nonempty : items ≠ [])
    (irrefl : ∀ a, ¬ before a a)
    (trans : ∀ a ∈ items, ∀ b ∈ items, ∀ c ∈ items, before a b → before b c → before a c) :
    ∃ least ∈ items, ∀ other ∈ items, ¬ before other least := by
  induction items with
  | nil => exact absurd rfl nonempty
  | cons first rest ih =>
      have keep {x : α} (member : x ∈ rest) : x ∈ first :: rest := List.mem_cons_of_mem first member
      by_cases last : rest = []
      · subst last
        exact ⟨first, List.mem_cons_self, by simp [irrefl]⟩
      · obtain ⟨least, member, minimal⟩ := ih last fun a ma b mb c mc =>
          trans a (keep ma) b (keep mb) c (keep mc)
        by_cases below : before first least
        · refine ⟨first, List.mem_cons_self, fun other otherMember lower => ?_⟩
          rcases List.mem_cons.mp otherMember with rfl | later
          · exact irrefl other lower
          · exact minimal other later
              (trans other otherMember first List.mem_cons_self least (keep member) lower below)
        · refine ⟨least, keep member, fun other otherMember lower => ?_⟩
          rcases List.mem_cons.mp otherMember with rfl | later
          · exact below lower
          · exact minimal other later lower

theorem free_ne_nil (dag : Dag) (closed : dag.Closed) (chosen : List Target)
    (nonempty : chosen ≠ []) (apart : ¬ dag.Entangled chosen) : dag.free chosen ≠ [] := by
  let before (a b : Target) : Prop := a ≠ b ∧ TransGen dag.DependsOn b a
  obtain ⟨least, member, minimal⟩ := exists_minimal before chosen nonempty
    (fun a lower => lower.1 rfl)
    (by
      intro a ma b mb c mc lower higher
      refine ⟨?_, higher.2.trans lower.2⟩
      rintro rfl
      exact apart ⟨a, ma, b, mb, lower.1, higher.2, lower.2⟩)
  have isFree : least ∈ dag.free chosen :=
    (dag.mem_free closed chosen least).mpr
      ⟨member, fun other otherMember different depends =>
        minimal other otherMember ⟨different, depends⟩⟩
  exact List.ne_nil_of_mem isFree

theorem filter_ne_eq_erase (items : List Target) (distinct : items.Nodup) (t : Target) :
    items.filter (· ≠ t) = items.erase t := by
  rw [distinct.erase_eq_filter]
  exact List.filter_congr fun x _ => by simp [bne, beq_eq_decide]

theorem drains_perm {dag : Dag} {chosen order : List Target} (closed : dag.Closed)
    (drains : Drains dag chosen order) (distinct : chosen.Nodup)
    (apart : ¬ dag.Entangled chosen) : order.Perm chosen := by
  induction drains with
  | @stop chosen stuck =>
      by_cases empty : chosen = []
      · rw [empty]
      · exact absurd ((least_none _).mp stuck) (dag.free_ne_nil closed chosen empty apart)
  | @take chosen order t least later ih =>
      have member : t ∈ chosen := dag.least_free_mem chosen t least
      have restApart : ¬ dag.Entangled (chosen.filter (· ≠ t)) := by
        rintro ⟨a, ma, b, mb, each⟩
        exact apart ⟨a, List.mem_of_mem_filter ma, b, List.mem_of_mem_filter mb, each⟩
      have perm := ih (distinct.filter _) restApart
      rw [filter_ne_eq_erase chosen distinct t] at perm
      exact (perm.cons t).trans (List.perm_cons_erase member).symm

theorem drains_incomplete {dag : Dag} {chosen order : List Target} (closed : dag.Closed)
    (drains : Drains dag chosen order) (entangled : dag.Entangled chosen) :
    order.length ≠ chosen.length := by
  obtain ⟨a, ma, b, mb, different, there, back⟩ := entangled
  intro complete
  have perm : order.Perm chosen :=
    (List.subperm_of_subset (drains_nodup drains) (drains_mem drains)).perm_of_length_le
      (Nat.le_of_eq complete.symm)
  obtain ⟨i, iBound, rfl⟩ := List.mem_iff_getElem.mp (perm.mem_iff.mpr ma)
  obtain ⟨j, jBound, rfl⟩ := List.mem_iff_getElem.mp (perm.mem_iff.mpr mb)
  have sorted := List.pairwise_iff_getElem.mp (drains_dependencies_first closed drains)
  rcases Nat.lt_trichotomy i j with less | same | greater
  · exact sorted i j iBound jBound less there
  · subst same
    exact different rfl
  · exact sorted j i jBound iBound greater back

end SqlWorkflow.Dag
