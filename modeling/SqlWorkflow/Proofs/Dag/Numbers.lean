import Mathlib.Data.List.Dedup
import SqlWorkflow.Dag.Numbered
import SqlWorkflow.Proofs.Dag.Closure

namespace SqlWorkflow

namespace Dag

-- The dependent is mentioned before the dependency.
def Call.mentions : Call → List Target
  | .action target => [target]
  | .dependency a b => [a, b]

def mentioned (calls : List Call) : List Target :=
  calls.flatMap Call.mentions

structure FirstMentions (nodes mentions : List Target) : Prop where
  members : ∀ t, t ∈ nodes ↔ t ∈ mentions
  order : ∀ a ∈ nodes, ∀ b ∈ nodes,
    nodes.idxOf a < nodes.idxOf b ↔ mentions.idxOf a < mentions.idxOf b

theorem idx_of_concat_lt (items : List Target) (last a b : Target) (fresh : last ∉ items)
    (memberA : a ∈ items ∨ a = last) (memberB : b ∈ items ∨ b = last) :
    (items ++ [last]).idxOf a < (items ++ [last]).idxOf b ↔
      a ∈ items ∧ (b ∈ items → items.idxOf a < items.idxOf b) := by
  have atEnd : (items ++ [last]).idxOf last = items.length := by
    simp [List.idxOf_append_of_notMem fresh]
  have inside (t : Target) (member : t ∈ items) :
      (items ++ [last]).idxOf t = items.idxOf t ∧ items.idxOf t < items.length :=
    ⟨List.idxOf_append_of_mem member, List.idxOf_lt_length_iff.mpr member⟩
  rcases memberA with oldA | rfl
  · obtain ⟨sameA, belowA⟩ := inside a oldA
    rcases memberB with oldB | rfl
    · simp [sameA, (inside b oldB).1, oldA, oldB]
    · simp [sameA, atEnd, oldA, fresh, belowA]
  · rcases memberB with oldB | rfl
    · obtain ⟨sameB, belowB⟩ := inside b oldB
      simp only [atEnd, sameB, fresh, false_and, iff_false]
      omega
    · simp [fresh]

theorem add_action_known (dag : Dag) (target : Target) (known : target ∈ dag.nodes) :
    dag.addAction target = dag :=
  if_pos known

theorem add_action_fresh (dag : Dag) (target : Target) (fresh : target ∉ dag.nodes) :
    dag.addAction target = { dag with nodes := dag.nodes ++ [target] } :=
  if_neg fresh

theorem add_action_first_mentions (dag : Dag) (target : Target) (mentions : List Target)
    (first : FirstMentions dag.nodes mentions) :
    FirstMentions (dag.addAction target).nodes (mentions ++ [target]) := by
  by_cases known : target ∈ dag.nodes
  · rw [add_action_known dag target known]
    have heard := (first.members target).mp known
    constructor
    · intro t
      rw [first.members, List.mem_append, List.mem_singleton]
      exact ⟨Or.inl, fun either => either.elim id fun same => same ▸ heard⟩
    · intro a memberA b memberB
      rw [List.idxOf_append_of_mem ((first.members a).mp memberA),
        List.idxOf_append_of_mem ((first.members b).mp memberB)]
      exact first.order a memberA b memberB
  · rw [add_action_fresh dag target known]
    have unheard : target ∉ mentions := mt (first.members target).mpr known
    constructor
    · intro t
      rw [List.mem_append, List.mem_append, first.members]
    · intro a memberA b memberB
      rw [List.mem_append, List.mem_singleton] at memberA memberB
      rw [idx_of_concat_lt _ _ _ _ known memberA memberB, idx_of_concat_lt _ _ _ _ unheard
        (memberA.imp_left (first.members a).mp) (memberB.imp_left (first.members b).mp),
        ← first.members, ← first.members]
      refine and_congr_right fun oldA => forall_congr' fun oldB => ?_
      exact first.order a oldA b oldB

theorem add_dependency_nodes (dag : Dag) (dependent dependency : Target) :
    (dag.addDependency dependent dependency).nodes =
      ((dag.addAction dependent).addAction dependency).nodes := by
  unfold addDependency
  dsimp only
  split <;> rfl

theorem of_calls_first_mentions (calls : List Call) :
    FirstMentions (ofCalls calls).nodes (mentioned calls) := by
  induction calls using List.reverseRecOn with
  | nil => exact ⟨fun t => Iff.rfl, fun a none => absurd none List.not_mem_nil⟩
  | append_singleton calls last ih =>
      rw [of_calls_snoc, mentioned, List.flatMap_append, List.flatMap_singleton, ← mentioned]
      cases last with
      | action target => exact add_action_first_mentions _ target _ ih
      | dependency dependent dependency =>
          rw [call, add_dependency_nodes, Call.mentions, ← List.singleton_append,
            ← List.append_assoc]
          exact add_action_first_mentions _ _ _ (add_action_first_mentions _ _ _ ih)

theorem add_dependency_edges (dag : Dag) (dependent dependency : Target) :
    (dag.addDependency dependent dependency).edges =
      if (⟨dependency, dependent⟩ : Edge) ∈ dag.edges then dag.edges
      else dag.edges ++ [⟨dependency, dependent⟩] := by
  unfold addDependency
  simp only [add_action_edges]
  split
  · rw [add_action_edges, add_action_edges]
  · rfl

theorem of_calls_edges_nodup (calls : List Call) : (ofCalls calls).edges.Nodup := by
  induction calls using List.reverseRecOn with
  | nil => exact List.nodup_nil
  | append_singleton calls last ih =>
      rw [of_calls_snoc]
      cases last with
      | action target =>
          rw [call, add_action_edges]
          exact ih
      | dependency dependent dependency =>
          rw [call, add_dependency_edges]
          split
          · exact ih
          · rename_i fresh
            rw [← List.concat_eq_append]
            exact ih.concat fresh

theorem add_dependency_known (dag : Dag) (dependent dependency : Target)
    (first : dependent ∈ dag.nodes) (second : dependency ∈ dag.nodes)
    (edge : dag.DependsOn dependent dependency) :
    dag.addDependency dependent dependency = dag := by
  unfold addDependency
  simp only [add_action_known dag dependent first, add_action_known dag dependency second]
  exact if_pos edge

theorem of_calls_again (calls : List Call) (made : Call) (before : made ∈ calls) :
    (ofCalls calls).call made = ofCalls calls := by
  have known (t : Target) (named : made.Names t) : t ∈ (ofCalls calls).nodes :=
    (mem_of_calls_nodes calls t).mpr ⟨made, before, named⟩
  cases made with
  | action target => exact add_action_known _ target (known target rfl)
  | dependency dependent dependency =>
      exact add_dependency_known _ dependent dependency (known dependent (Or.inl rfl))
        (known dependency (Or.inr rfl)) ((of_calls_depends_on calls _ _).mpr before)

theorem index_known (dag : Dag) (t : Target) (known : t ∈ dag.nodes) :
    dag.index? t = some (dag.nodes.idxOf t) := by
  obtain ⟨place, found⟩ := Option.isSome_iff_exists.mp (List.isSome_idxOf?.mpr known)
  rw [List.idxOf_eq_getD_idxOf?, index?, found, Option.getD_some]

theorem index_unknown (dag : Dag) (t : Target) (unknown : t ∉ dag.nodes) :
    dag.index? t = none :=
  List.idxOf?_eq_none_iff.mpr unknown

theorem index_some_iff (dag : Dag) (once : dag.nodes.Nodup) (t : Target) (place : Nat) :
    dag.index? t = some place ↔ dag.nodes[place]? = some t := by
  by_cases known : t ∈ dag.nodes
  · rw [index_known dag t known, Option.some.injEq]
    constructor
    · rintro rfl
      exact List.getElem?_idxOf known
    · intro found
      obtain ⟨below, here⟩ := List.getElem?_eq_some_iff.mp found
      rw [← here, once.idxOf_getElem]
  · rw [index_unknown dag t known]
    refine iff_of_false (nomatch ·) fun found => known (List.mem_of_getElem? found)

theorem add_action_place (dag : Dag) (target t : Target) (known : t ∈ dag.nodes) :
    (dag.addAction target).nodes.idxOf t = dag.nodes.idxOf t := by
  unfold addAction
  split
  · rfl
  · exact List.idxOf_append_of_mem known

theorem add_action_closed (dag : Dag) (closed : dag.Closed) (target : Target) :
    (dag.addAction target).Closed := by
  intro a b depends
  rw [DependsOn, add_action_edges] at depends
  obtain ⟨first, second⟩ := closed a b depends
  exact ⟨(mem_add_action dag target a).mpr (Or.inr first),
    (mem_add_action dag target b).mpr (Or.inr second)⟩

end Dag

namespace NumberedDag

open Dag (Call mentioned)

def call (dag : NumberedDag) : Call → NumberedDag
  | .action target => (dag.addAction target).2
  | .dependency dependent dependency => dag.addDependency dependent dependency

def ofCalls (calls : List Call) : NumberedDag :=
  calls.foldl call {}

def arrowOf (nodes : List Target) (edge : Edge) : Arrow :=
  ⟨nodes.idxOf edge.dependency, nodes.idxOf edge.dependent⟩

theorem arrow_of_inj {nodes : List Target} {edge other : Edge}
    (ends : edge.dependent ∈ nodes ∧ edge.dependency ∈ nodes)
    (equal : arrowOf nodes edge = arrowOf nodes other) : edge = other := by
  obtain ⟨dependency, dependent⟩ := Arrow.mk.inj equal
  rw [List.idxOf_inj ends.2] at dependency
  rw [List.idxOf_inj ends.1] at dependent
  cases edge
  cases other
  exact congr (congrArg Edge.mk dependency) dependent

structure Numbers (numbered : NumberedDag) (dag : Dag) : Prop where
  targets : numbered.targets = dag.nodes
  arrows : numbered.arrows = dag.edges.map (arrowOf dag.nodes)
  numbers : ∀ t, numbered.numbers.get? t = dag.index? t

section Steps

variable {numbered : NumberedDag} {dag : Dag} (same : Numbers numbered dag) (closed : dag.Closed)

include same

theorem add_action_number (target : Target) :
    (numbered.addAction target).1 = (dag.addAction target).nodes.idxOf target := by
  by_cases known : target ∈ dag.nodes
  · have found := (same.numbers target).trans (dag.index_known target known)
    rw [addAction, found, dag.add_action_known target known]
  · have missing := (same.numbers target).trans (dag.index_unknown target known)
    rw [addAction, missing, dag.add_action_fresh target known, same.targets]
    simp [List.idxOf_append_of_notMem known]

include closed

theorem add_action_numbers (target : Target) :
    Numbers (numbered.addAction target).2 (dag.addAction target) := by
  by_cases known : target ∈ dag.nodes
  · have found := (same.numbers target).trans (dag.index_known target known)
    rw [addAction, found, dag.add_action_known target known]
    exact same
  · have missing := (same.numbers target).trans (dag.index_unknown target known)
    rw [addAction, missing, dag.add_action_fresh target known]
    constructor
    · rw [same.targets]
    · -- the ends of all edges are nodes already, and a node added at the end moves none of them
      rw [same.arrows]
      refine List.map_congr_left fun edge member => ?_
      obtain ⟨dependent, dependency⟩ := closed edge.dependent edge.dependency member
      rw [arrowOf, arrowOf, List.idxOf_append_of_mem dependent,
        List.idxOf_append_of_mem dependency]
    · intro t
      have last : (dag.nodes ++ [target]).idxOf target = dag.nodes.length := by
        simp [List.idxOf_append_of_notMem known]
      rw [SortedMap.get_insert, same.targets]
      by_cases new : t = target
      · subst new
        rw [if_pos rfl, Dag.index_known _ t (by simp), last]
      · rw [if_neg new, same.numbers]
        by_cases old : t ∈ dag.nodes
        · rw [dag.index_known t old, Dag.index_known _ t (List.mem_append_left _ old),
            List.idxOf_append_of_mem old]
        · rw [dag.index_unknown t old, Dag.index_unknown _ t (by simp [old, new])]

omit same in
theorem arrow_of_mem (edge : Edge) :
    arrowOf dag.nodes edge ∈ dag.edges.map (arrowOf dag.nodes) ↔ edge ∈ dag.edges := by
  constructor
  · intro member
    obtain ⟨other, known, equal⟩ := List.mem_map.mp member
    exact arrow_of_inj (closed other.dependent other.dependency known) equal ▸ known
  · exact List.mem_map_of_mem

theorem add_dependency_numbers (dependent dependency : Target) :
    Numbers (numbered.addDependency dependent dependency)
      (dag.addDependency dependent dependency) := by
  have first := add_action_numbers same closed dependent
  have firstClosed := Dag.add_action_closed dag closed dependent
  have second := add_action_numbers first firstClosed dependency
  have secondClosed := Dag.add_action_closed _ firstClosed dependency
  have there : dependent ∈ (dag.addAction dependent).nodes :=
    (Dag.mem_add_action dag dependent dependent).mpr (Or.inl rfl)
  have arrow : (⟨((numbered.addAction dependent).2.addAction dependency).1,
      (numbered.addAction dependent).1⟩ : Arrow) =
        arrowOf ((dag.addAction dependent).addAction dependency).nodes ⟨dependency, dependent⟩ := by
    rw [add_action_number first, add_action_number same, arrowOf, Dag.add_action_place _ _ _ there]
  unfold addDependency Dag.addDependency
  dsimp only
  rw [arrow, second.arrows]
  by_cases drawn : (⟨dependency, dependent⟩ : Edge) ∈
      ((dag.addAction dependent).addAction dependency).edges
  · rw [if_pos drawn, if_pos ((arrow_of_mem secondClosed _).mpr drawn)]
    exact second
  · rw [if_neg drawn, if_neg (mt (arrow_of_mem secondClosed _).mp drawn)]
    refine ⟨second.targets, ?_, second.numbers⟩
    rw [List.map_append, List.map_singleton]

theorem call_numbers (made : Call) : Numbers (numbered.call made) (dag.call made) := by
  cases made with
  | action target => exact add_action_numbers same closed target
  | dependency dependent dependency => exact add_dependency_numbers same closed _ _

end Steps

theorem of_calls_append (calls later : List Call) :
    ofCalls (calls ++ later) = later.foldl call (ofCalls calls) :=
  List.foldl_append

theorem of_calls_numbers (calls : List Call) : Numbers (ofCalls calls) (Dag.ofCalls calls) := by
  induction calls using List.reverseRecOn with
  | nil => exact ⟨rfl, rfl, fun t => rfl⟩
  | append_singleton calls last ih =>
      rw [of_calls_append, Dag.of_calls_snoc]
      exact call_numbers ih (Dag.of_calls_closed calls) last

theorem add_action_numbered (dag : NumberedDag) (target : Target) (number : Nat)
    (given : dag.numbers.get? target = some number) : dag.addAction target = (number, dag) := by
  rw [addAction, given]

theorem add_action_answer (dag : NumberedDag) (target : Target) :
    (dag.addAction target).2.numbers.get? target = some (dag.addAction target).1 := by
  cases given : dag.numbers.get? target with
  | some number => rw [add_action_numbered dag target number given, given]
  | none =>
      rw [addAction, given]
      dsimp only
      rw [SortedMap.get_insert, if_pos rfl]

theorem add_action_keeps_number (dag : NumberedDag) (target t : Target) (number : Nat)
    (given : dag.numbers.get? t = some number) :
    (dag.addAction target).2.numbers.get? t = some number := by
  cases found : dag.numbers.get? target with
  | some other => rw [add_action_numbered dag target other found, given]
  | none =>
      have different : t ≠ target := by
        rintro rfl
        rw [given] at found
        cases found
      rw [addAction, found]
      dsimp only
      rw [SortedMap.get_insert, if_neg different, given]

theorem add_dependency_index (dag : NumberedDag) (dependent dependency : Target) :
    (dag.addDependency dependent dependency).numbers =
      ((dag.addAction dependent).2.addAction dependency).2.numbers := by
  unfold addDependency
  dsimp only
  split <;> rfl

theorem call_keeps_number (dag : NumberedDag) (made : Call) (t : Target) (number : Nat)
    (given : dag.numbers.get? t = some number) :
    (dag.call made).numbers.get? t = some number := by
  cases made with
  | action target => exact add_action_keeps_number dag target t number given
  | dependency dependent dependency =>
      rw [call, add_dependency_index]
      apply add_action_keeps_number
      exact add_action_keeps_number dag dependent t number given

theorem calls_keep_number (later : List Call) (dag : NumberedDag) (t : Target) (number : Nat)
    (given : dag.numbers.get? t = some number) :
    (later.foldl call dag).numbers.get? t = some number := by
  induction later generalizing dag with
  | nil => exact given
  | cons made later ih => exact ih (dag.call made) (call_keeps_number dag made t number given)

-- The numbers of the mentioned targets are those below their count, one for each, in the order of
-- first mention. The node under a number is the target that has it, and there is one arrow for each
-- dependency that some call adds.
structure Represents (dag : NumberedDag) (calls : List Call) : Prop where
  known : ∀ t, (∃ number, dag.numbers.get? t = some number) ↔ ∃ made ∈ calls, made.Names t
  distinct : ∀ a b number, dag.numbers.get? a = some number → dag.numbers.get? b = some number →
    a = b
  dense : ∀ number, (∃ t, dag.numbers.get? t = some number) ↔
    number < (mentioned calls).dedup.length
  order : ∀ a b i j, dag.numbers.get? a = some i → dag.numbers.get? b = some j →
    (i < j ↔ (mentioned calls).idxOf a < (mentioned calls).idxOf b)
  nodes : ∀ t number, dag.numbers.get? t = some number ↔ dag.targets[number]? = some t
  once : dag.arrows.Nodup
  arrows : ∀ arrow, arrow ∈ dag.arrows ↔ ∃ dependent dependency,
    .dependency dependent dependency ∈ calls ∧
      dag.numbers.get? dependency = some arrow.dependency ∧
      dag.numbers.get? dependent = some arrow.dependent

section Calls

variable (calls : List Call)

theorem number_some_iff (t : Target) (number : Nat) :
    (ofCalls calls).numbers.get? t = some number ↔
      (Dag.ofCalls calls).nodes[number]? = some t := by
  rw [(of_calls_numbers calls).numbers]
  exact Dag.index_some_iff _ (Dag.of_calls_nodup calls) t number

theorem number_place (t : Target) (number : Nat) :
    (ofCalls calls).numbers.get? t = some number ↔
      t ∈ (Dag.ofCalls calls).nodes ∧ (Dag.ofCalls calls).nodes.idxOf t = number := by
  rw [(of_calls_numbers calls).numbers]
  by_cases known : t ∈ (Dag.ofCalls calls).nodes
  · simp [Dag.index_known _ t known, known]
  · simp [Dag.index_unknown _ t known, known]

theorem count_mentioned :
    (Dag.ofCalls calls).nodes.length = (mentioned calls).dedup.length := by
  apply List.Perm.length_eq
  refine (List.perm_ext_iff_of_nodup (Dag.of_calls_nodup calls) (List.nodup_dedup _)).mpr ?_
  intro t
  rw [List.mem_dedup]
  exact (Dag.of_calls_first_mentions calls).members t

theorem of_calls_arrows_nodup : (ofCalls calls).arrows.Nodup := by
  rw [(of_calls_numbers calls).arrows]
  apply (Dag.of_calls_edges_nodup calls).map_on
  intro edge member other _ equal
  exact arrow_of_inj (Dag.of_calls_closed calls edge.dependent edge.dependency member) equal

theorem mem_of_calls_arrows (arrow : Arrow) :
    arrow ∈ (ofCalls calls).arrows ↔ ∃ dependent dependency,
      .dependency dependent dependency ∈ calls ∧
        (ofCalls calls).numbers.get? dependency = some arrow.dependency ∧
        (ofCalls calls).numbers.get? dependent = some arrow.dependent := by
  simp only [(of_calls_numbers calls).arrows, List.mem_map, number_place]
  constructor
  · rintro ⟨edge, member, rfl⟩
    have ends := Dag.of_calls_closed calls edge.dependent edge.dependency member
    exact ⟨edge.dependent, edge.dependency, (Dag.of_calls_depends_on calls _ _).mp member,
      ⟨ends.2, rfl⟩, ⟨ends.1, rfl⟩⟩
  · rintro ⟨dependent, dependency, made, ⟨_, first⟩, ⟨_, second⟩⟩
    refine ⟨⟨dependency, dependent⟩, (Dag.of_calls_depends_on calls _ _).mpr made, ?_⟩
    rw [arrowOf, first, second]

theorem of_calls_represents : (ofCalls calls).Represents calls where
  known t := by
    simp only [number_place, exists_and_left, exists_eq', and_true, Dag.mem_of_calls_nodes]
  distinct a b number first second := by
    rw [number_some_iff] at first second
    exact Option.some.inj (first.symm.trans second)
  dense number := by
    simp only [number_some_iff, ← count_mentioned, List.getElem?_eq_some_iff, exists_comm,
      exists_eq', exists_prop, and_true]
  order a b i j first second := by
    obtain ⟨memberA, rfl⟩ := (number_place calls a i).mp first
    obtain ⟨memberB, rfl⟩ := (number_place calls b j).mp second
    exact (Dag.of_calls_first_mentions calls).order a memberA b memberB
  nodes t number := by
    rw [(of_calls_numbers calls).targets]
    exact number_some_iff calls t number
  once := of_calls_arrows_nodup calls
  arrows := mem_of_calls_arrows calls

theorem of_calls_repeated (made : Call) (before : made ∈ calls) :
    (ofCalls calls).call made = ofCalls calls := by
  have numbered (t : Target) (named : made.Names t) :=
    ((of_calls_represents calls).known t).mpr ⟨made, before, named⟩
  cases made with
  | action target =>
      obtain ⟨number, given⟩ := numbered target rfl
      rw [call, add_action_numbered _ target number given]
  | dependency dependent dependency =>
      obtain ⟨i, first⟩ := numbered dependent (Or.inl rfl)
      obtain ⟨j, second⟩ := numbered dependency (Or.inr rfl)
      have drawn : (⟨j, i⟩ : Arrow) ∈ (ofCalls calls).arrows :=
        (mem_of_calls_arrows calls _).mpr ⟨dependent, dependency, before, second, first⟩
      rw [call, addDependency]
      simp only [add_action_numbered _ dependent i first,
        add_action_numbered _ dependency j second]
      exact if_pos drawn

theorem of_calls_kept (later : List Call) (t : Target) (number : Nat)
    (given : (ofCalls calls).numbers.get? t = some number) :
    (ofCalls (calls ++ later)).numbers.get? t = some number := by
  rw [of_calls_append]
  exact calls_keep_number later _ t number given

end Calls

theorem calls_numbered (calls : List Call) :
    (ofCalls calls).Represents calls ∧
    (∀ made ∈ calls, (ofCalls calls).call made = ofCalls calls) ∧
    (∀ later t number, (ofCalls calls).numbers.get? t = some number →
      (ofCalls (calls ++ later)).numbers.get? t = some number) ∧
    (∀ target later, (ofCalls (calls ++ .action target :: later)).numbers.get? target =
      some ((ofCalls calls).addAction target).1) ∧
    (Numbers (ofCalls calls) (Dag.ofCalls calls) ∧
      ∀ made ∈ calls, (Dag.ofCalls calls).call made = Dag.ofCalls calls) := by
  refine ⟨of_calls_represents calls, of_calls_repeated calls, of_calls_kept calls, ?_,
    of_calls_numbers calls, Dag.of_calls_again calls⟩
  intro target later
  rw [← List.singleton_append, ← List.append_assoc]
  apply of_calls_kept
  rw [of_calls_append]
  exact add_action_answer _ target

-- The dependent has the lower number where a dependency names both first.
example : (ofCalls [.dependency (Dag.sample "b") (Dag.sample "a"), .action (Dag.sample "c"),
    .dependency (Dag.sample "b") (Dag.sample "a")]).numbers.toList =
      [(Dag.sample "a", 1), (Dag.sample "b", 0), (Dag.sample "c", 2)] := by cbv

end NumberedDag

end SqlWorkflow
