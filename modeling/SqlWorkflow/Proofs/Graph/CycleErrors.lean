import SqlWorkflow.Proofs.Dag.CyclePath
import SqlWorkflow.Proofs.Graph.Messages

-- Each group of mutually dependent targets has one reported cycle, a shortest one through its least
-- target. Every member of a group that is a single ring is on it, while a member that it goes round
-- has no error of its own.
namespace SqlWorkflow

open Relation

-- The step from any target of a cycle leads to another of its targets, since its last is its first.
theorem is_cycle_next {depends : Target → Target → Prop} {start : Target} {path : List Target}
    (cycle : Dag.IsCycle depends start path) (t : Target) (member : t ∈ path) :
    ∃ next ∈ path, depends t next := by
  obtain ⟨before, after, rfl⟩ := List.mem_iff_append.mp member
  cases after with
  | cons next rest =>
      exact ⟨next, by simp, (List.isChain_append_cons_cons.mp cycle.linked).2.1⟩
  | nil =>
      obtain rfl : t = start := by simpa using cycle.ends
      cases before with
      | nil => exact absurd cycle.long (by simp)
      | cons first rest =>
          obtain rfl : first = t := by simpa using cycle.starts
          have linked := cycle.linked
          cases rest with
          | nil => exact ⟨first, by simp, (List.isChain_cons_cons.mp linked).1⟩
          | cons second rest => exact ⟨second, by simp, (List.isChain_cons_cons.mp linked).1⟩

-- A relation that is cut down to what is inside has the same cycles, as they never leave it.
theorem is_cycle_inside (r s : Target → Target → Prop) (inside : Target → Prop)
    (restricted : ∀ a b, s a b ↔ r a b ∧ inside b) (source : ∀ a b, r a b → inside a)
    (start : Target) (path : List Target) :
    Dag.IsCycle s start path ↔ Dag.IsCycle r start path := by
  constructor
  · rintro ⟨starts, ends, long, linked⟩
    exact ⟨starts, ends, long, linked.imp fun a b edge => ((restricted a b).mp edge).1⟩
  · intro cycle
    refine ⟨cycle.starts, cycle.ends, cycle.long, ?_⟩
    refine cycle.linked.imp_of_mem_imp fun a b _ member edge => ?_
    obtain ⟨next, _, onward⟩ := is_cycle_next cycle b member
    exact (restricted a b).mpr ⟨edge, source b next onward⟩

namespace Graph

def OnCycle (graph : Graph) (target : Target) : Prop :=
  TransGen graph.DependsOn target target

def SameGroup (graph : Graph) (a b : Target) : Prop :=
  TransGen graph.DependsOn a b ∧ TransGen graph.DependsOn b a

-- Each member of the group depends on no more than one other member.
def Ring (graph : Graph) (target : Target) : Prop :=
  ∀ a b c, graph.SameGroup target a → graph.SameGroup target b → graph.SameGroup target c →
    graph.DependsOn a b → graph.DependsOn a c → b = c

def CycleErrorIn (graph : Graph) (file : String) : Prop :=
  ∃ text, graph.Reports file text ∧ TellsCycle text

def CyclesBlamed (graph : Graph) : Prop :=
  ∀ action ∈ graph.actions, graph.OnCycle action.canonicalTarget →
    graph.CycleErrorIn action.fileName

def reportedCycles (settings : Settings) (drafts : List Draft) : List (List Target) :=
  (Dag.build (mergedDependencies (orderedActions settings drafts))).cycles

structure IsReportedFor (graph : Graph) (target : Target) (cycle : List Target) : Prop where
  shortest : ∃ start, Dag.IsShortestCycle graph.DependsOn start cycle ∧
    ∀ other, graph.SameGroup target other → other = start ∨ compare start other = .lt
  inside : ∀ t ∈ cycle, graph.SameGroup target t

section Build

variable (settings : Settings) (drafts : List Draft) (fileErrors fileWarnings : List FileMessage)

theorem build_dag_cycle (start : Target) (path : List Target) :
    Dag.IsShortestCycle (Dag.build (mergedDependencies (orderedActions settings drafts))).DependsOn
        start path ↔
      Dag.IsShortestCycle (build settings drafts fileErrors fileWarnings).DependsOn start path := by
  have same := is_cycle_inside (DependsAmong (orderedActions settings drafts)) _ _
    (merged_depends_on (orderedActions settings drafts)) (depends_among_source _)
  rw [build_depends_on]
  constructor
  · rintro ⟨cycle, simple, least⟩
    exact ⟨(same start path).mp cycle, simple, fun other round =>
      least other ((same start other).mpr round)⟩
  · rintro ⟨cycle, simple, least⟩
    exact ⟨(same start path).mpr cycle, simple, fun other round =>
      least other ((same start other).mp round)⟩

theorem same_group_iff (a b : Target) :
    (build settings drafts fileErrors fileWarnings).SameGroup a b ↔
      b ∈ (Dag.build (mergedDependencies (orderedActions settings drafts))).component a := by
  rw [Dag.mem_component _ (Dag.build_closed _), merged_reaches, merged_reaches, SameGroup,
    build_depends_on]
  constructor
  · rintro ⟨there, back⟩
    obtain ⟨_, fromA, _⟩ := TransGen.head'_iff.mp there
    obtain ⟨_, fromB, _⟩ := TransGen.head'_iff.mp back
    exact ⟨⟨there, depends_among_source _ _ _ fromB⟩, back, depends_among_source _ _ _ fromA⟩
  · rintro ⟨⟨there, _⟩, back, _⟩
    exact ⟨there, back⟩

theorem reported_for (target : Target)
    (cyclic : (build settings drafts fileErrors fileWarnings).OnCycle target) :
    ∃ cycle ∈ reportedCycles settings drafts,
      (build settings drafts fileErrors fileWarnings).IsReportedFor target cycle ∧
      ∀ other ∈ reportedCycles settings drafts,
        (∃ t ∈ other, (build settings drafts fileErrors fileWarnings).SameGroup target t) →
          other = cycle := by
  have closed := Dag.build_closed (mergedDependencies (orderedActions settings drafts))
  have group := same_group_iff settings drafts fileErrors fileWarnings
  have shortest := build_dag_cycle settings drafts fileErrors fileWarnings
  unfold reportedCycles
  generalize Dag.build (mergedDependencies (orderedActions settings drafts)) = dag at *
  obtain ⟨there, _⟩ := (dag.mem_component closed target target).mp
    ((group target target).mp ⟨cyclic, cyclic⟩)
  obtain ⟨leader, member, leads⟩ := dag.exists_leader closed target there
  have same := dag.component_same closed target leader member
  have round := dag.leads_cycle_cyclic closed leader leads
  obtain ⟨isShortest, inside⟩ := dag.cycle_path_shortest closed leader round
  have first : (dag.component target).head? = some leader := same ▸ dag.leads_cycle_head leader leads
  refine ⟨dag.cyclePath leader, (dag.mem_cycles closed _).mpr ⟨leader, round, leads, rfl⟩,
    ⟨⟨leader, (shortest leader _).mp isShortest, fun other grouped => ?_⟩, fun t onPath => ?_⟩, ?_⟩
  · exact ascending_head_least _ (dag.component_ascending target) leader other first
      ((group target other).mp grouped)
  · exact (group target t).mpr (same ▸ inside t onPath)
  · rintro _ reported ⟨t, onPath, grouped⟩
    obtain ⟨start, cyclicStart, leadsStart, rfl⟩ := (dag.mem_cycles closed _).mp reported
    -- both leaders are the least of the group to which `t` belongs
    have ofTarget := dag.component_same closed target t ((group target t).mp grouped)
    have ofStart := dag.component_same closed start t
      ((dag.cycle_path_shortest closed start cyclicStart).2 t onPath)
    have firstStart := dag.leads_cycle_head start leadsStart
    rw [← ofStart, ofTarget, first] at firstStart
    cases firstStart
    rfl

theorem cycle_error_iff (file : String) :
    (build settings drafts fileErrors fileWarnings).CycleErrorIn file ↔
      (∃ message ∈ fileErrors, message.path = file ∧ TellsCycle message.message) ∨
        ∃ action ∈ (build settings drafts fileErrors fileWarnings).actions,
          action.fileName = file ∧
          ∃ cycle ∈ reportedCycles settings drafts, action.canonicalTarget ∈ cycle := by
  simp only [CycleErrorIn, build_reports, checkErrors, List.mem_append, mem_duplicate_errors,
    mem_unresolved_errors, mem_cycle_errors, mem_build_actions]
  constructor
  · rintro ⟨text, known | (⟨action, _, _, _, rfl⟩ | ⟨action, _, _, _, _, _, rfl⟩) |
      ⟨cycle, reported, rfl, action, member, here, inside⟩, tells⟩
    · exact Or.inl ⟨_, known, rfl, tells⟩
    · exact absurd tells (duplicate_tells_no_cycle _ _)
    · exact absurd tells (unresolved_tells_no_cycle _ _)
    · exact Or.inr ⟨_, ⟨action, member, rfl⟩, by simpa using here, cycle, reported,
        by simpa using inside⟩
  · rintro (⟨message, known, rfl, tells⟩ | ⟨_, ⟨action, member, rfl⟩, here, cycle, reported, inside⟩)
    · exact ⟨_, Or.inl known, tells⟩
    · refine ⟨_, Or.inr (Or.inr ⟨cycle, reported, rfl, action, member, ?_, ?_⟩),
        circular_tells_cycle cycle⟩
      · simpa using here
      · simpa using inside

-- Round a ring there is only one way, and the reported cycle goes it.
theorem ring_on_cycle (graph : Graph) (target start : Target) (cycle : List Target)
    (ring : graph.Ring target) (isCycle : Dag.IsCycle graph.DependsOn start cycle)
    (inside : ∀ t ∈ cycle, graph.SameGroup target t) (t : Target)
    (grouped : graph.SameGroup target t) : t ∈ cycle := by
  have home : start ∈ cycle := List.mem_of_head? isCycle.starts
  obtain ⟨there, back⟩ := inside start home
  have step (a b : Target) (onCycle : a ∈ cycle) (edge : graph.DependsOn a b)
      (sameB : graph.SameGroup target b) : b ∈ cycle := by
    obtain ⟨next, onward, other⟩ := is_cycle_next isCycle a onCycle
    exact ring a b next (inside a onCycle) sameB (inside next onward) edge other ▸ onward
  have walked : TransGen graph.DependsOn start t := back.trans grouped.1
  have returns : TransGen graph.DependsOn t target := grouped.2
  clear grouped
  induction walked with
  | single edge => exact step start _ home edge ⟨there.tail edge, returns⟩
  | @tail a b walked edge ih =>
      exact step a b (ih (.head edge returns)) edge ⟨(there.trans walked).tail edge, returns⟩

theorem build_cycle_errors :
    (∀ target, (build settings drafts fileErrors fileWarnings).OnCycle target →
      ∃ cycle ∈ reportedCycles settings drafts,
        (build settings drafts fileErrors fileWarnings).IsReportedFor target cycle ∧
        ∀ other ∈ reportedCycles settings drafts,
          (∃ t ∈ other, (build settings drafts fileErrors fileWarnings).SameGroup target t) →
            other = cycle) ∧
    (∀ file, (build settings drafts fileErrors fileWarnings).CycleErrorIn file ↔
      (∃ message ∈ fileErrors, message.path = file ∧ TellsCycle message.message) ∨
        ∃ action ∈ (build settings drafts fileErrors fileWarnings).actions,
          action.fileName = file ∧
          ∃ cycle ∈ reportedCycles settings drafts, action.canonicalTarget ∈ cycle) ∧
    (CyclesBlamed (build settings drafts fileErrors fileWarnings) ↔
      ∀ action ∈ (build settings drafts fileErrors fileWarnings).actions,
        (build settings drafts fileErrors fileWarnings).OnCycle action.canonicalTarget →
        (∃ message ∈ fileErrors, message.path = action.fileName ∧ TellsCycle message.message) ∨
          ∃ other ∈ (build settings drafts fileErrors fileWarnings).actions,
            other.fileName = action.fileName ∧
            ∃ cycle ∈ reportedCycles settings drafts, other.canonicalTarget ∈ cycle) ∧
    (∀ action ∈ (build settings drafts fileErrors fileWarnings).actions,
      (build settings drafts fileErrors fileWarnings).OnCycle action.canonicalTarget →
      (build settings drafts fileErrors fileWarnings).Ring action.canonicalTarget →
        (build settings drafts fileErrors fileWarnings).CycleErrorIn action.fileName) := by
  have errors := cycle_error_iff settings drafts fileErrors fileWarnings
  refine ⟨reported_for settings drafts fileErrors fileWarnings, errors,
    forall₃_congr fun action _ _ => errors action.fileName, fun action member cyclic ring => ?_⟩
  obtain ⟨cycle, reported, ⟨⟨start, shortest, _⟩, inside⟩, _⟩ :=
    reported_for settings drafts fileErrors fileWarnings _ cyclic
  have onCycle := ring_on_cycle _ _ start cycle ring shortest.toIsCycle inside
    action.canonicalTarget ⟨cyclic, cyclic⟩
  exact (errors _).mpr (Or.inr ⟨action, member, rfl, cycle, reported, onCycle⟩)

end Build

def tableOn (name : String) (dependencies : List String) : Draft where
  fileName := name ++ ".sqlx"
  identity := { name }
  dependencies := dependencies.map fun dependency => ⟨none, "dataform", dependency⟩
  kind := .table .table "select 1 as id" none [] [] [] {}

def hubCycles : List Draft :=
  [tableOn "base" ["hub"], tableOn "hub" ["base", "report"], tableOn "report" ["hub"]]

-- The least of the three is the base, so the cycle through it and the hub is the reported one.
theorem hub_cycles_not_blamed : ¬ CyclesBlamed (build {} hubCycles [] []) := by
  have ordered : orderedActions {} hubCycles = hubCycles.map (Draft.toAction {}) := by cbv
  have reported : reportedCycles {} hubCycles =
      [[⟨none, "dataform", "base"⟩, ⟨none, "dataform", "hub"⟩, ⟨none, "dataform", "base"⟩]] := by
    cbv
  have cyclic : (build {} hubCycles [] []).OnCycle ⟨none, "dataform", "report"⟩ := by
    rw [OnCycle, build_depends_on, ordered]
    unfold DependsAmong
    exact (TransGen.single (b := ⟨none, "dataform", "hub"⟩) (by decide)).tail (by decide)
  intro blamed
  have blame := blamed ((tableOn "report" ["hub"]).toAction {})
    ((mem_build_actions _ _ _ _ _).mpr ⟨(tableOn "report" ["hub"]).toAction {},
      by rw [ordered]; decide, rfl⟩) cyclic
  rcases (cycle_error_iff _ _ _ _ _).mp blame with ⟨_, none, _⟩ | ⟨_, member, here, cycle, path, inside⟩
  · cases none
  · obtain ⟨own, known, rfl⟩ := (mem_build_actions _ _ _ _ _).mp member
    rw [disable_assertion_file] at here
    rw [disable_assertion_canonical] at inside
    rw [reported] at path
    have apart : ∀ own ∈ hubCycles.map (Draft.toAction {}), own.fileName = "report.sqlx" →
        own.canonicalTarget ∉ ([⟨none, "dataform", "base"⟩, ⟨none, "dataform", "hub"⟩,
          ⟨none, "dataform", "base"⟩] : List Target) := by
      decide
    obtain rfl := List.mem_singleton.mp path
    exact apart own (ordered ▸ known) here inside

end Graph

end SqlWorkflow
