import SqlWorkflow.Proofs.Graph.Actions

-- Propagation takes one step from the actions that are disabled on their own. A chain of assertions
-- is closed only where its later members are reached in one step as well.
namespace SqlWorkflow.Graph

def DependsOnDisabled (actions : List Action) (action : Action) : Prop :=
  ∃ other ∈ actions, other.disabled = true ∧ other.canonicalTarget ∈ action.dependencyTargets

def DisabledClosed (actions : List Action) : Prop :=
  ∀ check ∈ actions, check.kind = .assertion → DependsOnDisabled actions check →
    check.disabled = true

def ownActions (settings : Settings) (drafts : List Draft) : List Action :=
  drafts.map (Draft.toAction settings)

theorem depends_on_disabled_iff (actions : List Action) (action : Action) :
    (action.dependencyTargets.any (· ∈ (actions.filter Action.disabled).map
      Action.canonicalTarget)) = true ↔ DependsOnDisabled actions action := by
  simp only [List.any_eq_true, decide_eq_true_eq, List.mem_map, List.mem_filter, DependsOnDisabled]
  constructor
  · rintro ⟨_, depends, other, ⟨member, disabled⟩, rfl⟩
    exact ⟨other, member, disabled, depends⟩
  · rintro ⟨other, member, disabled, depends⟩
    exact ⟨_, depends, other, ⟨member, disabled⟩, rfl⟩

theorem depends_on_disabled_perm {a b : List Action} (perm : a.Perm b) (action : Action) :
    DependsOnDisabled a action ↔ DependsOnDisabled b action := by
  simp only [DependsOnDisabled, perm.mem_iff]

def settle (settings : Settings) (drafts : List Draft) (own : Action) : Action :=
  disableAssertion (((orderedActions settings drafts).filter Action.disabled).map
    Action.canonicalTarget) own

section Settle

variable (settings : Settings) (drafts : List Draft)

theorem mem_built (fileErrors fileWarnings : List FileMessage) (action : Action) :
    action ∈ (build settings drafts fileErrors fileWarnings).actions ↔
      ∃ own ∈ ownActions settings drafts, settle settings drafts own = action := by
  rw [mem_build_actions]
  simp only [(ordered_actions_perm settings drafts).mem_iff]
  rfl

theorem settle_disabled_iff (own : Action) :
    (settle settings drafts own).disabled = true ↔ own.disabled = true ∨
      own.kind = .assertion ∧ DependsOnDisabled (ownActions settings drafts) own := by
  rw [settle, disable_assertion_disabled, Bool.or_eq_true, Bool.and_eq_true, decide_eq_true_eq,
    depends_on_disabled_iff, depends_on_disabled_perm (ordered_actions_perm settings drafts)]
  rfl

theorem settle_kind (own : Action) : (settle settings drafts own).kind = own.kind :=
  disable_assertion_kind _ own

theorem settle_canonical (own : Action) :
    (settle settings drafts own).canonicalTarget = own.canonicalTarget :=
  disable_assertion_canonical _ own

theorem settle_dependencies (own : Action) :
    (settle settings drafts own).dependencyTargets = own.dependencyTargets :=
  disable_assertion_dependencies _ own

-- After propagation an action may also depend on an assertion that propagation has disabled.
theorem depends_on_settled_iff (fileErrors fileWarnings : List FileMessage) (own : Action) :
    DependsOnDisabled (build settings drafts fileErrors fileWarnings).actions
        (settle settings drafts own) ↔
      DependsOnDisabled (ownActions settings drafts) own ∨
        ∃ link ∈ ownActions settings drafts, link.kind = .assertion ∧
          link.canonicalTarget ∈ own.dependencyTargets ∧
          DependsOnDisabled (ownActions settings drafts) link := by
  constructor
  · rintro ⟨_, member, disabled, depends⟩
    obtain ⟨link, known, rfl⟩ := (mem_built settings drafts fileErrors fileWarnings _).mp member
    rw [settle_canonical, settle_dependencies] at depends
    rcases (settle_disabled_iff settings drafts link).mp disabled with alone | ⟨check, linked⟩
    · exact Or.inl ⟨link, known, alone, depends⟩
    · exact Or.inr ⟨link, known, check, depends, linked⟩
  · have final (link : Action) (known : link ∈ ownActions settings drafts)
        (depends : link.canonicalTarget ∈ own.dependencyTargets)
        (disabled : (settle settings drafts link).disabled = true) :
        DependsOnDisabled (build settings drafts fileErrors fileWarnings).actions
          (settle settings drafts own) := by
      refine ⟨_, (mem_built settings drafts fileErrors fileWarnings _).mpr ⟨link, known, rfl⟩,
        disabled, ?_⟩
      rw [settle_canonical, settle_dependencies]
      exact depends
    rintro (⟨link, known, alone, depends⟩ | ⟨link, known, check, depends, linked⟩)
    · exact final link known depends ((settle_disabled_iff settings drafts link).mpr (Or.inl alone))
    · exact final link known depends
        ((settle_disabled_iff settings drafts link).mpr (Or.inr ⟨check, linked⟩))

theorem disabled_closed_iff (fileErrors fileWarnings : List FileMessage) :
    DisabledClosed (build settings drafts fileErrors fileWarnings).actions ↔
      ∀ check ∈ ownActions settings drafts, check.kind = .assertion →
        (∃ link ∈ ownActions settings drafts, link.kind = .assertion ∧
          link.canonicalTarget ∈ check.dependencyTargets ∧
          DependsOnDisabled (ownActions settings drafts) link) →
        check.disabled = true ∨ DependsOnDisabled (ownActions settings drafts) check := by
  constructor
  · intro closed check known assertion linked
    have final := closed _
      ((mem_built settings drafts fileErrors fileWarnings _).mpr ⟨check, known, rfl⟩)
      ((settle_kind settings drafts check).trans assertion)
      ((depends_on_settled_iff settings drafts fileErrors fileWarnings check).mpr (Or.inr linked))
    exact ((settle_disabled_iff settings drafts check).mp final).imp_right And.right
  · intro short action member assertion depends
    obtain ⟨check, known, rfl⟩ := (mem_built settings drafts fileErrors fileWarnings _).mp member
    rw [settle_kind] at assertion
    refine (settle_disabled_iff settings drafts check).mpr ?_
    rcases (depends_on_settled_iff settings drafts fileErrors fileWarnings check).mp depends with
      direct | linked
    · exact Or.inr ⟨assertion, direct⟩
    · exact (short check known assertion linked).imp_right (And.intro assertion)

theorem others_unchanged (fileErrors fileWarnings : List FileMessage) :
    ((build settings drafts fileErrors fileWarnings).actions.filter (·.kind ≠ .assertion)).Perm
      ((ownActions settings drafts).filter (·.kind ≠ .assertion)) := by
  refine ((build_actions_perm settings drafts fileErrors fileWarnings).filter _).trans ?_
  refine List.Perm.trans ?_ ((ordered_actions_perm settings drafts).filter _)
  rw [propagateDisabled, List.filter_map]
  simp only [Function.comp_def, disable_assertion_kind]
  refine List.Perm.of_eq ((List.map_congr_left fun action member => ?_).trans (List.map_id _))
  exact disable_assertion_other _ action (of_decide_eq_true (List.mem_filter.mp member).2)

theorem own_disabled_spreads (fileErrors fileWarnings : List FileMessage) :
    ∀ check ∈ (build settings drafts fileErrors fileWarnings).actions, check.kind = .assertion →
      DependsOnDisabled (ownActions settings drafts) check → check.disabled = true := by
  rintro _ member assertion ⟨other, known, disabled, depends⟩
  obtain ⟨own, _, rfl⟩ := (mem_built settings drafts fileErrors fileWarnings _).mp member
  rw [settle_kind] at assertion
  rw [settle_dependencies] at depends
  exact (settle_disabled_iff settings drafts own).mpr
    (Or.inr ⟨assertion, other, known, disabled, depends⟩)

-- The first step is always taken. Whether chains are closed too depends on how they are linked.
theorem build_disabled_flags (fileErrors fileWarnings : List FileMessage) :
    (∀ check ∈ (build settings drafts fileErrors fileWarnings).actions, check.kind = .assertion →
      DependsOnDisabled (ownActions settings drafts) check → check.disabled = true) ∧
    ((build settings drafts fileErrors fileWarnings).actions.filter (·.kind ≠ .assertion)).Perm
      ((ownActions settings drafts).filter (·.kind ≠ .assertion)) ∧
    (DisabledClosed (build settings drafts fileErrors fileWarnings).actions ↔
      ∀ check ∈ ownActions settings drafts, check.kind = .assertion →
        (∃ link ∈ ownActions settings drafts, link.kind = .assertion ∧
          link.canonicalTarget ∈ check.dependencyTargets ∧
          DependsOnDisabled (ownActions settings drafts) link) →
        check.disabled = true ∨ DependsOnDisabled (ownActions settings drafts) check) :=
  ⟨own_disabled_spreads settings drafts fileErrors fileWarnings,
    others_unchanged settings drafts fileErrors fileWarnings,
    disabled_closed_iff settings drafts fileErrors fileWarnings⟩

end Settle

def disabledChain : List Draft :=
  [{ fileName := "orders.sqlx"
     identity := { name := "orders" }
     disabled := true
     kind := .table .table "select 1 as id" none [] [] [] {} },
    { fileName := "fresh.sqlx"
      identity := { name := "fresh" }
      dependencies := [⟨none, "dataform", "orders"⟩]
      kind := .assertion "select 1 as late" none },
    { fileName := "stable.sqlx"
      identity := { name := "stable" }
      dependencies := [⟨none, "dataform_assertions", "fresh"⟩]
      kind := .assertion "select 2 as late" none }]

theorem disabled_chain_not_closed : ¬ DisabledClosed (build {} disabledChain [] []).actions := by
  rw [disabled_closed_iff]
  unfold DependsOnDisabled ownActions
  decide

end SqlWorkflow.Graph
