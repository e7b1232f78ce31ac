import SqlWorkflow.Proofs.Compile.Dependencies

namespace SqlWorkflow

structure MadeFor (settings : Settings) (parent : Draft) (kind : SpecKind) (place : Nat)
    (query : String) (made : Draft) : Prop where
  identity : made.identity = {
    name := (parent.toAction settings).canonicalTarget.schema ++ "_" ++
      (parent.toAction settings).canonicalTarget.name ++ "_assertions_" ++ kind.word ++ "_" ++
      toString place }
  file : made.fileName = parent.fileName
  tags : made.tags = parent.tags
  disabled : made.disabled = parent.disabled
  dependencies : made.dependencies = [(parent.toAction settings).canonicalTarget]
  kind : made.kind = .assertion query (some (parent.toAction settings).canonicalTarget)

inductive Yields (settings : Settings) (parent : Draft) (kind : SpecKind) (place : Nat)
    (items : List String) : Except FileMessage Draft → Prop where
  | made (query : String) (made : Draft)
      (asked : Spec.query ⟨kind, place, items⟩
        (settings.effectiveWarehouse.quote (parent.toAction settings).target) = .ok query)
      (fits : MadeFor settings parent kind place query made) :
      Yields settings parent kind place items (.ok made)
  | refused (cause : AssertionError)
      (asked : Spec.query ⟨kind, place, items⟩
        (settings.effectiveWarehouse.quote (parent.toAction settings).target) = .error cause) :
      Yields settings parent kind place items (.error ⟨parent.fileName, cause.message⟩)

structure Answered (settings : Settings) (parent : Draft)
    (results : List (Except FileMessage Draft)) : Prop where
  count : results.length = parent.declared.length
  each : ∀ earlier kind items later, parent.declared = earlier ++ (kind, items) :: later →
    ∃ result, results[earlier.length]? = some result ∧
      Yields settings parent kind ((earlier.map Prod.fst).count kind) items result
  apart : ((results.filterMap Except.toOption).map fun made => made.identity.name).Nodup

namespace Synthesis

variable (settings : Settings)

theorem answer_yields (parent : Draft) (spec : Spec) :
    Yields settings parent spec.kind spec.index spec.items
      (answer parent (parent.toAction settings).canonicalTarget
        (settings.effectiveWarehouse.quote (parent.toAction settings).target) spec) := by
  unfold answer
  cases asked : spec.query
      (settings.effectiveWarehouse.quote (parent.toAction settings).target) with
  | error cause => exact .refused cause asked
  | ok query =>
      refine .made query _ asked ?_
      constructor <;> rfl

theorem results_each (parent : Draft) (earlier later : List (SpecKind × List String))
    (kind : SpecKind) (items : List String)
    (split : parent.declared = earlier ++ (kind, items) :: later) :
    ∃ result, (results settings parent)[earlier.length]? = some result ∧
      Yields settings parent kind ((earlier.map Prod.fst).count kind) items result := by
  have length := AssertionSpecs.numbered_length [] earlier
  have found : parent.specs[earlier.length]? =
      some ⟨kind, (earlier.map Prod.fst).count kind, items⟩ := by
    rw [parent.specs_numbered, split, AssertionSpecs.numbered_append, ← length,
      List.getElem?_append_right (Nat.le_refl _), Nat.sub_self]
    rfl
  rw [results, List.getElem?_map, found]
  exact ⟨_, rfl, answer_yields settings parent ⟨kind, (earlier.map Prod.fst).count kind, items⟩⟩

theorem results_answered (parent : Draft) : Answered settings parent (results settings parent) where
  count := by
    rw [results, List.length_map, parent.specs_numbered, AssertionSpecs.numbered_length]
  each earlier kind items later split := results_each settings parent earlier later kind items split
  apart := results_apart settings parent

end Synthesis

namespace Graph

def Lacks (graph : Graph) (settings : Settings) (draft : Draft) (text : String) : Prop :=
  ∃ dependency ∈ (draft.toAction settings).dependencyTargets,
    dependency ∉ graph.actions.map Action.canonicalTarget ∧
    text = (Error.unresolvedDependency (draft.toAction settings).canonicalTarget dependency).message

section Build

variable (settings : Settings) (drafts : List Draft) (fileErrors fileWarnings : List FileMessage)

-- The other checks have codes of their own.
theorem build_reports_unresolved (path text : String) (unresolved : Tells "[E011]" text) :
    (build settings drafts fileErrors fileWarnings).Reports path text ↔
      (⟨path, text⟩ : FileMessage) ∈ fileErrors ∨ ∃ draft ∈ drafts, draft.fileName = path ∧
        (build settings drafts fileErrors fileWarnings).Lacks settings draft text := by
  have known (action : Action) := (ordered_actions_perm settings drafts).mem_iff (a := action)
  have targets (t : Target) :=
    (build_targets_perm settings drafts fileErrors fileWarnings).mem_iff (a := t)
  rw [build_reports]
  refine or_congr_right ?_
  simp only [checkErrors, List.mem_append, mem_unresolved_errors, Lacks, targets]
  constructor
  · intro reported
    rcases reported with (duplicate | lacking) | cycle
    · obtain ⟨action, _, _, _, rfl⟩ := (mem_duplicate_errors _ _ _).mp duplicate
      have same := tells_one _ _ _ (duplicate_told _ _) unresolved (by decide)
      exact absurd same (by decide)
    · obtain ⟨action, member, rfl, lacks⟩ := lacking
      obtain ⟨draft, given, rfl⟩ := List.mem_map.mp ((known action).mp member)
      exact ⟨draft, given, (to_action_file settings draft).symm, lacks⟩
    · obtain ⟨_, _, rfl, _⟩ := (mem_cycle_errors _ _ _).mp cycle
      have same := tells_one _ _ _ (cycle_told _ (circular_tells_cycle _)) unresolved (by decide)
      exact absurd same (by decide)
  · intro lacking
    obtain ⟨draft, given, rfl, lacks⟩ := lacking
    refine .inl (.inr ⟨draft.toAction settings, ?_, to_action_file settings draft, lacks⟩)
    exact (known _).mpr (List.mem_map_of_mem given)

end Build

section Asserted

variable (settings : Settings) (drafts : List Draft) (fileErrors fileWarnings : List FileMessage)

def buildAsserted : Graph :=
  build settings (drafts ++ (Synthesis.ofDrafts settings drafts).drafts) fileErrors fileWarnings

structure Follows (graph : Graph) (parent made : Draft) : Prop where
  known : ∃ action ∈ graph.actions, action.kind = .table ∧
    action.canonicalTarget = (parent.toAction settings).canonicalTarget
  links : graph.Links parent.fileName (made.toAction settings).canonicalTarget
    [(parent.toAction settings).canonicalTarget]

theorem given_built (parent : Draft) (given : parent ∈ drafts) :
    ∃ action ∈ (buildAsserted settings drafts fileErrors fileWarnings).actions,
      action.kind = parent.actionKind ∧
      action.canonicalTarget = (parent.toAction settings).canonicalTarget := by
  have own : parent.toAction settings ∈
      ownActions settings (drafts ++ (Synthesis.ofDrafts settings drafts).drafts) :=
    List.mem_map_of_mem (List.mem_append_left _ given)
  refine ⟨_, (mem_built settings _ fileErrors fileWarnings _).mpr ⟨_, own, rfl⟩, ?_, ?_⟩
  · rw [settle_kind, to_action_kind]
  · rw [settle_canonical]

theorem made_lists (parent made : Draft)
    (member : made ∈ (Synthesis.ofDraft settings parent).drafts) :
    made.dependencies = [(parent.toAction settings).canonicalTarget] ∧
      made.fileName = parent.fileName ∧ made.actionKind = .assertion := by
  obtain ⟨_, spec, _, query, rfl⟩ := Synthesis.mem_of_draft settings parent made member
  exact ⟨rfl, rfl, rfl⟩

theorem made_follows (parent made : Draft) (given : parent ∈ drafts)
    (member : made ∈ (Synthesis.ofDraft settings parent).drafts) :
    Follows settings (buildAsserted settings drafts fileErrors fileWarnings) parent made := by
  obtain ⟨dependencies, file, assertion⟩ := made_lists settings parent made member
  have listed : made ∈ drafts ++ (Synthesis.ofDrafts settings drafts).drafts := by
    rw [Synthesis.of_drafts_drafts]
    exact List.mem_append_right _ (List.mem_flatMap.mpr ⟨parent, given, member⟩)
  have links := build_links settings _ fileErrors fileWarnings made listed
    fun declaration => by rw [assertion] at declaration; cases declaration
  rw [dependencies, file, ← to_action_canonical] at links
  have known := given_built settings drafts fileErrors fileWarnings parent given
  rw [(Synthesis.mem_of_draft settings parent made member).1] at known
  exact ⟨known, links⟩

theorem made_resolved (parent made : Draft) (text : String) (given : parent ∈ drafts)
    (member : made ∈ (Synthesis.ofDraft settings parent).drafts) :
    ¬ (buildAsserted settings drafts fileErrors fileWarnings).Lacks settings made text := by
  intro lacks
  obtain ⟨dependency, depends, absent, _⟩ := lacks
  obtain ⟨dependencies, _, assertion⟩ := made_lists settings parent made member
  rw [to_action_dependencies settings made
    fun declaration => by rw [assertion] at declaration; cases declaration] at depends
  have own := (SortedSet.mem_of_list _ _).mp depends
  rw [dependencies, List.mem_singleton] at own
  obtain ⟨action, built, _, there⟩ :=
    given_built settings drafts fileErrors fileWarnings parent given
  rw [own, ← there] at absent
  exact absent (List.mem_map_of_mem built)

theorem asserted_reports_unresolved (path text : String) (unresolved : Tells "[E011]" text) :
    (buildAsserted settings drafts fileErrors fileWarnings).Reports path text ↔
      (⟨path, text⟩ : FileMessage) ∈ fileErrors ∨ ∃ draft ∈ drafts, draft.fileName = path ∧
        (buildAsserted settings drafts fileErrors fileWarnings).Lacks settings draft text := by
  rw [buildAsserted, build_reports_unresolved _ _ _ _ path text unresolved, ← buildAsserted]
  refine or_congr_right ⟨fun lacking => ?_, fun lacking => ?_⟩
  · obtain ⟨draft, member, file, lacks⟩ := lacking
    rcases List.mem_append.mp member with given | made
    · exact ⟨draft, given, file, lacks⟩
    · rw [Synthesis.of_drafts_drafts] at made
      obtain ⟨parent, given, made⟩ := List.mem_flatMap.mp made
      exact absurd lacks (made_resolved settings drafts fileErrors fileWarnings parent draft text
        given made)
  · obtain ⟨draft, given, file, lacks⟩ := lacking
    exact ⟨draft, List.mem_append_left _ given, file, lacks⟩

end Asserted

end Graph

theorem declared_assertions_made (settings : Settings) (drafts : List Draft)
    (fileErrors fileWarnings : List FileMessage) :
    separate (drafts.flatMap (Synthesis.results settings)) =
      ((Synthesis.ofDrafts settings drafts).drafts, (Synthesis.ofDrafts settings drafts).errors) ∧
    (∀ parent, Answered settings parent (Synthesis.results settings parent)) ∧
    (∀ parent ∈ drafts, ∀ made, .ok made ∈ Synthesis.results settings parent →
      Graph.Follows settings (Graph.buildAsserted settings drafts fileErrors fileWarnings)
        parent made) ∧
    ∀ path text, Graph.Tells "[E011]" text →
      ((Graph.buildAsserted settings drafts fileErrors fileWarnings).Reports path text ↔
        (⟨path, text⟩ : FileMessage) ∈ fileErrors ∨ ∃ draft ∈ drafts, draft.fileName = path ∧
          (Graph.buildAsserted settings drafts fileErrors fileWarnings).Lacks settings draft
            text) := by
  refine ⟨Synthesis.of_drafts_separate settings drafts, Synthesis.results_answered settings,
    fun parent given made answered => ?_, fun path text unresolved => ?_⟩
  · have member := (Synthesis.mem_results settings parent made).mp answered
    exact Graph.made_follows settings drafts fileErrors fileWarnings parent made given member
  · exact Graph.asserted_reports_unresolved settings drafts fileErrors fileWarnings path text
      unresolved

end SqlWorkflow
