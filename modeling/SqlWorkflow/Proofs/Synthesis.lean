import Mathlib.Data.List.Nodup
import SqlWorkflow.Proofs.Results

namespace SqlWorkflow

namespace Spec

theorem assertion_name_text (spec : Spec) (parent : Target) :
    (spec.assertionName parent).toList =
      (parent.schema.toList ++ '_' :: parent.name.toList ++ "_assertions_".toList) ++
        (spec.kind.word.toList ++ '_' :: (Nat.repr spec.index).toList) := by
  simp [assertionName, String.toList_append, ToString.toString]

theorem assertion_name_inj (parent : Target) (a b : Spec)
    (same : a.assertionName parent = b.assertionName parent) :
    a.kind = b.kind ∧ a.index = b.index := by
  have texts := congrArg String.toList same
  rw [assertion_name_text, assertion_name_text] at texts
  have ends := List.append_cancel_left texts
  have kinds : a.kind = b.kind := by
    have first := congrArg List.head? ends
    cases left : a.kind <;> cases right : b.kind <;> simp_all [SpecKind.word]
  refine ⟨kinds, ?_⟩
  rw [kinds] at ends
  have digits := (List.cons.inj (List.append_cancel_left ends)).2
  simp only [Nat.repr, String.toList_ofList] at digits
  have numbers := congrArg (fun digits => Nat.ofDigitChars 10 digits 0) digits
  simpa [Nat.ofDigitChars_toDigits] using numbers

theorem assertion_name_ne (spec : Spec) (parent : Target) :
    spec.assertionName parent ≠ parent.name := by
  intro same
  have lengths := congrArg (fun name => name.toList.length) same
  simp only [assertion_name_text, List.length_append, List.length_cons] at lengths
  omega

end Spec

namespace AssertionSpecs

def declared (specs : AssertionSpecs) : List (SpecKind × List String) :=
  (specs.uniqueKey.toList ++ specs.uniqueKeys).map (.uniqueKey, ·) ++
    (if specs.nonNull = [] then [] else [(.nonNull, specs.nonNull)]) ++
    (if specs.rowConditions = [] then [] else [(.rowConditions, specs.rowConditions)])

-- Each one under its place among those of its kind, after those of the kinds that come before.
def numbered (before : List SpecKind) : List (SpecKind × List String) → List Spec
  | [] => []
  | (kind, items) :: rest =>
      ⟨kind, before.count kind, items⟩ :: numbered (before ++ [kind]) rest

theorem numbered_append (before : List SpecKind) (a b : List (SpecKind × List String)) :
    numbered before (a ++ b) = numbered before a ++ numbered (before ++ a.map Prod.fst) b := by
  induction a generalizing before with
  | nil => simp [numbered]
  | cons first a ih =>
      obtain ⟨kind, items⟩ := first
      simp [numbered, ih]

theorem numbered_length (before : List SpecKind) (entries : List (SpecKind × List String)) :
    (numbered before entries).length = entries.length := by
  induction entries generalizing before with
  | nil => rfl
  | cons first entries ih => exact congrArg (· + 1) (ih _)

theorem numbered_same_kind (kind : SpecKind) (before : List SpecKind) (sets : List (List String)) :
    numbered before (sets.map (kind, ·)) =
      (sets.zipIdx (before.count kind)).map fun entry => ⟨kind, entry.2, entry.1⟩ := by
  induction sets generalizing before with
  | nil => rfl
  | cons items sets ih =>
      have next : (before ++ [kind]).count kind = before.count kind + 1 := by simp
      simp only [List.map_cons, numbered, List.zipIdx_cons, ih, next]

theorem numbered_index (before : List SpecKind) (entries : List (SpecKind × List String))
    (spec : Spec) (member : spec ∈ numbered before entries) :
    before.count spec.kind ≤ spec.index := by
  induction entries generalizing before with
  | nil => cases member
  | cons first entries ih =>
      rcases List.mem_cons.mp member with rfl | later
      · exact Nat.le_refl _
      · refine Nat.le_trans ?_ (ih _ later)
        rw [List.count_append]
        exact Nat.le_add_right _ _

theorem numbered_apart (before : List SpecKind) (entries : List (SpecKind × List String)) :
    (numbered before entries).Pairwise fun a b => a.kind = b.kind → a.index ≠ b.index := by
  induction entries generalizing before with
  | nil => exact List.Pairwise.nil
  | cons first entries ih =>
      refine List.pairwise_cons.mpr ⟨fun later member kind => ?_, ih _⟩
      have least := numbered_index _ _ later member
      rw [← kind, List.count_append, List.count_singleton_self] at least
      dsimp only at least ⊢
      omega

theorem single_numbered (kind : SpecKind) (before : List SpecKind) (items : List String)
    (first : kind ∉ before) :
    single kind items = numbered before (if items = [] then [] else [(kind, items)]) := by
  cases items with
  | nil => rfl
  | cons item items => simp [single, numbered, List.count_eq_zero.mpr first]

theorem to_list_numbered (specs : AssertionSpecs) : specs.toList = numbered [] specs.declared := by
  rw [declared, numbered_append, numbered_append, numbered_same_kind, toList, keySets]
  rw [single_numbered .nonNull _ specs.nonNull,
    single_numbered .rowConditions _ specs.rowConditions]
  · rfl
  · by_cases none : specs.nonNull = [] <;> simp [none]
  · simp

end AssertionSpecs

namespace Draft

def specs (draft : Draft) : List Spec :=
  match draft.kind with
  | .table _ _ _ _ _ _ assertions => assertions.toList
  | _ => []

theorem specs_table (draft : Draft) (spec : Spec) (member : spec ∈ draft.specs) :
    draft.actionKind = .table := by
  unfold specs at member
  unfold actionKind
  cases kind : draft.kind with
  | table => rfl
  | _ => rw [kind] at member; cases member

def declared (draft : Draft) : List (SpecKind × List String) :=
  match draft.kind with
  | .table _ _ _ _ _ _ assertions => assertions.declared
  | _ => []

theorem specs_numbered (draft : Draft) :
    draft.specs = AssertionSpecs.numbered [] draft.declared := by
  unfold specs declared
  cases draft.kind with
  | table => exact AssertionSpecs.to_list_numbered _
  | _ => rfl

end Draft

namespace Synthesis

def made (parent : Draft) (canonical : Target) (spec : Spec) (query : String) : Draft where
  fileName := parent.fileName
  identity := { name := spec.assertionName canonical }
  dependencies := [canonical]
  tags := parent.tags
  disabled := parent.disabled
  kind := .assertion query (some canonical)

def answer (parent : Draft) (canonical : Target) (table : String) (spec : Spec) :
    Except FileMessage Draft :=
  match spec.query table with
  | .error cause => .error ⟨parent.fileName, cause.message⟩
  | .ok query => .ok (made parent canonical spec query)

theorem answer_ok (parent : Draft) (canonical : Target) (table : String) (spec : Spec)
    (result : Draft) (answered : answer parent canonical table spec = .ok result) :
    ∃ query, spec.query table = .ok query ∧ result = made parent canonical spec query := by
  unfold answer at answered
  cases asked : spec.query table with
  | error cause => rw [asked] at answered; cases answered
  | ok query =>
      rw [asked] at answered
      exact ⟨query, rfl, (Except.ok.inj answered).symm⟩

theorem answer_error (parent : Draft) (canonical : Target) (table : String) (spec : Spec)
    (message : FileMessage) (answered : answer parent canonical table spec = .error message) :
    message.path = parent.fileName := by
  unfold answer at answered
  cases asked : spec.query table with
  | error cause =>
      rw [asked] at answered
      obtain rfl := Except.error.inj answered
      rfl
  | ok query => rw [asked] at answered; cases answered

theorem append_drafts (parts : List Synthesis) (start : Synthesis) :
    (parts.foldl append start).drafts = start.drafts ++ parts.flatMap Synthesis.drafts := by
  induction parts generalizing start with
  | nil => simp
  | cons part parts ih => simp [ih, append]

theorem append_errors (parts : List Synthesis) (start : Synthesis) :
    (parts.foldl append start).errors = start.errors ++ parts.flatMap Synthesis.errors := by
  induction parts generalizing start with
  | nil => simp
  | cons part parts ih => simp [ih, append]

variable (settings : Settings)

theorem of_drafts_drafts (drafts : List Draft) :
    (ofDrafts settings drafts).drafts =
      drafts.flatMap fun draft => (ofDraft settings draft).drafts := by
  rw [ofDrafts, append_drafts, List.flatMap_map]
  rfl

theorem of_drafts_errors (drafts : List Draft) :
    (ofDrafts settings drafts).errors =
      drafts.flatMap fun draft => (ofDraft settings draft).errors := by
  rw [ofDrafts, append_errors, List.flatMap_map]
  rfl

def results (parent : Draft) : List (Except FileMessage Draft) :=
  parent.specs.map (answer parent (parent.toAction settings).canonicalTarget
    (settings.effectiveWarehouse.quote (parent.toAction settings).target))

theorem of_spec_answer (parent : Draft) (canonical : Target) (table : String) (spec : Spec) :
    ofSpec parent canonical table spec =
      ⟨Compile.accepted (answer parent canonical table) spec,
        Compile.refused (answer parent canonical table) spec⟩ := by
  unfold ofSpec Compile.accepted Compile.refused answer
  cases spec.query table <;> rfl

theorem of_draft_separate (parent : Draft) :
    separate (results settings parent) =
      ((ofDraft settings parent).drafts, (ofDraft settings parent).errors) := by
  obtain ⟨file, identity, dependencies, tags, disabled, description, hermeticity, kind⟩ := parent
  refine Prod.ext ?_ ?_
  · rw [results, Compile.separate_accepted]
    cases kind with
    | table => simp only [ofDraft, append_drafts, List.flatMap_map, of_spec_answer]; rfl
    | _ => rfl
  · rw [results, Compile.separate_refused]
    cases kind with
    | table => simp only [ofDraft, append_errors, List.flatMap_map, of_spec_answer]; rfl
    | _ => rfl

theorem of_drafts_separate (drafts : List Draft) :
    separate (drafts.flatMap (results settings)) =
      ((ofDrafts settings drafts).drafts, (ofDrafts settings drafts).errors) := by
  rw [of_drafts_drafts, of_drafts_errors, separate, List.filterMap_flatMap, List.filterMap_flatMap]
  refine Prod.ext (List.flatMap_congr fun parent _ => ?_) (List.flatMap_congr fun parent _ => ?_)
  · exact congrArg Prod.fst (of_draft_separate settings parent)
  · exact congrArg Prod.snd (of_draft_separate settings parent)

theorem mem_results (parent made : Draft) :
    .ok made ∈ results settings parent ↔ made ∈ (ofDraft settings parent).drafts := by
  have drafts : (separate (results settings parent)).1 = (ofDraft settings parent).drafts :=
    congrArg Prod.fst (of_draft_separate settings parent)
  rw [← drafts, separate, List.mem_filterMap]
  constructor
  · intro member
    exact ⟨_, member, rfl⟩
  · intro found
    obtain ⟨result, member, made⟩ := found
    cases result with
    | error message => cases made
    | ok other => rwa [← Option.some.inj made]

theorem mem_of_draft (parent made : Draft) (member : made ∈ (ofDraft settings parent).drafts) :
    parent.actionKind = .table ∧ ∃ spec ∈ parent.specs, ∃ query,
      made = Synthesis.made parent (parent.toAction settings).canonicalTarget spec query := by
  obtain ⟨spec, known, answered⟩ := List.mem_map.mp ((mem_results settings parent made).mpr member)
  obtain ⟨query, _, rfl⟩ := answer_ok _ _ _ spec made answered
  exact ⟨parent.specs_table spec known, spec, known, query, rfl⟩

theorem mem_of_draft_errors (parent : Draft) (message : FileMessage)
    (member : message ∈ (ofDraft settings parent).errors) : message.path = parent.fileName := by
  have errors : (separate (results settings parent)).2 = (ofDraft settings parent).errors :=
    congrArg Prod.snd (of_draft_separate settings parent)
  rw [← errors, results, Compile.separate_refused] at member
  obtain ⟨spec, _, refused⟩ := List.mem_flatMap.mp member
  exact answer_error _ _ _ spec message ((Compile.mem_refused _ spec message).mp refused)

theorem results_apart (parent : Draft) :
    (((results settings parent).filterMap Except.toOption).map
      fun made => made.identity.name).Nodup := by
  have apart := AssertionSpecs.numbered_apart [] parent.declared
  rw [← parent.specs_numbered] at apart
  rw [results, List.filterMap_map, List.Nodup, List.pairwise_map, List.pairwise_filterMap]
  refine apart.imp fun {a b} differ made madeOf other otherOf same => ?_
  obtain ⟨_, _, rfl⟩ := answer_ok _ _ _ a made (to_option_some _ _ madeOf)
  obtain ⟨_, _, rfl⟩ := answer_ok _ _ _ b other (to_option_some _ _ otherOf)
  obtain ⟨kind, index⟩ := Spec.assertion_name_inj _ a b same
  exact differ kind index

theorem made_unique (parent a b : Draft) (memberA : a ∈ (ofDraft settings parent).drafts)
    (memberB : b ∈ (ofDraft settings parent).drafts) (name : a.identity.name = b.identity.name) :
    a = b := by
  have apart := results_apart settings parent
  have drafts : (results settings parent).filterMap Except.toOption =
      (ofDraft settings parent).drafts := congrArg Prod.fst (of_draft_separate settings parent)
  rw [drafts] at apart
  exact List.inj_on_of_nodup_map apart memberA memberB name

end Synthesis

end SqlWorkflow
