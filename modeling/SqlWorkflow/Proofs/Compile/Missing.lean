import SqlWorkflow.Proofs.Compile.Dependencies
import SqlWorkflow.Proofs.Graph.Attribution
import SqlWorkflow.Proofs.NameTable

namespace SqlWorkflow

namespace NameTable

-- The parts that a reference leaves out are filled in, and the others decide.
theorem placeholder_matches (settings : Settings) (reference : Reference) :
    (placeholder settings reference).matchesParts reference.parts = true := by
  cases reference <;>
    simp [placeholder, Target.matchesParts, Reference.parts, Reference.lastName,
      Reference.schema?, Reference.database?]

theorem resolve_missing (names : NameTable) (reference : Reference) (canonical runtime : Target)
    (missing : names.resolve reference = .missing canonical runtime) :
    names.matching reference = [] ∧ canonical = placeholder names.settings reference := by
  unfold resolve at missing
  split at missing
  · cases missing
  · rename_i none
    obtain ⟨rfl, _⟩ := Resolution.missing.inj missing
    exact ⟨none, rfl⟩
  · cases missing

theorem missing_not_declared (settings : Settings) (declared : List (ActionKind × Target))
    (reference : Reference) (canonical runtime : Target)
    (missing : (ofList settings declared).resolve reference = .missing canonical runtime) :
    canonical ∉ declared.map Prod.snd := by
  obtain ⟨none, rfl⟩ := resolve_missing _ reference canonical runtime missing
  intro known
  obtain ⟨⟨target, kind⟩, entry, here⟩ :=
    List.mem_map.mp ((mem_keys settings declared _).mpr known)
  have named : (target, kind) ∈ (ofList settings declared).matching reference := by
    refine List.mem_filter.mpr ⟨entry, ?_⟩
    rw [show target = _ from here]
    exact placeholder_matches _ reference
  rw [none] at named
  cases named

end NameTable

namespace Definition

inductive RefersTo (names : NameTable) (definition : Definition) (reference : Reference) :
    Prop where
  | listed {options : ActionOptions} {dotted : String}
      (config : definition.config.options? = some options) (member : dotted ∈ options.dependencies)
      (spelled : Reference.parse? dotted = some reference)
  | called {traces : List (List Template.Call)} {calls : List Template.Call} {call : Template.Call}
      (evaluates : definition.Evaluates names traces) (made : calls ∈ traces)
      (member : call ∈ calls) (ref : call.name = "ref")
      (spelled : call.reference? = some reference)

theorem stands_for_missing (names : NameTable) (dotted : String) (reference : Reference)
    (spelled : Reference.parse? dotted = some reference) (canonical runtime : Target)
    (missing : names.resolve reference = .missing canonical runtime) (target : Target)
    (stands : names.StandsFor dotted target) : target = canonical := by
  obtain ⟨other, runtime', spelledToo, resolved⟩ := stands
  obtain rfl := Option.some.inj (spelledToo.symm.trans spelled)
  rw [missing] at resolved
  rcases resolved with found | same
  · cases found
  · exact (Resolution.missing.inj same).1.symm

theorem refers_to_dependency (names : NameTable) (definition : Definition) (draft : Draft)
    (drafted : definition.draft names = .ok draft) (reference : Reference)
    (refers : definition.RefersTo names reference) (canonical runtime : Target)
    (missing : names.resolve reference = .missing canonical runtime) :
    canonical ∈ draft.dependencies := by
  obtain ⟨declared, stands, ⟨traces, evaluates⟩, exactly⟩ :=
    draft_dependencies names definition draft drafted
  cases refers with
  | @listed options dotted config member spelled =>
      obtain ⟨referenced, dependencies, _, _⟩ := exactly traces evaluates
      rw [config, Option.map_some, Option.getD_some] at stands
      obtain ⟨i, inside, rfl⟩ := List.getElem_of_mem member
      have stood := stands.get inside (stands.length_eq ▸ inside)
      have same := stands_for_missing names _ reference spelled canonical runtime missing _ stood
      rw [dependencies, ← same]
      exact List.mem_append_left _ (List.getElem_mem _)
  | @called traces calls call evaluates made member ref spelled =>
      obtain ⟨referenced, dependencies, _, members⟩ := exactly traces evaluates
      have names : call.dependency? names = some canonical := by
        rw [Template.Call.dependency?, if_pos ref, Template.Call.targets?, spelled,
          Option.bind_some, NameTable.targets, missing]
        rfl
      rw [dependencies]
      exact List.mem_append_right _ ((members canonical).mpr ⟨calls, made, call, member, names⟩)

end Definition

namespace Compile

def AssertionMade (settings : Settings) (drafts : List Draft) (target : Target) : Prop :=
  ∃ parent ∈ drafts, ∃ made ∈ (Synthesis.ofDraft settings parent).drafts,
    settings.canonicalTarget made.actionKind made.identity = target

section Files

variable (settings : Settings) (files : List SourceFile)

def namesOf : NameTable :=
  .ofList settings (declared settings files)

theorem declared_targets : (declared settings files).map Prod.snd =
    (parsed files).map (Definition.canonicalTarget settings) := by
  rw [declared, List.map_map]
  rfl

-- Every action comes from a parsed definition or from an assertion made for a table.
theorem compiled_target (action : Action)
    (member : action ∈ (compileFiles settings files).actions) :
    action.canonicalTarget ∈ (declared settings files).map Prod.snd ∨
      AssertionMade settings (drafted (namesOf settings files) (parsed files))
        action.canonicalTarget := by
  obtain ⟨own, known, rfl⟩ := (Graph.mem_built _ _ _ _ _).mp member
  obtain ⟨draft, among, rfl⟩ := List.mem_map.mp known
  rw [Graph.settle_canonical, Graph.to_action_canonical]
  rcases List.mem_append.mp among with own | made
  · left
    rw [drafted, separate_accepted] at own
    obtain ⟨definition, parsed, accepted⟩ := List.mem_flatMap.mp own
    have rendered := (mem_accepted _ definition draft).mp accepted
    rw [Definition.draft_canonical _ definition draft rendered, declared_targets]
    exact List.mem_map_of_mem parsed
  · right
    rw [Synthesis.of_drafts_drafts] at made
    obtain ⟨parent, drafted, made⟩ := List.mem_flatMap.mp made
    exact ⟨parent, drafted, draft, made, rfl⟩

theorem undeclared_dependency_reported (definition : Definition)
    (known : definition ∈ parsed files) (draft : Draft)
    (rendered : definition.draft (namesOf settings files) = .ok draft) (canonical : Target)
    (depends : canonical ∈ draft.dependencies)
    (undeclared : canonical ∉ (declared settings files).map Prod.snd)
    (unmade : ¬ AssertionMade settings (drafted (namesOf settings files) (parsed files))
      canonical) :
    (compileFiles settings files).Reports definition.path
      (Error.unresolvedDependency (definition.canonicalTarget settings) canonical).message := by
  have member : draft ∈ withAssertions settings
      (drafted (namesOf settings files) (parsed files)) := by
    refine List.mem_append_left _ ?_
    rw [drafted, separate_accepted]
    exact List.mem_flatMap.mpr ⟨definition, known, (mem_accepted _ _ _).mpr rendered⟩
  obtain ⟨action, built, file, target, _, lists⟩ := Graph.built_lists settings _
    (unread files ++ unrendered (namesOf settings files) (parsed files) ++
      (Synthesis.ofDrafts settings (drafted (namesOf settings files) (parsed files))).errors)
    ((parsed files).flatMap Definition.notes) draft member
    (Definition.declaration_draft_dependencies _ definition draft rendered)
  rw [draft_file _ definition draft rendered] at file
  rw [Definition.draft_canonical _ definition draft rendered] at target
  rw [← target]
  refine (Graph.build_reports_iff _ _ _ _ _ _).mpr (.unresolved built file ?_ ?_)
  · exact (lists canonical).mpr depends
  · rintro other among rfl
    exact (compiled_target settings files other among).elim undeclared unmade

theorem missing_reference_reported (reference : Reference) (canonical runtime : Target)
    (missing : (namesOf settings files).resolve reference = .missing canonical runtime) :
    (∀ definition ∈ parsed files, definition.canonicalTarget settings ≠ canonical) ∧
    ∀ definition ∈ parsed files, ∀ draft,
      definition.draft (namesOf settings files) = .ok draft →
      definition.RefersTo (namesOf settings files) reference →
      (compileFiles settings files).Reports definition.path
          (Error.unresolvedDependency (definition.canonicalTarget settings) canonical).message ∨
        AssertionMade settings (drafted (namesOf settings files) (parsed files)) canonical := by
  have undeclared := NameTable.missing_not_declared settings _ reference canonical runtime missing
  constructor
  · rintro definition known rfl
    rw [declared_targets] at undeclared
    exact undeclared (List.mem_map_of_mem known)
  · intro definition known draft rendered refers
    have depends := Definition.refers_to_dependency _ definition draft rendered reference refers
      canonical runtime missing
    by_cases made :
        AssertionMade settings (drafted (namesOf settings files) (parsed files)) canonical
    · exact Or.inr made
    · exact Or.inl (undeclared_dependency_reported settings files definition known draft rendered
        canonical depends undeclared made)

end Files

def reportFile : SourceFile where
  path := "report.sqlx"
  text := .ok "config \x7b type: \"operations\", dependencies: [\"orders\"] \x7d\nselect 1"

def report : Definition where
  path := "report.sqlx"
  config := .operation { dependencies := ["orders"] } false
  body := "select 1"

def reportDraft : Draft where
  fileName := "report.sqlx"
  identity := { name := "report" }
  dependencies := [⟨none, "dataform", "orders"⟩]
  kind := .operation ["select 1"] false

theorem missing_orders_reported :
    (namesOf {} [reportFile]).resolve (.name "orders") =
      .missing ⟨none, "dataform", "orders"⟩ ⟨none, "dataform", "orders"⟩ ∧
    (compileFiles {} [reportFile]).Reports "report.sqlx" (Error.unresolvedDependency
      ⟨none, "dataform", "report"⟩ ⟨none, "dataform", "orders"⟩).message := by
  have read : parsed [reportFile] = [report] := by decide +kernel
  have names : namesOf {} [reportFile] =
      .ofList {} [(.operation, ⟨none, "dataform", "report"⟩)] := by
    rw [namesOf, declared, read]
    rfl
  have missing : (namesOf {} [reportFile]).resolve (.name "orders") =
      .missing ⟨none, "dataform", "orders"⟩ ⟨none, "dataform", "orders"⟩ := by
    rw [names]
    decide +kernel
  have rendered : report.draft (namesOf {} [reportFile]) = .ok reportDraft := by
    rw [names]
    decide +kernel
  have drafts : drafted (namesOf {} [reportFile]) (parsed [reportFile]) = [reportDraft] := by
    rw [read, drafted, List.map_singleton, rendered]
    rfl
  have known : report ∈ parsed [reportFile] := by
    rw [read]
    exact List.mem_singleton_self report
  have refers : report.RefersTo (namesOf {} [reportFile]) (.name "orders") :=
    .listed rfl List.mem_cons_self (by decide)
  refine ⟨missing, ?_⟩
  rcases (missing_reference_reported {} [reportFile] _ _ _ missing).2 report known reportDraft
    rendered refers with reported | ⟨parent, drafted, made, inside, _⟩
  · exact reported
  · rw [drafts] at drafted
    obtain rfl := List.mem_singleton.mp drafted
    cases inside

end Compile

end SqlWorkflow
