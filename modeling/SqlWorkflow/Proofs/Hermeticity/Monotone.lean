import SqlWorkflow.Proofs.Hermeticity
import SqlWorkflow.Proofs.Text.SameLetters

namespace SqlWorkflow

theorem Sql.Reads.mem_external (reads : Sql.Reads) (relation : List String) :
    relation ∈ reads.external ↔
      relation ∈ reads.relations.toList ∧ ∀ cte ∈ reads.ctes.toList, relation ≠ [cte] := by
  rw [external, List.mem_filter]
  refine and_congr_right fun _ => ?_
  cases relation with
  | nil => simp
  | cons first rest =>
      cases rest with
      | nil => simp [SortedSet.contains, List.forall_mem_ne]
      | cons second rest => simp

namespace Target

def SameLetters (a b : Target) : Prop :=
  List.Forall₂ Text.SameLetters a.parts b.parts

end Target

namespace Hermeticity

variable (warehouse : Warehouse)

def ReadsOthers (referenced : List Target) (sql : String) : Prop :=
  ∃ script, Sql.Script.ofText warehouse sql = .ok script ∧
    ∃ relation ∈ script.reads.relations.toList,
      (∀ cte ∈ script.reads.ctes.toList, relation ≠ [cte]) ∧
        ∀ target ∈ referenced, ¬ relation <:+ lowerParts target

theorem addresses_suffix (relation : List String) (named : relation ≠ []) (target : Target) :
    addresses relation target = true ↔ relation <:+ lowerParts target := by
  simp [addresses, named, List.isSuffixOf_iff_suffix]

theorem non_hermetic_iff (hermeticity : Hermeticity) :
    hermeticity = .nonHermetic ↔ hermeticity ≠ .hermetic := by
  cases hermeticity <;> simp

theorem infer_non_hermetic_iff (statements : List String) (referenced : List Target) :
    infer warehouse statements referenced = .nonHermetic ↔
      ∃ sql ∈ statements, ReadsOthers warehouse referenced sql := by
  rw [non_hermetic_iff, ne_eq, infer_hermetic_iff]
  constructor
  · intro uncovered
    simp only [not_forall] at uncovered
    obtain ⟨sql, member, script, parsed, relation, external, unknown⟩ := uncovered
    obtain ⟨read, foreign⟩ := (script.reads.mem_external relation).mp external
    refine ⟨sql, member, script, parsed, relation, read, foreign, fun target known suffix => ?_⟩
    have named := script.reads.named relation read
    exact unknown ⟨target, known, (addresses_suffix relation named target).mpr suffix⟩
  · intro ⟨sql, member, script, parsed, relation, read, foreign, unknown⟩ covered
    have external := (script.reads.mem_external relation).mpr ⟨read, foreign⟩
    obtain ⟨target, known, addressed⟩ := covered sql member script parsed relation external
    have named := script.reads.named relation read
    exact unknown target known ((addresses_suffix relation named target).mp addressed)

theorem infer_congr (statements others : List String) (referenced known : List Target)
    (same : (∃ sql ∈ statements, ReadsOthers warehouse referenced sql) ↔
      ∃ sql ∈ others, ReadsOthers warehouse known sql) :
    infer warehouse statements referenced = infer warehouse others known := by
  rw [← infer_non_hermetic_iff, ← infer_non_hermetic_iff] at same
  by_cases reads : infer warehouse statements referenced = .nonHermetic
  · rw [reads, same.mp reads]
  · have none := mt same.mpr reads
    rw [non_hermetic_iff, ne_eq, not_not] at reads none
    rw [reads, none]

theorem lower_parts_same (a b : Target) (same : a.SameLetters b) : lowerParts a = lowerParts b := by
  rw [lowerParts, lowerParts]
  unfold Target.SameLetters at same
  generalize a.parts = left at same
  generalize b.parts = right at same
  induction same with
  | nil => rfl
  | cons first _ ih => rw [List.map_cons, List.map_cons, Text.lower_same_letters _ _ first, ih]

theorem ReadsOthers.fewer {referenced known : List Target} {sql : String}
    (fewer : ∀ target ∈ known, ∃ other ∈ referenced, lowerParts target = lowerParts other)
    (reads : ReadsOthers warehouse referenced sql) : ReadsOthers warehouse known sql := by
  obtain ⟨script, parsed, relation, read, foreign, unknown⟩ := reads
  refine ⟨script, parsed, relation, read, foreign, fun target member => ?_⟩
  obtain ⟨other, listed, same⟩ := fewer target member
  rw [same]
  exact unknown other listed

-- Of the statements only the set of those that can be read matters, so neither their order nor how
-- often one is there; and of the references only their names in lower case.
theorem infer_monotone (statements : List String) (referenced : List Target) :
    (∀ others, (∀ sql script, Sql.Script.ofText warehouse sql = .ok script →
        (sql ∈ others ↔ sql ∈ statements)) →
      infer warehouse others referenced = infer warehouse statements referenced) ∧
    (∀ others, (∀ target ∈ referenced, ∃ other ∈ others, target.SameLetters other) →
        (∀ other ∈ others, ∃ target ∈ referenced, target.SameLetters other) →
      infer warehouse statements others = infer warehouse statements referenced) ∧
    (∀ more, referenced ⊆ more → infer warehouse statements referenced = .hermetic →
      infer warehouse statements more = .hermetic) ∧
    (∀ more, statements ⊆ more → infer warehouse statements referenced = .nonHermetic →
      infer warehouse more referenced = .nonHermetic) ∧
    (infer warehouse statements referenced = .nonHermetic ↔
      ∃ sql ∈ statements, ∃ script, Sql.Script.ofText warehouse sql = .ok script ∧
        ∃ relation ∈ script.reads.relations.toList,
          (∀ cte ∈ script.reads.ctes.toList, relation ≠ [cte]) ∧
            ∀ target ∈ referenced, ¬ relation <:+ lowerParts target) := by
  refine ⟨?_, ?_, ?_, ?_, infer_non_hermetic_iff warehouse statements referenced⟩
  · intro others same
    apply infer_congr
    refine exists_congr fun sql => and_congr_left fun reads => ?_
    obtain ⟨script, parsed, _⟩ := reads
    exact same sql script parsed
  · intro others there back
    apply infer_congr
    refine exists_congr fun sql => and_congr_right fun _ => ⟨?_, ?_⟩
    · refine ReadsOthers.fewer warehouse fun target known => ?_
      obtain ⟨other, listed, same⟩ := there target known
      exact ⟨other, listed, lower_parts_same target other same⟩
    · refine ReadsOthers.fewer warehouse fun other listed => ?_
      obtain ⟨target, known, same⟩ := back other listed
      exact ⟨target, known, (lower_parts_same target other same).symm⟩
  · intro more wider hermetic
    by_contra other
    rw [← ne_eq, ← non_hermetic_iff, infer_non_hermetic_iff] at other
    obtain ⟨sql, member, reads⟩ := other
    have less : ReadsOthers warehouse referenced sql :=
      reads.fewer warehouse fun target known => ⟨target, wider known, rfl⟩
    have before := (infer_non_hermetic_iff warehouse statements referenced).mpr ⟨sql, member, less⟩
    exact (non_hermetic_iff _).mp before hermetic
  · intro more wider non
    rw [infer_non_hermetic_iff] at non ⊢
    obtain ⟨sql, member, reads⟩ := non
    exact ⟨sql, wider member, reads⟩

-- A common table expression is known in its own statement only.
example : infer .postgres ["with base as (select 1 as id) select * from base"] [] = .hermetic ∧
    infer .postgres
      ["with base as (select 1 as id) select * from base", "select * from base"] [] =
        .nonHermetic := by
  decide +kernel

end Hermeticity

end SqlWorkflow
