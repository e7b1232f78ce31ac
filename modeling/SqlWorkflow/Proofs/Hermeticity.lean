import SqlWorkflow.Hermeticity
import SqlWorkflow.Proofs.Quoting

namespace SqlWorkflow

namespace Text

theorem of_nat_dot (n : Nat) (same : Char.ofNat n = '.') : n = 46 := by
  by_cases valid : n.isValidChar
  · rw [Char.ofNat, dif_pos valid] at same
    exact congrArg Char.toNat same
  · rw [Char.ofNat, dif_neg valid] at same
    cases congrArg Char.toNat same

theorem move_ne_dot (run : CaseRun) (known : run ∈ lowerRuns) (n : Nat) (start : run.first ≤ n) :
    run.move n ≠ '.' := by
  have beyond : ∀ run ∈ lowerRuns, (46 : Int) < run.first + run.shift := by decide +kernel
  have above := beyond run known
  intro same
  have code := of_nat_dot _ same
  omega

theorem map_case_dot (c : Char) (member : '.' ∈ mapCase lowerRuns lowerSequences c) : c = '.' := by
  unfold mapCase at member
  cases sequences : lowerSequences.lookup c.toNat with
  | some codes =>
      have plain : ∀ entry ∈ lowerSequences, '.' ∉ entry.2.map Char.ofNat := by decide
      rw [sequences] at member
      obtain ⟨before, after, entries, _⟩ := List.lookup_eq_some_iff.mp sequences
      exact absurd member (plain (c.toNat, codes) (by simp [entries]))
  | none =>
      rw [sequences] at member
      dsimp only at member
      cases found : lowerRuns.find? (·.covers c.toNat) with
      | some run =>
          rw [found] at member
          have covers := List.find?_some found
          simp only [CaseRun.covers, Bool.and_eq_true, decide_eq_true_eq] at covers
          exact absurd (List.mem_singleton.mp member).symm
            (move_ne_dot run (List.mem_of_find?_eq_some found) c.toNat covers.1.1)
      | none =>
          rw [found] at member
          exact (List.mem_singleton.mp member).symm

theorem lower_char_dot (c : Char) : '.' ∈ lowerChar c ↔ c = '.' := by
  constructor
  · intro member
    unfold lowerChar at member
    by_cases ascii : c.toNat < 0x80
    · rw [if_pos ascii] at member
      have plain : ∀ n < 0x80, '.' = (Char.ofNat n).toLower → Char.ofNat n = '.' := by decide
      have same := plain c.toNat ascii
      rw [Char.ofNat_toNat] at same
      exact same (List.mem_singleton.mp member)
    · rw [if_neg ascii] at member
      exact map_case_dot c member
  · rintro rfl
    decide

theorem lower_from_dot (before text : List Char) : '.' ∈ lowerFrom before text ↔ '.' ∈ text := by
  induction text generalizing before with
  | nil => rfl
  | cons c text ih =>
      rw [lowerFrom, List.mem_append, ih, List.mem_cons, eq_comm (b := c)]
      refine or_congr_left ?_
      split
      · rename_i sigma
        simp only [Bool.and_eq_true, beq_iff_eq] at sigma
        rw [sigma.1.1]
        decide
      · exact lower_char_dot c

theorem lower_dot (text : String) : '.' ∈ (lower text).toList ↔ '.' ∈ text.toList := by
  rw [lower, String.toList_ofList, lower_from_dot]

end Text

open Sql.Parser (pathParts)

theorem path_parts_split (text : String) : pathParts (Text.split '.' text) = pathParts [text] := by
  rw [pathParts, pathParts, Text.split_split, List.flatMap_singleton]

theorem path_parts_plain (parts : List String) (plain : ∀ part ∈ parts, '.' ∉ part.toList) :
    pathParts parts = parts.map Text.lower := by
  have each (part : String) (member : part ∈ parts) : Text.split '.' part = [part] :=
    Text.split_plain '.' part (plain part member)
  rw [pathParts, List.flatMap_congr each, List.flatMap_singleton']

theorem path_parts_dot (parts : List String) (piece : String) (member : piece ∈ pathParts parts) :
    '.' ∉ piece.toList := by
  obtain ⟨text, found, rfl⟩ := List.mem_map.mp member
  obtain ⟨part, _, cut⟩ := List.mem_flatMap.mp found
  rw [Text.lower_dot]
  exact Text.split_pieces '.' part text cut

theorem path_parts_length (parts : List String) : parts.length ≤ (pathParts parts).length := by
  rw [pathParts, List.length_map]
  induction parts with
  | nil => exact Nat.le_refl 0
  | cons part parts ih =>
      have some : 0 < (Text.split '.' part).length := by
        rw [Text.split, List.length_map]
        exact List.length_pos_iff.mpr (Text.split_on_ne_nil '.' _)
      rw [List.flatMap_cons, List.length_append, List.length_cons]
      omega

namespace Warehouse

def writtenParts (warehouse : Warehouse) (target : Target) : List String :=
  match warehouse with
  | postgres => [target.schema, target.name]
  | _ => target.parts

-- The identifiers under which a written target is read. The path that BigQuery has in quotes is one
-- identifier, or is cut at its dots already.
inductive ReadAs : Warehouse → Target → List String → Prop where
  | path (target : Target) : ReadAs bigQuery target [target.display]
  | pieces (target : Target) : ReadAs bigQuery target (Text.split '.' target.display)
  | parts (target : Target) : ReadAs snowflake target target.parts
  | withoutDatabase (target : Target) : ReadAs postgres target [target.schema, target.name]

theorem read_as_path_parts (warehouse : Warehouse) (target : Target) (identifiers : List String)
    (reads : ReadAs warehouse target identifiers) :
    pathParts identifiers = pathParts (warehouse.writtenParts target) := by
  have whole : pathParts [target.display] = pathParts target.parts := by
    rw [pathParts, List.flatMap_singleton, Target.display,
      Text.split_join '.' "." rfl _ (by simp [Target.parts])]
    rfl
  cases reads with
  | path => exact whole
  | pieces => exact (path_parts_split target.display).trans whole
  | parts => rfl
  | withoutDatabase => rfl

theorem written_parts_suffix (warehouse : Warehouse) (target : Target) :
    warehouse.writtenParts target <:+ target.parts := by
  cases warehouse with
  | postgres => exact ⟨target.database.toList, rfl⟩
  | _ => exact List.suffix_rfl

end Warehouse

namespace Hermeticity

def Covers (warehouse : Warehouse) (target read : Target) : Prop :=
  pathParts (warehouse.writtenParts read) <:+ lowerParts target

theorem addresses_iff (warehouse : Warehouse) (target read : Target) :
    addresses (pathParts (warehouse.writtenParts read)) target = true ↔
      Covers warehouse target read := by
  have some : pathParts (warehouse.writtenParts read) ≠ [] := by
    refine List.length_pos_iff.mp (Nat.lt_of_lt_of_le ?_ (path_parts_length _))
    cases warehouse <;> simp [Warehouse.writtenParts, Target.parts]
  simp [addresses, some, Covers, List.isSuffixOf_iff_suffix]

-- The pieces that are read have no dots and are at least as many as the parts that are written, so
-- they can only be the last parts of the name if these have no dots either.
theorem covers_self_iff (warehouse : Warehouse) (target : Target) :
    Covers warehouse target target ↔
      ∀ part ∈ warehouse.writtenParts target, '.' ∉ part.toList := by
  have written : (warehouse.writtenParts target).map Text.lower <:+ lowerParts target :=
    (warehouse.written_parts_suffix target).map Text.lower
  constructor
  · intro covers part member
    have within : (warehouse.writtenParts target).map Text.lower <:+
        pathParts (warehouse.writtenParts target) := by
      refine List.suffix_of_suffix_length_le written covers ?_
      rw [List.length_map]
      exact path_parts_length _
    have plain := path_parts_dot _ _ (within.subset (List.mem_map_of_mem member))
    rwa [Text.lower_dot] at plain
  · intro plain
    rw [Covers, path_parts_plain _ plain]
    exact written

def ReadsWritten (warehouse : Warehouse) (referenced : List Target) (statements : List String) :
    Prop :=
  ∀ sql ∈ statements, ∀ script, Sql.Script.ofText warehouse sql = .ok script →
    ∀ relation ∈ script.reads.external, ∃ target ∈ referenced, ∃ identifiers,
      warehouse.ReadAs target identifiers ∧ relation = pathParts identifiers

def ReadBy (warehouse : Warehouse) (statements : List String) (target : Target) : Prop :=
  ∃ sql ∈ statements, ∃ script, Sql.Script.ofText warehouse sql = .ok script ∧
    pathParts (warehouse.writtenParts target) ∈ script.reads.external

theorem infer_hermetic_iff (warehouse : Warehouse) (statements : List String)
    (referenced : List Target) :
    infer warehouse statements referenced = .hermetic ↔
      ∀ sql ∈ statements, ∀ script, Sql.Script.ofText warehouse sql = .ok script →
        ∀ relation ∈ script.reads.external,
          ∃ target ∈ referenced, addresses relation target = true := by
  have others (sql : String) : readsOthers warehouse referenced sql = false ↔
      ∀ script, Sql.Script.ofText warehouse sql = .ok script →
        ∀ relation ∈ script.reads.external,
          ∃ target ∈ referenced, addresses relation target = true := by
    unfold readsOthers
    cases Sql.Script.ofText warehouse sql with
    | error cause => simp
    | ok script => simp [List.any_eq_false]
  simp only [← others, infer]
  by_cases read : statements.any (readsOthers warehouse referenced) = true
  · rw [if_pos read]
    obtain ⟨sql, member, other⟩ := List.any_eq_true.mp read
    exact iff_of_false Hermeticity.noConfusion fun none => by simp [none sql member] at other
  · rw [if_neg read]
    exact iff_of_true rfl (by simpa using read)

theorem infer_written (warehouse : Warehouse) (referenced : List Target) (statements : List String)
    (written : ReadsWritten warehouse referenced statements) :
    (infer warehouse statements referenced = .hermetic ↔
      ∀ read ∈ referenced, ReadBy warehouse statements read →
        ∃ target ∈ referenced, Covers warehouse target read) ∧
    (∀ target, Covers warehouse target target ↔
      ∀ part ∈ warehouse.writtenParts target, '.' ∉ part.toList) ∧
    ((∀ read ∈ referenced, ReadBy warehouse statements read →
      ∀ part ∈ warehouse.writtenParts read, '.' ∉ part.toList) →
        infer warehouse statements referenced = .hermetic) := by
  have exactly : infer warehouse statements referenced = .hermetic ↔
      ∀ read ∈ referenced, ReadBy warehouse statements read →
        ∃ target ∈ referenced, Covers warehouse target read := by
    rw [infer_hermetic_iff]
    constructor
    · rintro covered read _ ⟨sql, member, script, parsed, relation⟩
      obtain ⟨target, known, addressed⟩ := covered sql member script parsed _ relation
      exact ⟨target, known, (addresses_iff warehouse target read).mp addressed⟩
    · intro covered sql member script parsed relation external
      obtain ⟨read, known, identifiers, reads, rfl⟩ :=
        written sql member script parsed relation external
      rw [warehouse.read_as_path_parts read identifiers reads] at external ⊢
      obtain ⟨target, here, covers⟩ :=
        covered read known ⟨sql, member, script, parsed, external⟩
      exact ⟨target, here, (addresses_iff warehouse target read).mpr covers⟩
  refine ⟨exactly, covers_self_iff warehouse, fun plain => exactly.mpr fun read known reads => ?_⟩
  exact ⟨read, known, (covers_self_iff warehouse read).mpr (plain read known reads)⟩

theorem reads_written_single (warehouse : Warehouse) (target : Target) (sql : String)
    (identifiers : List String) (reads : warehouse.ReadAs target identifiers)
    (external : (Sql.Script.ofText warehouse sql).toOption.map (·.reads.external) =
      some [pathParts identifiers]) : ReadsWritten warehouse [target] [sql] := by
  intro text member script parsed relation read
  obtain rfl := List.mem_singleton.mp member
  have alone : script.reads.external = [pathParts identifiers] := by
    rw [parsed] at external
    exact Option.some.inj external
  rw [alone] at read
  exact ⟨target, List.mem_singleton_self target, identifiers, reads, List.mem_singleton.mp read⟩

def ordersV1 : Target := ⟨none, "dataform", "orders.v1"⟩

theorem dotted_name_not_hermetic :
    ReadsWritten .bigQuery [ordersV1] ["select * from " ++ Warehouse.bigQuery.quote ordersV1] ∧
    infer .bigQuery ["select * from " ++ Warehouse.bigQuery.quote ordersV1] [ordersV1] =
      .nonHermetic :=
  ⟨reads_written_single .bigQuery ordersV1 _ _ (.path ordersV1) (by decide +kernel),
    by decide +kernel⟩

theorem infer_written_orders :
    ReadsWritten .postgres [⟨some "lake", "dataform", "Orders"⟩]
      ["select * from " ++ Warehouse.postgres.quote ⟨some "lake", "dataform", "Orders"⟩] ∧
    infer .postgres
      ["select * from " ++ Warehouse.postgres.quote ⟨some "lake", "dataform", "Orders"⟩]
      [⟨some "lake", "dataform", "Orders"⟩] = .hermetic := by
  have written := reads_written_single .postgres ⟨some "lake", "dataform", "Orders"⟩
    ("select * from " ++ Warehouse.postgres.quote ⟨some "lake", "dataform", "Orders"⟩) _
    (.withoutDatabase _) (by decide +kernel)
  refine ⟨written, (infer_written _ _ _ written).2.2 fun read known _ => ?_⟩
  obtain rfl := List.mem_singleton.mp known
  decide

end Hermeticity

end SqlWorkflow
