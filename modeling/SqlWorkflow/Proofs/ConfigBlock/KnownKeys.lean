import SqlWorkflow.Proofs.ConfigBlock.Entries
import SqlWorkflow.Proofs.Document.Record

namespace SqlWorkflow

open Document (Changes Independent takeFields)

inductive ActionOptions.Makes : String → (ActionOptions → ActionOptions) → Prop where
  | name (value : Option String) : Makes "name" ({ · with name := value })
  | schema (value : Option String) : Makes "schema" ({ · with schema := value })
  | database (value : Option String) : Makes "database" ({ · with database := value })
  | tags (value : List String) : Makes "tags" ({ · with tags := value })
  | dependencies (value : List String) : Makes "dependencies" ({ · with dependencies := value })
  | disabled (value : Bool) : Makes "disabled" ({ · with disabled := value })
  | description (value : Option String) : Makes "description" ({ · with description := value })
  | hermetic (value : Option Bool) : Makes "hermetic" ({ · with hermetic := value })

inductive DeclarationOptions.Makes : String → (DeclarationOptions → DeclarationOptions) → Prop where
  | name (value : Option String) : Makes "name" ({ · with name := value })
  | schema (value : Option String) : Makes "schema" ({ · with schema := value })
  | database (value : Option String) : Makes "database" ({ · with database := value })
  | description (value : Option String) : Makes "description" ({ · with description := value })

theorem field_reads {α β : Type} {intake : Document.Intake α} {makes : String → (α → α) → Prop}
    {name : String} {value : Document} {content : Reading β} {put : β → α → α} {record result : α}
    (makesEach : ∀ item, makes name (put item))
    (field : ∀ record, intake name value record = some (content.map (put · record)))
    (read : intake name value record = some (.ok result)) :
    ∃ change, makes name change ∧ Changes intake name value change ∧ result = change record := by
  rw [field] at read
  obtain ⟨item, good, same⟩ := (except_map_ok_iff _ _ _).mp (Option.some.inj read)
  refine ⟨put item, makesEach item, fun other => ?_, same.symm⟩
  rw [field, good]
  rfl

theorem ActionOptions.independent : Independent ActionOptions.intake ActionOptions.Makes where
  reads := by
    intro name value record result read
    unfold intake at read
    split at read
    · exact field_reads .name (fun _ => rfl) read
    · exact field_reads .schema (fun _ => rfl) read
    · exact field_reads .database (fun _ => rfl) read
    · exact field_reads .tags (fun _ => rfl) read
    · exact field_reads .dependencies (fun _ => rfl) read
    · exact field_reads .disabled (fun _ => rfl) read
    · exact field_reads .description (fun _ => rfl) read
    · exact field_reads .hermetic (fun _ => rfl) read
    · cases read
  apart := by
    intro name other change change' different made made' record
    cases made <;> cases made' <;> first | rfl | exact absurd rfl different

theorem DeclarationOptions.independent :
    Independent DeclarationOptions.intake DeclarationOptions.Makes where
  reads := by
    intro name value record result read
    unfold intake at read
    split at read
    · exact field_reads .name (fun _ => rfl) read
    · exact field_reads .schema (fun _ => rfl) read
    · exact field_reads .database (fun _ => rfl) read
    · exact field_reads .description (fun _ => rfl) read
    · cases read
  apart := by
    intro name other change change' different made made' record
    cases made <;> cases made' <;> first | rfl | exact absurd rfl different

theorem shared_keys_subset (blockType : BlockType) (isAction : blockType ≠ .declaration) :
    BlockType.sharedKeys ⊆ blockType.knownKeys := by
  cases blockType with
  | table tableType => cases tableType <;> decide
  | assertion => decide
  | operations => decide
  | declaration => exact absurd rfl isAction

namespace ConfigBlock

def blockType : ConfigBlock → BlockType
  | table tableType .. => .table tableType
  | assertion _ => .assertion
  | operation .. => .operations
  | declaration _ => .declaration

-- The block that the entries make up, after what belongs to one type of block is taken out of them.
inductive Remaining (assertions : AssertionSpecs) (uniqueKey : List String) (hasOutput : Bool)
    (entries : Entries) : ConfigBlock → Prop where
  | table (tableType : TableType) (options : ActionOptions)
      (read : takeFields Document.textValue? ActionOptions.intake [] {} entries = .ok options) :
      Remaining assertions uniqueKey hasOutput entries (.table tableType options assertions uniqueKey)
  | assertion (options : ActionOptions)
      (read : takeFields Document.textValue? ActionOptions.intake [] {} entries = .ok options) :
      Remaining assertions uniqueKey hasOutput entries (.assertion options)
  | operation (options : ActionOptions)
      (read : takeFields Document.textValue? ActionOptions.intake [] {} entries = .ok options) :
      Remaining assertions uniqueKey hasOutput entries (.operation options hasOutput)
  | declaration (options : DeclarationOptions)
      (read : takeFields Document.textValue? DeclarationOptions.intake [] {} entries = .ok options) :
      Remaining assertions uniqueKey hasOutput entries (.declaration options)

inductive Special (entries : Entries) (config : ConfigBlock) : Prop where
  | intro (assertions : AssertionSpecs) (uniqueKey : List String) (hasOutput : Bool)
      (first second third : Entries)
      (readAssertions : readOut "assertions"
        (Document.recordValue AssertionSpecs.intake {}) {} entries = .ok (assertions, first))
      (readUniqueKey : readOut "uniqueKey" Document.textsValue [] first = .ok (uniqueKey, second))
      (readHasOutput : readOut "hasOutput" Document.flagValue false second = .ok (hasOutput, third))
      (remaining : Remaining assertions uniqueKey hasOutput third config)

theorem of_known_ok_iff (blockType : BlockType) (entries : Entries) (config : ConfigBlock) :
    ofKnown blockType entries = .ok config ↔
      config.blockType = blockType ∧ Special entries config := by
  unfold ofKnown
  constructor
  · intro known
    obtain ⟨⟨assertions, first⟩, readAssertions, known⟩ := (except_bind_ok_iff _ _ _).mp known
    obtain ⟨⟨uniqueKey, second⟩, readUniqueKey, known⟩ := (except_bind_ok_iff _ _ _).mp known
    obtain ⟨⟨hasOutput, third⟩, readHasOutput, known⟩ := (except_bind_ok_iff _ _ _).mp known
    suffices config.blockType = blockType ∧ Remaining assertions uniqueKey hasOutput third config from
      ⟨this.1, _, _, _, _, _, _, readAssertions, readUniqueKey, readHasOutput, this.2⟩
    cases blockType with
    | table tableType =>
        obtain ⟨options, read, same⟩ := (except_bind_ok_iff _ _ _).mp known
        cases same
        exact ⟨rfl, .table tableType options read⟩
    | assertion =>
        obtain ⟨options, read, same⟩ := (except_bind_ok_iff _ _ _).mp known
        cases same
        exact ⟨rfl, .assertion options read⟩
    | operations =>
        obtain ⟨options, read, same⟩ := (except_bind_ok_iff _ _ _).mp known
        cases same
        exact ⟨rfl, .operation options read⟩
    | declaration =>
        obtain ⟨options, read, same⟩ := (except_bind_ok_iff _ _ _).mp known
        cases same
        exact ⟨rfl, .declaration options read⟩
  · intro ⟨same, special⟩
    obtain ⟨_, _, _, _, _, _, readAssertions, readUniqueKey, readHasOutput, remaining⟩ := special
    subst same
    refine (except_bind_ok_iff _ _ _).mpr ⟨_, readAssertions, ?_⟩
    refine (except_bind_ok_iff _ _ _).mpr ⟨_, readUniqueKey, ?_⟩
    refine (except_bind_ok_iff _ _ _).mpr ⟨_, readHasOutput, ?_⟩
    cases remaining with
    | table _ _ read => exact (except_bind_ok_iff _ _ _).mpr ⟨_, read, rfl⟩
    | assertion _ read => exact (except_bind_ok_iff _ _ _).mpr ⟨_, read, rfl⟩
    | operation _ read => exact (except_bind_ok_iff _ _ _).mpr ⟨_, read, rfl⟩
    | declaration _ read => exact (except_bind_ok_iff _ _ _).mpr ⟨_, read, rfl⟩

variable (assertions : AssertionSpecs) (uniqueKey : List String) (hasOutput : Bool)

theorem Remaining.perm {entries others : Entries} {config : ConfigBlock}
    (remaining : Remaining assertions uniqueKey hasOutput entries config)
    (perm : entries.Perm others) : Remaining assertions uniqueKey hasOutput others config := by
  have options := Document.take_fields_perm Document.textValue? ActionOptions.independent perm
  have declared := Document.take_fields_perm Document.textValue? DeclarationOptions.independent perm
  cases remaining with
  | table tableType _ read => exact .table tableType _ (options _ _ _ read)
  | assertion _ read => exact .assertion _ (options _ _ _ read)
  | operation _ read => exact .operation _ (options _ _ _ read)
  | declaration _ read => exact .declaration _ (declared _ _ _ read)

theorem Remaining.known {entries : Entries} {config : ConfigBlock}
    (remaining : Remaining assertions uniqueKey hasOutput entries config)
    (entry : Document × Document) (member : entry ∈ entries) :
    ∃ name ∈ config.blockType.knownKeys, entry.1.textValue? = some name := by
  have options (result : ActionOptions)
      (read : takeFields Document.textValue? ActionOptions.intake [] {} entries = .ok result) :
      ∃ name ∈ BlockType.sharedKeys, entry.1.textValue? = some name := by
    obtain ⟨name, _, named, made⟩ := Document.take_fields_known Document.textValue?
      ActionOptions.independent _ _ _ _ read entry member
    exact ⟨name, by cases made <;> decide, named⟩
  have widened (isAction : config.blockType ≠ .declaration)
      (shared : ∃ name ∈ BlockType.sharedKeys, entry.1.textValue? = some name) :
      ∃ name ∈ config.blockType.knownKeys, entry.1.textValue? = some name := by
    obtain ⟨name, known, named⟩ := shared
    exact ⟨name, shared_keys_subset _ isAction known, named⟩
  cases remaining with
  | table _ _ read => exact widened (by intro same; cases same) (options _ read)
  | assertion _ read => exact widened (by intro same; cases same) (options _ read)
  | operation _ read => exact widened (by intro same; cases same) (options _ read)
  | declaration _ read =>
      obtain ⟨name, _, named, made⟩ := Document.take_fields_known Document.textValue?
        DeclarationOptions.independent _ _ _ _ read entry member
      exact ⟨name, by cases made <;> simp [blockType, BlockType.knownKeys], named⟩

theorem of_known_perm (blockType : BlockType) (entries others : Entries) (config : ConfigBlock)
    (apart : KeysApart entries) (perm : entries.Perm others)
    (known : ofKnown blockType entries = .ok config) : ofKnown blockType others = .ok config := by
  obtain ⟨same, special⟩ := (of_known_ok_iff _ _ _).mp known
  obtain ⟨_, _, _, _, _, _, readAssertions, readUniqueKey, readHasOutput, remaining⟩ := special
  obtain ⟨apart, _, readAssertions, perm⟩ := read_out_perm _ _ _ _ _ _ _ apart perm readAssertions
  obtain ⟨apart, _, readUniqueKey, perm⟩ := read_out_perm _ _ _ _ _ _ _ apart perm readUniqueKey
  obtain ⟨apart, _, readHasOutput, perm⟩ := read_out_perm _ _ _ _ _ _ _ apart perm readHasOutput
  exact (of_known_ok_iff _ _ _).mpr ⟨same, _, _, _, _, _, _, readAssertions, readUniqueKey,
    readHasOutput, remaining.perm _ _ _ perm⟩

-- A key that is not plain is never left out, so the block reads it by the text that it has.
theorem of_known_odd (blockType : BlockType) (entries : Entries) (config : ConfigBlock)
    (known : ofKnown blockType entries = .ok config) (entry : Document × Document)
    (member : entry ∈ entries) (odd : plainKey? entry = none) :
    ∃ name ∈ blockType.knownKeys, entry.1.textValue? = some name := by
  obtain ⟨same, special⟩ := (of_known_ok_iff _ _ _).mp known
  obtain ⟨_, _, _, _, _, _, readAssertions, readUniqueKey, readHasOutput, remaining⟩ := special
  have member := read_out_odd _ _ _ _ _ _ readAssertions entry member odd
  have member := read_out_odd _ _ _ _ _ _ readUniqueKey entry member odd
  have member := read_out_odd _ _ _ _ _ _ readHasOutput entry member odd
  exact same ▸ remaining.known _ _ _ entry member

end ConfigBlock

end SqlWorkflow
