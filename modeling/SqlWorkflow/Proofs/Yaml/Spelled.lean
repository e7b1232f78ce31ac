import SqlWorkflow.Document.Value
import SqlWorkflow.Proofs.Yaml.Flow

-- The reader of nodes makes no scalars of its own: each one is a scalar among the tokens, with the
-- tag before it, or takes the place of one that was left out.
namespace SqlWorkflow.Yaml

open Reader

inductive Leaf (tokens : List Token) (document : Document) : Prop where
  | token (tag : Option String) (text : String) (plain : Bool)
      (member : .scalar text plain ∈ tokens) (same : document = scalar tag text plain)
  | absent (tag : Option String) (same : document = scalar tag "" true)

inductive Spelled (tokens : List Token) : Document → Prop where
  | leaf {document : Document} (leaf : Leaf tokens document) : Spelled tokens document
  | sequence {items : List Document} (each : ∀ item ∈ items, Spelled tokens item) :
      Spelled tokens (.sequence items)
  | mapping {entries : List (Document × Document)}
      (keys : ∀ entry ∈ entries, Spelled tokens entry.1)
      (values : ∀ entry ∈ entries, Spelled tokens entry.2) : Spelled tokens (.mapping entries)
  | tagged {tag : String} {content : Document} (inner : Spelled tokens content) :
      Spelled tokens (.tagged tag content)
  | broken : Spelled tokens .broken

structure Grounded (tokens : List Token) (r : Reader) : Prop where
  left : r.tokens ⊆ tokens
  nodes : ∀ node ∈ r.nodes, Spelled tokens node.2

section Readers

variable (tokens : List Token)

def Sound (parsed : Parsed) : Prop :=
  Spelled tokens parsed.1 ∧ Grounded tokens parsed.2

def SoundItems (result : List Document × Reader) : Prop :=
  (∀ item ∈ result.1, Spelled tokens item) ∧ Grounded tokens result.2

def SoundEntries (result : List (Document × Document) × Reader) : Prop :=
  (∀ entry ∈ result.1, Spelled tokens entry.1 ∧ Spelled tokens entry.2) ∧ Grounded tokens result.2

variable {tokens}

theorem Grounded.rest {r : Reader} {token : Token} {rest : List Token}
    (grounded : Grounded tokens r) (shape : r.tokens = token :: rest) :
    Grounded tokens { r with tokens := rest } where
  left := fun _ member => grounded.left (shape ▸ List.mem_cons_of_mem token member)
  nodes := grounded.nodes

theorem Grounded.fail {r : Reader} (grounded : Grounded tokens r) : Grounded tokens r.fail.2 where
  left := List.nil_subset tokens
  nodes := grounded.nodes

theorem fail_sound {r : Reader} (grounded : Grounded tokens r) : Sound tokens r.fail :=
  ⟨.broken, grounded.fail⟩

theorem empty_spelled : Spelled tokens empty :=
  .leaf (.absent none rfl)

theorem collection_spelled (tag : Option String) (content : Document)
    (inner : Spelled tokens content) : Spelled tokens (collection tag content) := by
  unfold collection
  split
  · exact .tagged inner
  · exact inner

theorem properties_grounded (r next : Reader) (anchor tag : Option String)
    (grounded : Grounded tokens r) (read : r.properties = some (anchor, tag, next)) :
    Grounded tokens next := by
  obtain ⟨taken, shape, _, same⟩ := properties_rest r next anchor tag read
  rw [same]
  exact ⟨fun _ member => grounded.left (shape ▸ List.mem_append_right taken member), grounded.nodes⟩

theorem name_node_grounded (r : Reader) (anchor : Option String) (grounded : Grounded tokens r) :
    Grounded tokens (r.nameNode anchor).2 := by
  cases anchor with
  | none => exact grounded
  | some name => exact ⟨grounded.left, grounded.nodes⟩

theorem finish_sound (number : Option Nat) (parsed : Parsed) (sound : Sound tokens parsed) :
    Sound tokens (finish number parsed) := by
  obtain ⟨spelled, grounded⟩ := sound
  cases number with
  | none => exact ⟨spelled, grounded⟩
  | some number =>
      exact ⟨spelled, grounded.left, List.forall_mem_cons.mpr ⟨spelled, grounded.nodes⟩⟩

theorem aliased_spelled (r : Reader) (name : String) (document : Document)
    (grounded : Grounded tokens r) (found : r.aliased? name = some document) :
    Spelled tokens document := by
  obtain ⟨number, _, found⟩ := Option.bind_eq_some_iff.mp found
  obtain ⟨before, behind, shape, _⟩ := List.lookup_eq_some_iff.mp found
  exact grounded.nodes (number, document) (by rw [shape]; simp)

structure ReadsSpelled (tokens : List Token) (fuel : Nat) : Prop where
  node : ∀ depth block dashes r, Grounded tokens r →
    Sound tokens (readNode fuel depth block dashes r)
  content : ∀ depth block dashes marked tag r, Grounded tokens r →
    Sound tokens (readContent fuel depth block dashes marked tag r)
  blockItems : ∀ depth r, Grounded tokens r → SoundItems tokens (readBlockItems fuel depth r)
  dashes : ∀ depth r, Grounded tokens r → SoundItems tokens (readDashes fuel depth r)
  blockEntries : ∀ depth r, Grounded tokens r →
    SoundEntries tokens (readBlockEntries fuel depth r)
  flowItems : ∀ depth first r, Grounded tokens r →
    SoundItems tokens (readFlowItems fuel depth first r)
  single : ∀ depth r, Grounded tokens r → Spelled tokens (readSingleEntry fuel depth r).1 ∧
    Sound tokens (readSingleEntry fuel depth r).2
  flowEntries : ∀ depth first r, Grounded tokens r →
    SoundEntries tokens (readFlowEntries fuel depth first r)
  optional : ∀ depth block dashes ends r, Grounded tokens r →
    Sound tokens (readOptional fuel depth block dashes ends r)

section Step

variable {fuel : Nat} (reads : ReadsSpelled tokens fuel)

include reads

theorem node_sound (depth : Nat) (block dashes : Bool) (r : Reader) (grounded : Grounded tokens r) :
    Sound tokens (readNode (fuel + 1) depth block dashes r) := by
  rw [readNode]
  split
  · rename_i name rest shape
    split
    · rename_i document found
      exact ⟨aliased_spelled r name document grounded found, grounded.rest shape⟩
    · exact fail_sound grounded
  · split
    · exact fail_sound grounded
    · rename_i anchor tag behind properties
      have begun := properties_grounded r behind anchor tag grounded properties
      exact finish_sound _ _ (reads.content depth block dashes _ tag _
        (name_node_grounded behind anchor begun))

theorem content_sound (depth : Nat) (block dashes marked : Bool) (tag : Option String) (r : Reader)
    (grounded : Grounded tokens r) :
    Sound tokens (readContent (fuel + 1) depth block dashes marked tag r) := by
  have absent : Sound tokens (if marked then (scalar tag "" true, r) else r.fail) := by
    split
    · exact ⟨.leaf (.absent tag rfl), grounded⟩
    · exact fail_sound grounded
  have sequence (result : List Document × Reader) (sound : SoundItems tokens result) :
      Sound tokens (collection tag (.sequence result.1), result.2) :=
    ⟨collection_spelled tag _ (.sequence sound.1), sound.2⟩
  have mapping (result : List (Document × Document) × Reader) (sound : SoundEntries tokens result) :
      Sound tokens (collection tag (.mapping result.1), result.2) :=
    ⟨collection_spelled tag _ (.mapping (fun entry member => (sound.1 entry member).1)
      fun entry member => (sound.1 entry member).2), sound.2⟩
  rw [readContent]
  split
  · rename_i text plain rest shape
    have member : Token.scalar text plain ∈ tokens := grounded.left (by rw [shape]; exact List.mem_cons_self)
    exact ⟨.leaf (.token tag text plain member rfl), grounded.rest shape⟩
  · split
    · exact absent
    · split
      · exact fail_sound grounded
      · exact sequence _ (reads.dashes _ r grounded)
  · rename_i shape
    split
    · exact fail_sound grounded
    · exact sequence _ (reads.flowItems _ _ _ (grounded.rest shape))
  · rename_i shape
    split
    · exact fail_sound grounded
    · exact mapping _ (reads.flowEntries _ _ _ (grounded.rest shape))
  · rename_i shape
    split
    · exact absent
    · split
      · exact fail_sound grounded
      · exact sequence _ (reads.blockItems _ _ (grounded.rest shape))
  · rename_i shape
    split
    · exact absent
    · split
      · exact fail_sound grounded
      · exact mapping _ (reads.blockEntries _ _ (grounded.rest shape))
  · exact fail_sound grounded
  · exact absent

theorem optional_sound (depth : Nat) (block dashes : Bool) (ends : List Token) (r : Reader)
    (grounded : Grounded tokens r) :
    Sound tokens (readOptional (fuel + 1) depth block dashes ends r) := by
  rw [readOptional]
  split
  · exact fail_sound grounded
  · split
    · exact reads.node _ _ _ _ grounded
    · exact ⟨empty_spelled, grounded⟩

omit reads in
theorem item_sound (parsed : Parsed) (sound : Sound tokens parsed)
    (more : Reader → List Document × Reader)
    (onward : ∀ r, Grounded tokens r → SoundItems tokens (more r)) :
    SoundItems tokens
      (if parsed.2.failed then ([parsed.1], parsed.2)
        else (parsed.1 :: (more parsed.2).1, (more parsed.2).2)) := by
  obtain ⟨spelled, grounded⟩ := sound
  split
  · exact ⟨List.forall_mem_singleton.mpr spelled, grounded⟩
  · obtain ⟨others, left⟩ := onward parsed.2 grounded
    exact ⟨List.forall_mem_cons.mpr ⟨spelled, others⟩, left⟩

omit reads in
theorem items_fail_sound (r : Reader) (grounded : Grounded tokens r) :
    SoundItems tokens ([.broken], r.fail.2) :=
  ⟨List.forall_mem_singleton.mpr .broken, grounded.fail⟩

omit reads in
theorem items_end_sound (r : Reader) (grounded : Grounded tokens r) : SoundItems tokens ([], r) :=
  ⟨fun _ member => absurd member List.not_mem_nil, grounded⟩

theorem block_items_sound (depth : Nat) (r : Reader) (grounded : Grounded tokens r) :
    SoundItems tokens (readBlockItems (fuel + 1) depth r) := by
  rw [readBlockItems]
  split
  · rename_i shape
    exact item_sound _ (reads.optional _ _ _ _ _ (grounded.rest shape)) _ (reads.blockItems depth)
  · rename_i shape
    exact items_end_sound _ (grounded.rest shape)
  · exact items_fail_sound r grounded

theorem dashes_sound (depth : Nat) (r : Reader) (grounded : Grounded tokens r) :
    SoundItems tokens (readDashes (fuel + 1) depth r) := by
  rw [readDashes]
  split
  · rename_i shape
    exact item_sound _ (reads.optional _ _ _ _ _ (grounded.rest shape)) _ (reads.dashes depth)
  · exact items_fail_sound r grounded
  · exact items_end_sound r grounded

omit reads in
theorem entry_sound (key value : Document) (r : Reader) (spelledKey : Spelled tokens key)
    (spelledValue : Spelled tokens value) (grounded : Grounded tokens r)
    (more : Reader → List (Document × Document) × Reader)
    (onward : ∀ r, Grounded tokens r → SoundEntries tokens (more r)) :
    SoundEntries tokens
      (if r.failed then ([(key, value)], r)
        else ((key, value) :: (more r).1, (more r).2)) := by
  split
  · exact ⟨List.forall_mem_singleton.mpr ⟨spelledKey, spelledValue⟩, grounded⟩
  · obtain ⟨others, left⟩ := onward r grounded
    exact ⟨List.forall_mem_cons.mpr ⟨⟨spelledKey, spelledValue⟩, others⟩, left⟩

omit reads in
theorem entries_fail_sound (r : Reader) (grounded : Grounded tokens r) :
    SoundEntries tokens ([(.broken, .broken)], r.fail.2) :=
  ⟨List.forall_mem_singleton.mpr ⟨.broken, .broken⟩, grounded.fail⟩

omit reads in
theorem entries_end_sound (r : Reader) (grounded : Grounded tokens r) :
    SoundEntries tokens ([], r) :=
  ⟨fun _ member => absurd member List.not_mem_nil, grounded⟩

omit reads in
theorem broken_entry_sound (key : Document) (r : Reader) (spelled : Spelled tokens key)
    (grounded : Grounded tokens r) : SoundEntries tokens ([(key, .broken)], r) :=
  ⟨List.forall_mem_singleton.mpr ⟨spelled, .broken⟩, grounded⟩

theorem value_sound (depth : Nat) (block dashes : Bool) (ends : List Token) (r : Reader)
    (grounded : Grounded tokens r) :
    Sound tokens (match r.tokens with
      | .value :: rest => readOptional fuel depth block dashes ends { r with tokens := rest }
      | [] => r.fail
      | _ => (empty, r)) := by
  split
  · rename_i shape
    exact reads.optional _ _ _ _ _ (grounded.rest shape)
  · exact fail_sound grounded
  · exact ⟨empty_spelled, grounded⟩

theorem block_entries_sound (depth : Nat) (r : Reader) (grounded : Grounded tokens r) :
    SoundEntries tokens (readBlockEntries (fuel + 1) depth r) := by
  rw [readBlockEntries]
  split
  · rename_i rest shape
    have key := reads.optional depth true true [.key, .value, .blockEnd] _ (grounded.rest shape)
    dsimp only
    split
    · exact broken_entry_sound _ _ key.1 key.2
    · have value := value_sound reads depth true true [.key, .value, .blockEnd] _ key.2
      exact entry_sound _ _ _ key.1 value.1 value.2 _ (reads.blockEntries depth)
  · rename_i shape
    exact entries_end_sound _ (grounded.rest shape)
  · exact entries_fail_sound r grounded

theorem single_sound (depth : Nat) (r : Reader) (grounded : Grounded tokens r) :
    Spelled tokens (readSingleEntry (fuel + 1) depth r).1 ∧
      Sound tokens (readSingleEntry (fuel + 1) depth r).2 := by
  rw [readSingleEntry]
  generalize first : (if r.startsNode _ then _ else _ : Parsed) = parsed
  have key : Sound tokens parsed := by
    rw [← first]
    split
    · exact reads.node _ _ _ _ grounded
    · split
      · exact fail_sound grounded
      · rename_i shape
        exact ⟨empty_spelled, grounded.rest shape⟩
  obtain ⟨spelled, behind⟩ := key
  dsimp only
  split
  · exact ⟨spelled, .broken, behind⟩
  · split
    · rename_i shape
      exact ⟨spelled, reads.optional _ _ _ _ _ (behind.rest shape)⟩
    · exact ⟨spelled, .broken, behind.fail⟩
    · exact ⟨spelled, empty_spelled, behind⟩

theorem flow_items_sound (depth : Nat) (first : Bool) (r : Reader) (grounded : Grounded tokens r) :
    SoundItems tokens (readFlowItems (fuel + 1) depth first r) := by
  rw [readFlowItems.eq_def]
  dsimp only
  split
  · exact items_fail_sound r grounded
  · rename_i next separated
    have begun : Grounded tokens next := by
      split at separated
      · cases separated
        exact grounded
      · rename_i shape
        cases separated
        exact grounded.rest shape
      · cases separated
        exact grounded
      · cases separated
    split
    · rename_i shape
      exact items_end_sound _ (begun.rest shape)
    · rename_i shape
      split
      · exact items_fail_sound next begun
      · obtain ⟨key, value, behind⟩ := reads.single (depth - 1) _ (begun.rest shape)
        have entry : Spelled tokens (.mapping [((readSingleEntry fuel (depth - 1) _).1, _)]) :=
          .mapping (List.forall_mem_singleton.mpr key) (List.forall_mem_singleton.mpr value)
        exact item_sound (_, _) ⟨entry, behind⟩ _ (reads.flowItems depth false)
    · exact item_sound _ (reads.node _ _ _ _ begun) _ (reads.flowItems depth false)

theorem flow_entries_sound (depth : Nat) (first : Bool) (r : Reader)
    (grounded : Grounded tokens r) :
    SoundEntries tokens (readFlowEntries (fuel + 1) depth first r) := by
  rw [readFlowEntries.eq_def]
  dsimp only
  split
  · exact entries_fail_sound r grounded
  · rename_i next separated
    have begun : Grounded tokens next := by
      split at separated
      · cases separated
        exact grounded
      · rename_i shape
        cases separated
        exact grounded.rest shape
      · cases separated
        exact grounded
      · cases separated
    split
    · rename_i shape
      exact entries_end_sound _ (begun.rest shape)
    · rename_i shape
      have key := reads.optional depth false false [.value, .flowEntry, .flowMappingEnd] _
        (begun.rest shape)
      split
      · exact broken_entry_sound _ _ key.1 key.2
      · have value := value_sound reads depth false false [.flowEntry, .flowMappingEnd] _ key.2
        exact entry_sound _ _ _ key.1 value.1 value.2 _ (reads.flowEntries depth false)
    · have key := reads.node depth false false next begun
      split
      · exact broken_entry_sound _ _ key.1 key.2
      · obtain ⟨others, left⟩ := reads.flowEntries depth false _ key.2
        exact ⟨List.forall_mem_cons.mpr ⟨⟨key.1, empty_spelled⟩, others⟩, left⟩

end Step

theorem reads_spelled (fuel : Nat) : ReadsSpelled tokens fuel := by
  induction fuel with
  | zero =>
      -- without fuel every reader fails
      constructor
      case node => intro depth block dashes r grounded; rw [readNode]; exact fail_sound grounded
      case content =>
        intro depth block dashes marked tag r grounded
        rw [readContent]
        exact fail_sound grounded
      case blockItems => intro depth r grounded; rw [readBlockItems]; exact items_fail_sound r grounded
      case dashes => intro depth r grounded; rw [readDashes]; exact items_fail_sound r grounded
      case blockEntries =>
        intro depth r grounded
        rw [readBlockEntries]
        exact entries_fail_sound r grounded
      case flowItems =>
        intro depth first r grounded
        rw [readFlowItems]
        exact items_fail_sound r grounded
      case single =>
        intro depth r grounded
        rw [readSingleEntry]
        exact ⟨.broken, .broken, grounded.fail⟩
      case flowEntries =>
        intro depth first r grounded
        rw [readFlowEntries]
        exact entries_fail_sound r grounded
      case optional =>
        intro depth block dashes ends r grounded
        rw [readOptional]
        exact fail_sound grounded
  | succ fuel reads =>
      exact ⟨node_sound reads, content_sound reads, block_items_sound reads, dashes_sound reads,
        block_entries_sound reads, flow_items_sound reads, single_sound reads,
        flow_entries_sound reads, optional_sound reads⟩

theorem read_directives_grounded (fuel : Nat) (versioned : Bool) (r next : Reader)
    (grounded : Grounded tokens r) (read : readDirectives fuel versioned r = some next) :
    Grounded tokens next := by
  induction fuel generalizing versioned r with
  | zero => cases read
  | succ fuel ih =>
      rw [readDirectives] at read
      split at read
      · rename_i shape
        split at read
        · cases read
        · exact ih _ _ (grounded.rest shape) read
      · rename_i shape
        have behind := grounded.rest shape
        refine ih _ _ ?_ read
        exact ⟨behind.left, behind.nodes⟩
      · rename_i shape
        cases read
        exact grounded.rest shape
      · cases read

theorem read_first_sound (fuel : Nat) (r : Reader) (grounded : Grounded tokens r) :
    Sound tokens (readFirst fuel r) := by
  have absent (r : Reader) (grounded : Grounded tokens r) : Sound tokens (Reader.empty, r) :=
    ⟨empty_spelled, grounded⟩
  have node (r : Reader) (grounded : Grounded tokens r) :
      Sound tokens (readNode fuel maxDepth true false r) :=
    (reads_spelled fuel).node _ _ _ r grounded
  rw [readFirst]
  split
  · exact fail_sound grounded
  · exact absent r grounded
  · extract_lets explicit
    generalize explicit = directed
    split
    · exact node r grounded
    · split
      · exact fail_sound grounded
      · rename_i next directives
        have begun := read_directives_grounded fuel false r next grounded directives
        split
        · exact fail_sound begun
        · exact absent next begun
        · exact absent next begun
        · exact absent next begun
        · exact absent next begun
        · exact absent next begun
        · exact node next begun

end Readers

theorem read_document_spelled (text : String) :
    Spelled (Token.ofText text).1 (readDocument text).1 :=
  (read_first_sound _ { tokens := (Token.ofText text).1 }
    ⟨List.Subset.refl _, fun _ member => absurd member List.not_mem_nil⟩).1

theorem scalar_untagged (tag : Option String) (text : String) (plain : Bool) :
    ∃ typed, (scalar tag text plain).untagged = .scalar text typed := by
  unfold scalar
  split
  · exact ⟨_, rfl⟩
  · split <;> exact ⟨_, rfl⟩

theorem spelled_scalar {tokens : List Token} {word : String} {typed : Scalar}
    (spelled : Spelled tokens (.scalar word typed)) : Leaf tokens (.scalar word typed) := by
  cases spelled with
  | leaf leaf => exact leaf

theorem spelled_entries {tokens : List Token} {document : Document}
    {entries : List (Document × Document)} (spelled : Spelled tokens document)
    (shape : document.untagged = .mapping entries) :
    ∀ entry ∈ entries, Spelled tokens entry.2 := by
  induction spelled with
  | leaf leaf =>
      cases leaf with
      | token tag text plain _ same =>
          obtain ⟨typed, scalar⟩ := scalar_untagged tag text plain
          rw [same, scalar] at shape
          cases shape
      | absent tag same =>
          obtain ⟨typed, scalar⟩ := scalar_untagged tag "" true
          rw [same, scalar] at shape
          cases shape
  | sequence => cases shape
  | mapping _ values =>
      cases shape
      exact values
  | tagged _ ih => exact ih shape
  | broken => cases shape

end SqlWorkflow.Yaml
