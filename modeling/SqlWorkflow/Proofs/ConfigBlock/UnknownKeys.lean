import SqlWorkflow.Proofs.ConfigBlock.KnownKeys

-- A key that is no string is warned about by its shown text. It is not left out under that text, so
-- the block is then refused.
namespace SqlWorkflow

-- A key that reads as none of the keys of the type, nor as the key of the type itself.
def BlockType.Unknown (blockType : BlockType) (key : Document) : Prop :=
  ∀ text, key.textValue? = some text → text ≠ "type" ∧ text ∉ blockType.knownKeys

namespace ConfigBlock

inductive Typed (entries : Entries) : BlockType → Entries → Prop where
  | unsaid (absent : takeOut? "type" entries = none) : Typed entries .operations entries
  | said (word : String) (blockType : BlockType) (rest : Entries)
      (found : takeOut? "type" entries = some (.string word, rest))
      (known : BlockType.ofWord? word = some blockType) : Typed entries blockType rest

def typedConfig (blockType : BlockType) (entries : Entries) : Reading ConfigBlock :=
  (ofKnown blockType ((unknownKeys blockType entries).foldl without entries)).bind checkName

def typedWarnings (blockType : BlockType) (entries : Entries) : List String :=
  (unknownKeys blockType entries).map (unknownKeyWarning blockType)

theorem of_entries_typed (path : String) {entries rest : Entries} {blockType : BlockType}
    (typed : Typed entries blockType rest) :
    ofEntries path entries = (inFile path (typedConfig blockType rest)).map fun config =>
      { config, warnings := typedWarnings blockType rest } := by
  unfold ofEntries
  cases typed with
  | unsaid absent => rw [absent]; rfl
  | said word blockType rest found known =>
      rw [found]
      simp only [Document.string, bind, Except.bind, pure, Except.pure, known]
      rfl

theorem typed_of_ok (path : String) (entries : Entries) (noted : Noted)
    (read : ofEntries path entries = .ok noted) :
    ∃ blockType rest, Typed entries blockType rest := by
  unfold ofEntries at read
  cases found : takeOut? "type" entries with
  | none => exact ⟨_, _, .unsaid found⟩
  | some pair =>
      obtain ⟨said, rest⟩ := pair
      rw [found] at read
      dsimp only at read
      split at read
      next same => cases same
      next word _ same =>
          cases same
          cases known : BlockType.ofWord? word with
          | none =>
              simp only [bind, Except.bind, pure, Except.pure, known] at read
              cases read
          | some blockType => exact ⟨_, _, .said word blockType rest found known⟩
      next => cases read

theorem Typed.apart {entries rest : Entries} {blockType : BlockType}
    (typed : Typed entries blockType rest) (apart : KeysApart entries) : KeysApart rest := by
  cases typed with
  | unsaid => exact apart
  | said word _ _ found =>
      have split := take_out_some _ _ _ _ found
      exact (apart.perm split).sublist (List.sublist_cons_self _ _)

theorem typed_insert (before after rest : Entries) (entry : Document × Document)
    (blockType : BlockType) (apart : KeysApart (before ++ entry :: after))
    (other : plainKey? entry ≠ some "type") (typed : Typed (before ++ after) blockType rest) :
    ∃ more, Typed (before ++ entry :: after) blockType more ∧ more.Perm (entry :: rest) := by
  cases typed with
  | unsaid absent =>
      refine ⟨_, .unsaid ((take_out_none_iff _ _).mpr ?_), List.perm_middle⟩
      rw [(plain_keys_perm List.perm_middle).mem_iff]
      rw [take_out_none_iff] at absent
      intro member
      obtain ⟨first, found, plain⟩ := List.mem_filterMap.mp member
      cases List.mem_cons.mp found with
      | inl same => exact other (same ▸ plain)
      | inr later => exact absent (List.mem_filterMap.mpr ⟨first, later, plain⟩)
  | said word blockType rest found known =>
      have split := (take_out_some _ _ _ _ found).cons entry
      obtain ⟨more, found, perm⟩ := take_out_perm "type" _ (entry :: rest) _ apart
        (List.perm_middle.trans (split.trans (.swap _ _ _)))
      exact ⟨more, .said word blockType more found known, perm⟩

def unknownKey? (blockType : BlockType) (entry : Document × Document) : Option String :=
  match entry.1.textValue? with
  | some text => if blockType.knownKeys.contains text then none else some text
  | none => some entry.1.shown

theorem unknown_keys_perm (blockType : BlockType) {entries others : Entries}
    (perm : entries.Perm others) :
    (unknownKeys blockType entries).Perm (unknownKeys blockType others) :=
  perm.filterMap (unknownKey? blockType)

theorem unknown_keys_cons (blockType : BlockType) (text : String) (value : Document)
    (entries : Entries) (unknown : text ∉ blockType.knownKeys) :
    unknownKeys blockType ((.string text, value) :: entries) =
      text :: unknownKeys blockType entries := by
  have noted : unknownKey? blockType (.string text, value) = some text :=
    if_neg (by simpa using unknown)
  exact List.filterMap_cons_some noted

theorem typed_config_ok_iff (blockType : BlockType) (entries : Entries) (config : ConfigBlock) :
    typedConfig blockType entries = .ok config ↔
      ofKnown blockType ((unknownKeys blockType entries).foldl without entries) = .ok config ∧
        checkName config = .ok config := by
  refine (except_bind_ok_iff _ _ _).trans ⟨fun ⟨first, known, checked⟩ => ?_, fun ⟨known, checked⟩ =>
    ⟨config, known, checked⟩⟩
  have same : first = config := by
    unfold checkName at checked
    split at checked
    · cases checked
    · exact Except.ok.inj checked
  subst same
  exact ⟨known, checked⟩

theorem typed_config_type (blockType : BlockType) (entries : Entries) (config : ConfigBlock)
    (read : typedConfig blockType entries = .ok config) : config.blockType = blockType :=
  ((of_known_ok_iff _ _ _).mp ((typed_config_ok_iff _ _ _).mp read).1).1

theorem typed_config_plain (blockType : BlockType) (text : String) (value : Document)
    (entries more : Entries) (config : ConfigBlock) (apart : KeysApart more)
    (perm : more.Perm ((.string text, value) :: entries)) (unknown : text ∉ blockType.knownKeys)
    (read : typedConfig blockType entries = .ok config) :
    typedConfig blockType more = .ok config := by
  obtain ⟨known, checked⟩ := (typed_config_ok_iff _ _ _).mp read
  refine (typed_config_ok_iff _ _ _).mpr ⟨?_, checked⟩
  obtain ⟨absent, apartLeft⟩ := List.nodup_cons.mp (apart.perm perm)
  have names : ∀ name, name ∈ unknownKeys blockType more ↔
      name ∈ text :: unknownKeys blockType entries := by
    intro name
    rw [(unknown_keys_perm blockType perm).mem_iff, unknown_keys_cons _ _ _ _ unknown]
  have dropped : leaveOut (text :: unknownKeys blockType entries) ((.string text, value) :: entries) =
      leaveOut (text :: unknownKeys blockType entries) entries :=
    List.filter_cons_of_neg (by simp [plainKey?, Document.string])
  have left : (leaveOut (unknownKeys blockType entries) entries).Perm
      (leaveOut (unknownKeys blockType more) more) := by
    rw [leave_out_congr names, ← leave_out_absent text _ entries absent, ← dropped]
    exact perm.symm.filter _
  have first := without_all_perm (unknownKeys blockType entries) entries apartLeft
  have second := without_all_perm (unknownKeys blockType more) more apart
  have kept : KeysApart ((unknownKeys blockType entries).foldl without entries) :=
    KeysApart.perm (KeysApart.sublist apartLeft List.filter_sublist) first.symm
  exact of_known_perm _ _ _ _ kept (first.trans (left.trans second.symm)) known

theorem typed_config_odd (blockType : BlockType) (key value : Document) (more : Entries)
    (apart : KeysApart more) (member : (key, value) ∈ more)
    (odd : ∀ text, key ≠ .string text) (unknown : blockType.Unknown key) :
    ∃ fault, typedConfig blockType more = .error fault := by
  cases read : typedConfig blockType more with
  | error fault => exact ⟨fault, rfl⟩
  | ok config =>
      have none : plainKey? (key, value) = none := by
        cases plain : plainKey? (key, value) with
        | none => rfl
        | some text => exact absurd (plain_key key value text plain) (odd text)
      have kept : (key, value) ∈ leaveOut (unknownKeys blockType more) more :=
        List.mem_filter.mpr ⟨member, by simp [none]⟩
      have left := (without_all_perm (unknownKeys blockType more) more apart).mem_iff.mpr kept
      obtain ⟨known, _⟩ := (typed_config_ok_iff _ _ _).mp read
      obtain ⟨name, isKnown, named⟩ := of_known_odd _ _ _ known _ left none
      exact absurd isKnown (unknown name named).2

-- One more entry whose key the block does not know. A string is warned about and left out; any other
-- key makes the block invalid.
theorem unknown_key_read (path : String) (before after : Entries) (key value : Document)
    (config : ConfigBlock) (warnings : List String)
    (distinct : (Document.mapping (before ++ (key, value) :: after)).hasValue = true)
    (unknown : config.blockType.Unknown key)
    (read : ofEntries path (before ++ after) = .ok { config, warnings }) :
    (∀ text, key = .string text →
      ∃ more, ofEntries path (before ++ (key, value) :: after) = .ok { config, warnings := more } ∧
        more.Perm (unknownKeyWarning config.blockType text :: warnings)) ∧
    ((∀ text, key ≠ .string text) →
      ∃ fault, ofEntries path (before ++ (key, value) :: after) =
        .error (.invalidConfig path fault)) := by
  have apart := keys_apart_of_value _ distinct
  obtain ⟨blockType, rest, typed⟩ := typed_of_ok path _ _ read
  rw [of_entries_typed path typed] at read
  obtain ⟨_, configured, same⟩ := (except_map_ok_iff _ _ _).mp read
  cases same
  rw [inFile, map_error_ok_iff] at configured
  obtain rfl := typed_config_type _ _ _ configured
  have other : plainKey? (key, value) ≠ some "type" := by
    intro plain
    obtain rfl := plain_key key value "type" plain
    exact (unknown "type" rfl).1 rfl
  obtain ⟨more, typedMore, perm⟩ := typed_insert before after rest (key, value) _ apart other typed
  have apartMore := typedMore.apart apart
  rw [of_entries_typed path typedMore]
  constructor
  · intro text plain
    subst plain
    have isUnknown : text ∉ config.blockType.knownKeys := (unknown text rfl).2
    rw [typed_config_plain _ text value rest more config apartMore perm isUnknown configured]
    refine ⟨_, rfl, ?_⟩
    have keys := unknown_keys_perm config.blockType perm
    rw [unknown_keys_cons _ _ _ _ isUnknown] at keys
    exact keys.map _
  · intro odd
    obtain ⟨fault, failed⟩ := typed_config_odd _ key value more apartMore
      (perm.mem_iff.mpr List.mem_cons_self) odd unknown
    rw [failed]
    exact ⟨fault, rfl⟩

theorem unique_key_on_assertion :
    ∃ more, ofEntries "definitions/check.sqlx"
        [(.string "type", .string "assertion"), (.string "uniqueKey", .string "id")] =
          .ok { config := .assertion {}, warnings := more } ∧
      more.Perm [unknownKeyWarning .assertion "uniqueKey"] := by
  have unknown : BlockType.assertion.Unknown (.string "uniqueKey") := by
    intro text same
    cases same
    decide
  exact (unknown_key_read "definitions/check.sqlx" [(.string "type", .string "assertion")] []
    (.string "uniqueKey") (.string "id") (.assertion {}) [] rfl unknown rfl).1 _ rfl

-- A number is a key of no type, and it is warned about by a text that is not the key.
theorem number_key_refused :
    ¬ ∀ (path : String) (before after : Entries) (key value : Document) (config : ConfigBlock)
        (warnings : List String),
      (Document.mapping (before ++ (key, value) :: after)).hasValue = true →
      config.blockType.Unknown key →
      ofEntries path (before ++ after) = .ok { config, warnings } →
      ∃ name more, ofEntries path (before ++ (key, value) :: after) =
          .ok { config, warnings := more } ∧
        more.Perm (unknownKeyWarning config.blockType name :: warnings) := by
  intro all
  have unknown : (BlockType.table .table).Unknown (.scalar "5" (.int 5)) := by
    intro text same
    cases same
  obtain ⟨name, more, read, _⟩ := all "definitions/daily.sqlx" [(.string "type", .string "table")] []
    (.scalar "5" (.int 5)) (.string "x") (.table .table {} {} []) [] rfl unknown rfl
  have refused : ofEntries "definitions/daily.sqlx"
      [(.string "type", .string "table"), (.scalar "5" (.int 5), .string "x")] =
        .error (.invalidConfig "definitions/daily.sqlx" .malformed) := rfl
  cases refused.symm.trans read

end ConfigBlock

end SqlWorkflow
