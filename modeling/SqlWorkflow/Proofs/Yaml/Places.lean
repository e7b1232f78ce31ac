import SqlWorkflow.Proofs.Yaml.Pieces
import SqlWorkflow.Proofs.Yaml.Plain

namespace SqlWorkflow.Yaml

def Token.isPlain : Token → Bool
  | .scalar _ plain => plain
  | _ => false

namespace Scanner

def Bare (s next : Scanner) : Prop :=
  ∀ token ∈ next.tokens, token.isPlain = true → token ∈ s.tokens

theorem Bare.trans {a b c : Scanner} (first : Bare a b) (second : Bare b c) : Bare a c :=
  fun token member plain => first token (second token member plain) plain

theorem bare_of_tokens (s next : Scanner) (same : next.tokens = s.tokens) : Bare s next :=
  fun _ member _ => same ▸ member

theorem bare_of_push (s next : Scanner) (token : Token) (other : token.isPlain = false)
    (pushed : next.tokens = s.tokens.push token) : Bare s next := by
  intro found member plain
  rw [pushed, Array.mem_push] at member
  rcases member with old | rfl
  · exact old
  · rw [other] at plain
    cases plain

theorem bare_of_insert (s next : Scanner) (position : Nat) (token : Token)
    (other : token.isPlain = false)
    (inserted : next.tokens = s.tokens.insertIdxIfInBounds position token) : Bare s next := by
  intro found member plain
  rw [inserted, Array.insertIdxIfInBounds] at member
  split at member
  · rw [Array.mem_insertIdx] at member
    rcases member with rfl | old
    · rw [other] at plain
      cases plain
    · exact old
  · exact member

theorem drop_key_bare (s next : Scanner) (step : s.dropKey = some next) : Bare s next := by
  obtain rfl := drop_key_eq s next step
  exact bare_of_tokens _ _ rfl

theorem mark_key_bare (s next : Scanner) (step : s.markKey = some next) : Bare s next := by
  obtain ⟨place, rfl⟩ := mark_key_eq s next step
  exact bare_of_tokens _ _ rfl

theorem drop_stale_keys_bare (s next : Scanner) (step : s.dropStaleKeys = some next) :
    Bare s next := by
  unfold dropStaleKeys at step
  extract_lets stale at step
  split at step
  · cases step
  · obtain rfl := Option.some.inj step
    exact bare_of_tokens _ _ rfl

theorem open_block_bare (s : Scanner) (column position : Nat) (token : Token)
    (other : token.isPlain = false) : Bare s (s.openBlock column position token) := by
  unfold openBlock
  split
  · exact bare_of_tokens _ _ rfl
  · exact bare_of_insert _ _ position token other rfl

theorem close_blocks_bare (column : Int) (outer : List Int) (s : Scanner) :
    Bare s (closeBlocks column outer s) := by
  induction outer generalizing s with
  | nil => exact bare_of_tokens _ _ rfl
  | cons indent outer ih =>
      unfold closeBlocks
      split
      · exact bare_of_tokens _ _ rfl
      · exact (bare_of_push s _ .blockEnd rfl rfl).trans (ih _)

theorem between_documents_bare (s next : Scanner) (step : s.betweenDocuments = some next) :
    Bare s next := by
  obtain ⟨free, dropped, rfl⟩ := Option.map_eq_some_iff.mp step
  exact (close_blocks_bare (-1) s.outer s).trans
    ((drop_key_bare _ free dropped).trans (bare_of_tokens _ _ rfl))

theorem skip_blanks_tokens (fuel : Nat) (s : Scanner) : (s.skipBlanks fuel).tokens = s.tokens := by
  induction fuel generalizing s with
  | zero => rfl
  | succ fuel ih =>
      rw [skipBlanks]
      split
      · exact ih _
      · rfl

theorem approach_bare (s near : Scanner) (step : s.approach = some near) : Bare s near := by
  obtain ⟨kept, stale, rfl⟩ := Option.map_eq_some_iff.mp step
  exact (bare_of_tokens s _ (skip_blanks_tokens _ s)).trans
    ((drop_stale_keys_bare _ kept stale).trans (close_blocks_bare _ _ kept))

theorem open_flow_bare (s next : Scanner) (token : Token) (other : token.isPlain = false)
    (step : s.openFlow token = some next) : Bare s next := by
  obtain ⟨marked, key, rfl⟩ := Option.map_eq_some_iff.mp step
  exact (mark_key_bare s marked key).trans (bare_of_push _ _ token other rfl)

theorem close_flow_bare (s next : Scanner) (token : Token) (other : token.isPlain = false)
    (step : s.closeFlow token = some next) : Bare s next := by
  obtain ⟨free, dropped, rfl⟩ := Option.map_eq_some_iff.mp step
  refine (drop_key_bare s free dropped).trans ?_
  dsimp only
  split <;> exact bare_of_push _ _ token other rfl

theorem flow_entry_bare (s next : Scanner) (step : s.flowEntry = some next) : Bare s next := by
  obtain ⟨free, dropped, rfl⟩ := Option.map_eq_some_iff.mp step
  exact (drop_key_bare s free dropped).trans (bare_of_push _ _ .flowEntry rfl rfl)

theorem block_entry_bare (s next : Scanner) (step : s.blockEntry = some next) : Bare s next := by
  obtain ⟨free, dropped, rfl⟩ := block_entry_step s next step
  exact (open_block_bare s _ _ .blockSequenceStart rfl).trans
    ((drop_key_bare _ free dropped).trans (bare_of_push _ _ .blockEntry rfl rfl))

theorem explicit_key_bare (s next : Scanner) (step : s.explicitKey = some next) : Bare s next := by
  obtain ⟨free, dropped, rfl⟩ := explicit_key_step s next step
  exact (open_block_bare s _ _ .blockMappingStart rfl).trans
    ((drop_key_bare _ free dropped).trans (bare_of_push _ _ .key rfl rfl))

theorem colon_bare (s next : Scanner) (step : s.colon = some next) : Bare s next := by
  rcases colon_step s next step with ⟨place, rfl⟩ | ⟨allowed, rfl⟩
  · have keyed : Bare s
        { s with tokens := s.tokens.insertIdxIfInBounds place.position .key, keyPlace := none } :=
      bare_of_insert _ _ place.position .key rfl rfl
    exact (keyed.trans (open_block_bare _ _ _ .blockMappingStart rfl)).trans
      (bare_of_push _ _ .value rfl rfl)
  · exact (open_block_bare s _ _ .blockMappingStart rfl).trans (bare_of_push _ _ .value rfl rfl)

theorem named_bare (s next : Scanner) (token : String → Token)
    (other : ∀ name, (token name).isPlain = false) (step : s.named token = some next) :
    Bare s next := by
  obtain ⟨marked, key, step⟩ := Option.bind_eq_some_iff.mp step
  obtain ⟨⟨name, cursor⟩, _, step⟩ := Option.bind_eq_some_iff.mp step
  obtain rfl := Option.some.inj step
  exact (mark_key_bare s marked key).trans (bare_of_push _ _ (token name) (other name) rfl)

theorem tagged_bare (s next : Scanner) (step : s.tagged = some next) : Bare s next := by
  obtain ⟨marked, key, step⟩ := Option.bind_eq_some_iff.mp step
  obtain ⟨⟨token, cursor⟩, read, step⟩ := Option.bind_eq_some_iff.mp step
  obtain ⟨_, handle, name, rfl⟩ := read_tag_step _ _ read
  dsimp only at step
  split at step
  · obtain rfl := Option.some.inj step
    exact (mark_key_bare s marked key).trans (bare_of_push _ _ (.tag handle name) rfl rfl)
  · cases step

theorem block_scalar_bare (s next : Scanner) (step : s.blockScalar = some next) : Bare s next := by
  obtain ⟨free, dropped, step⟩ := Option.bind_eq_some_iff.mp step
  obtain ⟨⟨text, cursor⟩, _, step⟩ := Option.bind_eq_some_iff.mp step
  obtain rfl := Option.some.inj step
  exact (drop_key_bare s free dropped).trans (bare_of_push _ _ (.scalar _ false) rfl rfl)

theorem quoted_scalar_bare (s next : Scanner) (quote : Char)
    (step : s.quotedScalar quote = some next) : Bare s next := by
  obtain ⟨marked, key, step⟩ := Option.bind_eq_some_iff.mp step
  obtain ⟨⟨text, cursor⟩, _, step⟩ := Option.bind_eq_some_iff.mp step
  obtain rfl := Option.some.inj step
  exact (mark_key_bare s marked key).trans (bare_of_push _ _ (.scalar _ false) rfl rfl)

theorem directive_bare (s next : Scanner) (step : s.directive = some next) : Bare s next := by
  obtain ⟨between, dropped, step⟩ := Option.bind_eq_some_iff.mp step
  refine (between_documents_bare s between dropped).trans ?_
  have ended (token : Token) (cursor : Cursor) (other : token.isPlain = false)
      (step : (if !(cursor.rest.isEmpty || cursor.atBreak) then none
        else some { (between.push token) with
          cursor := ((cursor.readBreak?).map Prod.snd).getD cursor } : Option Scanner) =
        some next) : Bare between next := by
    split at step
    · cases step
    · obtain rfl := Option.some.inj step
      exact bare_of_push _ _ token other rfl
  dsimp only at step
  split at step
  · cases step
  · split at step
    · obtain ⟨⟨token, cursor⟩, read, step⟩ := Option.bind_eq_some_iff.mp step
      obtain ⟨_, major, minor, rfl⟩ := read_version_step _ _ read
      exact ended _ _ rfl step
    · split at step
      · obtain ⟨⟨token, cursor⟩, read, step⟩ := Option.bind_eq_some_iff.mp step
        obtain ⟨_, handle, start, rfl⟩ := read_tag_directive_step _ _ read
        exact ended _ _ rfl step
      · cases step

theorem marker_bare (s next : Scanner) (token : Token) (other : token.isPlain = false)
    (step : s.betweenDocuments.map (·.take 3 token) = some next) : Bare s next := by
  obtain ⟨between, dropped, rfl⟩ := Option.map_eq_some_iff.mp step
  exact (between_documents_bare s between dropped).trans (bare_of_push _ _ token other rfl)

theorem read_token_plain (s next : Scanner) (step : s.readToken = some next) :
    Bare s next ∨ s.plainScalar = some next := by
  cases shape : s.cursor.rest with
  | nil =>
      rw [read_token_nothing s shape] at step
      cases step
  | cons c rest =>
      cases read_token_cases s next c rest shape step with
      | directive step => exact Or.inl (directive_bare s next step)
      | documentStart step => exact Or.inl (marker_bare s next .documentStart rfl step)
      | documentEnd step => exact Or.inl (marker_bare s next .documentEnd rfl step)
      | sequenceStart step => exact Or.inl (open_flow_bare s next .flowSequenceStart rfl step)
      | mappingStart _ step => exact Or.inl (open_flow_bare s next .flowMappingStart rfl step)
      | sequenceEnd step => exact Or.inl (close_flow_bare s next .flowSequenceEnd rfl step)
      | mappingEnd _ step => exact Or.inl (close_flow_bare s next .flowMappingEnd rfl step)
      | flowEntry step => exact Or.inl (flow_entry_bare s next step)
      | blockEntry step => exact Or.inl (block_entry_bare s next step)
      | key step => exact Or.inl (explicit_key_bare s next step)
      | value step => exact Or.inl (colon_bare s next step)
      | aliased step => exact Or.inl (named_bare s next .alias (fun _ => rfl) step)
      | anchored step => exact Or.inl (named_bare s next .anchor (fun _ => rfl) step)
      | tag step => exact Or.inl (tagged_bare s next step)
      | blockScalar step => exact Or.inl (block_scalar_bare s next step)
      | quoted _ step => exact Or.inl (quoted_scalar_bare s next c step)
      | plain step => exact Or.inr step

def near : Nat → Scanner → Option Scanner
  | 0, s => s.approach
  | count + 1, s => s.approach.bind fun here => here.readToken.bind (near count)

def ReadsPlain (s : Scanner) (source : List Char) (word : String) : Prop :=
  ∃ next cursor broken, s.readToken = some next ∧ s.plainScalar = some next ∧
    readPlain s.inFlow (s.indent + 1).toNat s.cursor = some (word.toList, cursor, broken) ∧
    PlainSource [] s.cursor (word.toList, cursor, broken) source

theorem near_passes (count : Nat) (s here : Scanner) (reached : s.near count = some here) :
    s.cursor.Passes here.cursor := by
  induction count generalizing s with
  | zero => exact (approach_reads s here reached).passes
  | succ count ih =>
      obtain ⟨first, approached, reached⟩ := Option.bind_eq_some_iff.mp reached
      obtain ⟨next, token, reached⟩ := Option.bind_eq_some_iff.mp reached
      obtain ⟨text, split, _, _⟩ := read_token_step first next token
      have passed : first.cursor.Passes next.cursor := ⟨text, split.symm⟩
      exact (approach_reads s first approached).passes.trans (passed.trans (ih next reached))

theorem plain_scalar_source (s next : Scanner) (token : s.readToken = some next)
    (step : s.plainScalar = some next) :
    ∃ source word, s.ReadsPlain source word ∧
      ∀ found ∈ next.tokens, found ∈ s.tokens ∨ found = .scalar word true := by
  have scalar := step
  obtain ⟨marked, key, step⟩ := Option.bind_eq_some_iff.mp step
  obtain ⟨⟨text, cursor, broken⟩, read, step⟩ := Option.bind_eq_some_iff.mp step
  obtain rfl := Option.some.inj step
  obtain ⟨place, rfl⟩ := mark_key_eq s marked key
  rw [← String.toList_ofList (l := text)] at read
  obtain ⟨source, whole⟩ := read_plain_source _ _ _ _ read
  exact ⟨source, String.ofList text, ⟨_, cursor, broken, token, scalar, read, whole⟩,
    fun found member => Array.mem_push.mp member⟩

theorem read_all_plain (fuel : Nat) (s : Scanner) (token : Token) (plain : token.isPlain = true)
    (member : token ∈ (readAll fuel s).1) :
    token ∈ s.tokens ∨ ∃ count here source word, s.near count = some here ∧
      here.ReadsPlain source word ∧ token = .scalar word true := by
  induction fuel generalizing s with
  | zero => exact Or.inl member
  | succ fuel ih =>
      rw [readAll] at member
      cases approached : s.approach with
      | none =>
          rw [approached] at member
          exact Or.inl member
      | some here =>
          rw [approached] at member
          dsimp only at member
          have before (old : token ∈ here.tokens) : token ∈ s.tokens :=
            approach_bare s here approached token old plain
          split at member
          · cases dropped : (here.unindent (-1)).dropKey with
            | none =>
                rw [dropped] at member
                exact Or.inl (before member)
            | some last =>
                rw [dropped] at member
                have ended := (close_blocks_bare (-1) here.outer here).trans
                  (drop_key_bare _ last dropped)
                rcases Array.mem_push.mp member with old | rfl
                · exact Or.inl (before (ended token old plain))
                · cases plain
          · cases read : here.readToken with
            | none =>
                rw [read] at member
                exact Or.inl (before member)
            | some next =>
                rw [read] at member
                have reached (count : Nat) : s.near (count + 1) = next.near count := by
                  rw [near, approached, Option.bind_some, read, Option.bind_some]
                rcases ih next member with old | ⟨count, later, source, word, behind, found⟩
                · rcases read_token_plain here next read with bare | step
                  · exact Or.inl (before (bare token old plain))
                  · obtain ⟨source, word, reads, added⟩ :=
                      plain_scalar_source here next read step
                    exact (added token old).imp before fun same =>
                      ⟨0, here, source, word, approached, reads, same⟩
                · exact Or.inr ⟨count + 1, later, source, word, (reached count).trans behind, found⟩

def begun (text : String) : Scanner :=
  let cursor : Cursor := { rest := text.toList }
  { cursor := if cursor.atChar '\ufeff' then cursor.skip 1 else cursor }

end Scanner

-- A plain scalar in a text: the source from which its words are read, between what stands before and
-- behind it.
structure PlainAt (text : String) (front source back : List Char) (word : String) : Prop where
  written : text.toList = front ++ (source ++ back)
  read : ∃ count here, (Scanner.begun text).near count = some here ∧
    here.cursor.rest = source ++ back ∧ here.ReadsPlain source word

theorem PlainAt.line {text : String} {front source back : List Char} {word : String}
    (place : PlainAt text front source back word) (line : Unbroken source) :
    word.toList = source := by
  obtain ⟨_, _, _, _, _, _, _, _, _, _, whole⟩ := place.read
  exact whole.line line

theorem begun_text (text : String) : (Scanner.begun text).cursor.rest <:+ text.toList := by
  rw [Scanner.begun]
  dsimp only
  split
  · exact Cursor.skip_passes _ 1
  · exact List.suffix_refl _

theorem plain_token_place (text word : String)
    (member : .scalar word true ∈ (Token.ofText text).1) :
    ∃ front source back, PlainAt text front source back word := by
  unfold Token.ofText at member
  dsimp only at member
  split at member
  · have member : Token.scalar word true ∈
        (Scanner.readAll (text.toList.length + 1) (Scanner.begun text)).1 :=
      Array.mem_toList_iff.mp member
    rcases Scanner.read_all_plain _ _ _ rfl member with
      old | ⟨count, here, source, other, reached, reads, same⟩
    · exact absurd old (Array.not_mem_empty _)
    · obtain ⟨rfl, _⟩ := Token.scalar.inj same
      have ⟨_, _, _, _, _, _, whole⟩ := reads
      obtain ⟨spaces, split, _⟩ := whole.written
      obtain ⟨front, passed⟩ :=
        List.IsSuffix.trans (Scanner.near_passes count _ here reached) (begun_text text)
      exact ⟨front, source, _, ⟨by rw [← split, passed], count, here, reached, split, reads⟩⟩
  · cases member

end SqlWorkflow.Yaml
