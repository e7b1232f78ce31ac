import Mathlib.Logic.Basic
import SqlWorkflow.Proofs.Yaml.Quoted

-- A step adds a brace to the tokens only where it reads one, whatever tokens for keys and block
-- collections it puts between the others.
namespace SqlWorkflow.Yaml

open Cursor

def Token.isMark : Token → Bool
  | .flowMappingStart => true
  | .flowMappingEnd => true
  | .streamEnd => true
  | _ => false

def marks (tokens : List Token) : List Token :=
  tokens.filter Token.isMark

theorem marks_append (a b : List Token) : marks (a ++ b) = marks a ++ marks b :=
  List.filter_append _ _

theorem marks_cons (token : Token) (tokens : List Token) (mark : token.isMark = true) :
    marks (token :: tokens) = token :: marks tokens :=
  List.filter_cons_of_pos mark

theorem marks_insert (tokens : List Token) (position : Nat) (token : Token)
    (other : token.isMark = false) : marks (tokens.insertIdx position token) = marks tokens := by
  have plain : ¬ token.isMark = true := by simp [other]
  induction tokens generalizing position with
  | nil =>
      cases position with
      | zero => exact List.filter_cons_of_neg plain
      | succ position => rfl
  | cons first rest ih =>
      cases position with
      | zero => exact List.filter_cons_of_neg plain
      | succ position =>
          have onward := ih position
          unfold marks at onward ⊢
          rw [List.insertIdx_succ_cons, List.filter_cons, List.filter_cons, onward]

namespace Scanner

def marks (s : Scanner) : List Token :=
  Yaml.marks s.tokens.toList

theorem marks_push (tokens : Array Token) (token : Token) :
    Yaml.marks (tokens.push token).toList =
      Yaml.marks tokens.toList ++ Yaml.marks [token] := by
  rw [Array.toList_push, marks_append]

theorem marks_push_other (tokens : Array Token) (token : Token) (other : token.isMark = false) :
    Yaml.marks (tokens.push token).toList = Yaml.marks tokens.toList := by
  have none : Yaml.marks [token] = [] := List.filter_cons_of_neg (by simp [other])
  rw [marks_push, none, List.append_nil]

theorem marks_insert_array (tokens : Array Token) (position : Nat) (token : Token)
    (other : token.isMark = false) :
    Yaml.marks (tokens.insertIdxIfInBounds position token).toList = Yaml.marks tokens.toList := by
  unfold Array.insertIdxIfInBounds
  split
  · rw [Array.toList_insertIdx, marks_insert _ _ _ other]
  · rfl

structure Steady (s next : Scanner) : Prop where
  cursor : next.cursor = s.cursor
  marks : next.marks = s.marks

theorem Steady.trans {a b c : Scanner} (first : Steady a b) (second : Steady b c) : Steady a c :=
  ⟨second.cursor.trans first.cursor, second.marks.trans first.marks⟩

theorem drop_key_eq (s next : Scanner) (step : s.dropKey = some next) :
    next = { s with keyPlace := none } := by
  unfold dropKey at step
  split at step
  · cases step
  · exact (Option.some.inj step).symm

theorem mark_key_eq (s next : Scanner) (step : s.markKey = some next) :
    ∃ place, next = { s with keyPlace := place } := by
  unfold markKey at step
  split at step
  · obtain ⟨free, dropped, rfl⟩ := Option.map_eq_some_iff.mp step
    obtain rfl := drop_key_eq s free dropped
    exact ⟨_, rfl⟩
  · obtain rfl := Option.some.inj step
    exact ⟨_, rfl⟩

theorem drop_key_steady (s next : Scanner) (step : s.dropKey = some next) : Steady s next := by
  obtain rfl := drop_key_eq s next step
  exact ⟨rfl, rfl⟩

theorem mark_key_steady (s next : Scanner) (step : s.markKey = some next) : Steady s next := by
  obtain ⟨place, rfl⟩ := mark_key_eq s next step
  exact ⟨rfl, rfl⟩

theorem drop_stale_keys_steady (s next : Scanner) (step : s.dropStaleKeys = some next) :
    Steady s next := by
  unfold dropStaleKeys at step
  extract_lets stale at step
  split at step
  · cases step
  · obtain rfl := Option.some.inj step
    exact ⟨rfl, rfl⟩

theorem open_block_steady (s : Scanner) (column position : Nat) (token : Token)
    (other : token.isMark = false) : Steady s (s.openBlock column position token) := by
  unfold openBlock
  split
  · exact ⟨rfl, rfl⟩
  · exact ⟨rfl, marks_insert_array s.tokens position token other⟩

theorem close_blocks_steady (column : Int) (outer : List Int) (s : Scanner) :
    Steady s (closeBlocks column outer s) := by
  induction outer generalizing s with
  | nil => exact ⟨rfl, rfl⟩
  | cons indent outer ih =>
      unfold closeBlocks
      split
      · exact ⟨rfl, rfl⟩
      · have closed : Steady s { s with indent, outer, tokens := s.tokens.push .blockEnd } :=
          ⟨rfl, marks_push_other s.tokens .blockEnd rfl⟩
        exact closed.trans (ih _)

theorem between_documents_steady (s next : Scanner) (step : s.betweenDocuments = some next) :
    Steady s next := by
  obtain ⟨free, dropped, rfl⟩ := Option.map_eq_some_iff.mp step
  have steady := (close_blocks_steady (-1) s.outer s).trans (drop_key_steady _ free dropped)
  exact ⟨steady.cursor, steady.marks⟩

structure Reads (s next : Scanner) : Prop where
  passes : s.cursor.Passes next.cursor
  marks : next.marks = s.marks

theorem Steady.then_reads {a b c : Scanner} (steady : Steady a b) (reads : Reads b c) :
    Reads a c :=
  ⟨steady.cursor ▸ reads.passes, reads.marks.trans steady.marks⟩

theorem push_reads (s : Scanner) (token : Token) (cursor : Cursor) (allowed : Bool)
    (other : token.isMark = false) (passes : s.cursor.Passes cursor) :
    Reads s { (s.push token) with cursor, keyAllowed := allowed } :=
  ⟨passes, marks_push_other s.tokens token other⟩

theorem take_reads (s : Scanner) (n : Nat) (token : Token) (other : token.isMark = false) :
    Reads s (s.take n token) :=
  ⟨s.cursor.skip_passes n, marks_push_other s.tokens token other⟩

theorem take_allow_reads (s : Scanner) (n : Nat) (token : Token) (allowed : Bool)
    (other : token.isMark = false) : Reads s ((s.take n token).allowKey allowed) :=
  ⟨s.cursor.skip_passes n, marks_push_other s.tokens token other⟩

theorem skip_blanks_reads (fuel : Nat) (s : Scanner) : Reads s (s.skipBlanks fuel) := by
  induction fuel generalizing s with
  | zero => exact ⟨s.cursor.passes_refl, rfl⟩
  | succ fuel ih =>
      rw [skipBlanks]
      have line := (s.cursor.skip_while_passes fun c =>
        c == ' ' || (s.inFlow || !s.keyAllowed) && c == '\t').trans (comment_passes _ '#' (!isBreak ·))
      generalize (if (s.cursor.skipWhile _).atChar '#' then _ else _ : Cursor) = comment at line ⊢
      split
      · rename_i text next broken
        have onward := ih { s with cursor := next, keyAllowed := s.keyAllowed || !s.inFlow }
        exact ⟨line.trans ((comment.read_break_passes next text broken).trans onward.passes),
          onward.marks⟩
      · exact ⟨line, rfl⟩

theorem approach_reads (s near : Scanner) (step : s.approach = some near) : Reads s near := by
  obtain ⟨kept, stale, rfl⟩ := Option.map_eq_some_iff.mp step
  have steady := (drop_stale_keys_steady _ kept stale).trans
    (close_blocks_steady kept.cursor.column kept.outer kept)
  have blanks := skip_blanks_reads (s.cursor.rest.length + 1) s
  exact ⟨steady.cursor ▸ blanks.passes, steady.marks.trans blanks.marks⟩

theorem open_flow_step (s next : Scanner) (token : Token) (step : s.openFlow token = some next) :
    next.cursor = s.cursor.skip 1 ∧ next.marks = s.marks ++ Yaml.marks [token] := by
  obtain ⟨marked, key, rfl⟩ := Option.map_eq_some_iff.mp step
  have steady := mark_key_steady s marked key
  exact ⟨congrArg (·.skip 1) steady.cursor,
    (marks_push marked.tokens token).trans (congrArg (· ++ _) steady.marks)⟩

theorem close_flow_step (s next : Scanner) (token : Token) (step : s.closeFlow token = some next) :
    next.cursor = s.cursor.skip 1 ∧ next.marks = s.marks ++ Yaml.marks [token] := by
  obtain ⟨free, dropped, rfl⟩ := Option.map_eq_some_iff.mp step
  have steady := drop_key_steady s free dropped
  have taken : (free.take 1 token).cursor = s.cursor.skip 1 ∧
      (free.take 1 token).marks = s.marks ++ Yaml.marks [token] :=
    ⟨congrArg (·.skip 1) steady.cursor,
      (marks_push free.tokens token).trans (congrArg (· ++ _) steady.marks)⟩
  dsimp only
  split <;> exact taken

theorem open_flow_reads (s next : Scanner) (token : Token) (other : token.isMark = false)
    (step : s.openFlow token = some next) : Reads s next := by
  obtain ⟨cursor, marks⟩ := open_flow_step s next token step
  have none : Yaml.marks [token] = [] := List.filter_cons_of_neg (by simp [other])
  exact ⟨cursor ▸ s.cursor.skip_passes 1, by rw [marks, none, List.append_nil]⟩

theorem close_flow_reads (s next : Scanner) (token : Token) (other : token.isMark = false)
    (step : s.closeFlow token = some next) : Reads s next := by
  obtain ⟨cursor, marks⟩ := close_flow_step s next token step
  have none : Yaml.marks [token] = [] := List.filter_cons_of_neg (by simp [other])
  exact ⟨cursor ▸ s.cursor.skip_passes 1, by rw [marks, none, List.append_nil]⟩

theorem flow_entry_reads (s next : Scanner) (step : s.flowEntry = some next) : Reads s next := by
  obtain ⟨free, dropped, rfl⟩ := Option.map_eq_some_iff.mp step
  exact (drop_key_steady s free dropped).then_reads (take_allow_reads free 1 .flowEntry _ rfl)

theorem block_entry_step (s next : Scanner) (step : s.blockEntry = some next) :
    ∃ free, (s.openBlock s.cursor.column s.tokens.size .blockSequenceStart).dropKey = some free ∧
      (free.take 1 .blockEntry).allowKey true = next := by
  unfold blockEntry at step
  split at step
  · cases step
  · exact Option.map_eq_some_iff.mp step

theorem block_entry_reads (s next : Scanner) (step : s.blockEntry = some next) : Reads s next := by
  obtain ⟨free, dropped, rfl⟩ := block_entry_step s next step
  have opened := open_block_steady s s.cursor.column s.tokens.size .blockSequenceStart rfl
  exact (opened.trans (drop_key_steady _ free dropped)).then_reads
    (take_allow_reads free 1 .blockEntry _ rfl)

theorem explicit_key_step (s next : Scanner) (step : s.explicitKey = some next) :
    ∃ free, (s.openBlock s.cursor.column s.tokens.size .blockMappingStart).dropKey = some free ∧
      (free.take 1 .key).allowKey (!free.inFlow) = next := by
  unfold explicitKey at step
  split at step
  · cases step
  · exact Option.map_eq_some_iff.mp step

theorem explicit_key_reads (s next : Scanner) (step : s.explicitKey = some next) :
    Reads s next := by
  obtain ⟨free, dropped, rfl⟩ := explicit_key_step s next step
  have opened := open_block_steady s s.cursor.column s.tokens.size .blockMappingStart rfl
  exact (opened.trans (drop_key_steady _ free dropped)).then_reads
    (take_allow_reads free 1 .key _ rfl)

-- The key of a value stands at a place that was marked for it, or nothing does.
theorem colon_step (s next : Scanner) (step : s.colon = some next) :
    (∃ place : KeyPlace, next = ((openBlock
        { s with tokens := s.tokens.insertIdxIfInBounds place.position .key, keyPlace := none }
        place.column place.position .blockMappingStart).take 1 .value).allowKey false) ∨
      ∃ allowed, next = ((s.openBlock s.cursor.column s.tokens.size
        .blockMappingStart).take 1 .value).allowKey allowed := by
  unfold colon at step
  split at step
  · rename_i place _
    exact Or.inl ⟨place, (Option.some.inj step).symm⟩
  · split at step
    · cases step
    · exact Or.inr ⟨_, (Option.some.inj step).symm⟩

theorem colon_reads (s next : Scanner) (step : s.colon = some next) : Reads s next := by
  rcases colon_step s next step with ⟨place, rfl⟩ | ⟨allowed, rfl⟩
  · have keyed : Steady s
        { s with tokens := s.tokens.insertIdxIfInBounds place.position .key, keyPlace := none } :=
      ⟨rfl, marks_insert_array s.tokens place.position .key rfl⟩
    have opened := keyed.trans
      (open_block_steady _ place.column place.position .blockMappingStart rfl)
    exact opened.then_reads (take_allow_reads _ 1 .value _ rfl)
  · have opened := open_block_steady s s.cursor.column s.tokens.size .blockMappingStart rfl
    exact opened.then_reads (take_allow_reads _ 1 .value _ rfl)

theorem named_reads (s next : Scanner) (token : String → Token)
    (other : ∀ name, (token name).isMark = false) (step : s.named token = some next) :
    Reads s next := by
  obtain ⟨marked, key, step⟩ := Option.bind_eq_some_iff.mp step
  obtain ⟨⟨name, cursor⟩, read, step⟩ := Option.bind_eq_some_iff.mp step
  obtain rfl := Option.some.inj step
  exact (mark_key_steady s marked key).then_reads
    (push_reads marked _ cursor false (other name) (read_name_passes _ _ read))

theorem tagged_reads (s next : Scanner) (step : s.tagged = some next) : Reads s next := by
  obtain ⟨marked, key, step⟩ := Option.bind_eq_some_iff.mp step
  obtain ⟨⟨token, cursor⟩, read, step⟩ := Option.bind_eq_some_iff.mp step
  obtain ⟨passes, handle, name, rfl⟩ := read_tag_step _ _ read
  dsimp only at step
  split at step
  · obtain rfl := Option.some.inj step
    exact (mark_key_steady s marked key).then_reads
      (push_reads marked (.tag handle name) cursor false rfl passes)
  · cases step

theorem block_scalar_reads (s next : Scanner) (step : s.blockScalar = some next) :
    Reads s next := by
  obtain ⟨free, dropped, step⟩ := Option.bind_eq_some_iff.mp step
  obtain ⟨⟨text, cursor⟩, read, step⟩ := Option.bind_eq_some_iff.mp step
  obtain rfl := Option.some.inj step
  exact (drop_key_steady s free dropped).then_reads
    (push_reads free _ cursor true rfl (read_block_passes _ _ _ read))

theorem plain_scalar_reads (s next : Scanner) (step : s.plainScalar = some next) :
    Reads s next := by
  obtain ⟨marked, key, step⟩ := Option.bind_eq_some_iff.mp step
  obtain ⟨⟨text, cursor, broken⟩, read, step⟩ := Option.bind_eq_some_iff.mp step
  obtain rfl := Option.some.inj step
  exact (mark_key_steady s marked key).then_reads
    (push_reads marked _ cursor broken rfl (read_plain_passes _ _ _ _ read))

theorem quoted_scalar_step (s next : Scanner) (quote : Char)
    (step : s.quotedScalar quote = some next) :
    ∃ text, readQuoted quote s.cursor = some (text, next.cursor) ∧ next.marks = s.marks := by
  obtain ⟨marked, key, step⟩ := Option.bind_eq_some_iff.mp step
  obtain ⟨⟨text, cursor⟩, read, step⟩ := Option.bind_eq_some_iff.mp step
  obtain rfl := Option.some.inj step
  have steady := mark_key_steady s marked key
  rw [steady.cursor] at read
  exact ⟨text, read, (marks_push_other marked.tokens _ rfl).trans steady.marks⟩

theorem directive_end_reads (s next : Scanner) (token : Token) (cursor : Cursor)
    (other : token.isMark = false) (passes : s.cursor.Passes cursor)
    (step : (do
      let cursor := cursor.skipWhile isBlank
      let cursor := if cursor.atChar '#' then cursor.skipWhile (!isBreak ·) else cursor
      if !(cursor.rest.isEmpty || cursor.atBreak) then none
      return { (s.push token) with
        cursor := ((cursor.readBreak?).map Prod.snd).getD cursor } : Option Scanner) = some next) :
    Reads s next := by
  have line := (cursor.skip_while_passes isBlank).trans (comment_passes _ '#' (!isBreak ·))
  dsimp only at step
  generalize (if (cursor.skipWhile isBlank).atChar '#' then _ else _ : Cursor) = comment
    at step line
  split at step
  · cases step
  · obtain rfl := Option.some.inj step
    exact ⟨passes.trans (line.trans comment.after_break_passes),
      marks_push_other s.tokens token other⟩

theorem directive_reads (s next : Scanner) (step : s.directive = some next) : Reads s next := by
  obtain ⟨between, dropped, step⟩ := Option.bind_eq_some_iff.mp step
  refine (between_documents_steady s between dropped).then_reads ?_
  dsimp only at step
  split at step
  · cases step
  · have begun := (between.cursor.skip_passes 1).trans (skip_passes _
      (List.takeWhile isWordChar (between.cursor.skip 1).rest).length)
    split at step
    · obtain ⟨⟨token, cursor⟩, read, step⟩ := Option.bind_eq_some_iff.mp step
      obtain ⟨passes, major, minor, rfl⟩ := read_version_step _ _ read
      exact directive_end_reads between next _ cursor rfl (begun.trans passes) step
    · split at step
      · obtain ⟨⟨token, cursor⟩, read, step⟩ := Option.bind_eq_some_iff.mp step
        obtain ⟨passes, handle, start, rfl⟩ := read_tag_directive_step _ _ read
        exact directive_end_reads between next _ cursor rfl (begun.trans passes) step
      · cases step

theorem marker_reads (s next : Scanner) (token : Token) (other : token.isMark = false)
    (step : s.betweenDocuments.map (·.take 3 token) = some next) : Reads s next := by
  obtain ⟨between, dropped, rfl⟩ := Option.map_eq_some_iff.mp step
  exact (between_documents_steady s between dropped).then_reads (take_reads between 3 token other)

inductive TokenStep (s next : Scanner) (c : Char) : Prop where
  | directive (step : s.directive = some next)
  | documentStart (step : s.betweenDocuments.map (·.take 3 .documentStart) = some next)
  | documentEnd (step : s.betweenDocuments.map (·.take 3 .documentEnd) = some next)
  | sequenceStart (step : s.openFlow .flowSequenceStart = some next)
  | mappingStart (brace : c = '\x7b') (step : s.openFlow .flowMappingStart = some next)
  | sequenceEnd (step : s.closeFlow .flowSequenceEnd = some next)
  | mappingEnd (brace : c = '\x7d') (step : s.closeFlow .flowMappingEnd = some next)
  | flowEntry (step : s.flowEntry = some next)
  | blockEntry (step : s.blockEntry = some next)
  | key (step : s.explicitKey = some next)
  | value (step : s.colon = some next)
  | aliased (step : s.named .alias = some next)
  | anchored (step : s.named .anchor = some next)
  | tag (step : s.tagged = some next)
  | blockScalar (step : s.blockScalar = some next)
  | quoted (quote : c = '\'' ∨ c = '"') (step : s.quotedScalar c = some next)
  | plain (step : s.plainScalar = some next)

theorem read_token_cases (s next : Scanner) (c : Char) (rest : List Char)
    (shape : s.cursor.rest = c :: rest) (step : s.readToken = some next) : TokenStep s next c := by
  delta readToken at step
  extract_lets cursor at step
  rw [show cursor.rest = c :: rest from shape] at step
  dsimp only at step
  rcases ite_eq_iff.mp step with ⟨-, step⟩ | ⟨-, step⟩
  · exact .directive step
  rcases ite_eq_iff.mp step with ⟨-, step⟩ | ⟨-, step⟩
  · exact .documentStart step
  rcases ite_eq_iff.mp step with ⟨-, step⟩ | ⟨-, step⟩
  · exact .documentEnd step
  rcases ite_eq_iff.mp step with ⟨-, step⟩ | ⟨-, step⟩
  · exact .sequenceStart step
  rcases ite_eq_iff.mp step with ⟨brace, step⟩ | ⟨-, step⟩
  · exact .mappingStart brace step
  rcases ite_eq_iff.mp step with ⟨-, step⟩ | ⟨-, step⟩
  · exact .sequenceEnd step
  rcases ite_eq_iff.mp step with ⟨brace, step⟩ | ⟨-, step⟩
  · exact .mappingEnd brace step
  rcases ite_eq_iff.mp step with ⟨-, step⟩ | ⟨-, step⟩
  · exact .flowEntry step
  rcases ite_eq_iff.mp step with ⟨-, step⟩ | ⟨-, step⟩
  · exact .blockEntry step
  rcases ite_eq_iff.mp step with ⟨-, step⟩ | ⟨-, step⟩
  · exact .key step
  rcases ite_eq_iff.mp step with ⟨-, step⟩ | ⟨-, step⟩
  · exact .value step
  rcases ite_eq_iff.mp step with ⟨-, step⟩ | ⟨-, step⟩
  · exact .aliased step
  rcases ite_eq_iff.mp step with ⟨-, step⟩ | ⟨-, step⟩
  · exact .anchored step
  rcases ite_eq_iff.mp step with ⟨-, step⟩ | ⟨-, step⟩
  · exact .tag step
  rcases ite_eq_iff.mp step with ⟨-, step⟩ | ⟨-, step⟩
  · exact .blockScalar step
  rcases ite_eq_iff.mp step with ⟨quote, step⟩ | ⟨-, step⟩
  · exact .quoted quote step
  rcases ite_eq_iff.mp step with ⟨-, step⟩ | ⟨-, step⟩
  · exact .plain step
  · cases step

theorem read_token_reads (s next : Scanner) (c : Char) (rest : List Char)
    (shape : s.cursor.rest = c :: rest) (noOpening : c ≠ '\x7b') (noClosing : c ≠ '\x7d')
    (noSingle : c ≠ '\'') (noDouble : c ≠ '"') (step : s.readToken = some next) :
    Reads s next := by
  cases read_token_cases s next c rest shape step with
  | directive step => exact directive_reads s next step
  | documentStart step => exact marker_reads s next .documentStart rfl step
  | documentEnd step => exact marker_reads s next .documentEnd rfl step
  | sequenceStart step => exact open_flow_reads s next .flowSequenceStart rfl step
  | mappingStart brace => exact absurd brace noOpening
  | sequenceEnd step => exact close_flow_reads s next .flowSequenceEnd rfl step
  | mappingEnd brace => exact absurd brace noClosing
  | flowEntry step => exact flow_entry_reads s next step
  | blockEntry step => exact block_entry_reads s next step
  | key step => exact explicit_key_reads s next step
  | value step => exact colon_reads s next step
  | aliased step => exact named_reads s next .alias (fun _ => rfl) step
  | anchored step => exact named_reads s next .anchor (fun _ => rfl) step
  | tag step => exact tagged_reads s next step
  | blockScalar step => exact block_scalar_reads s next step
  | quoted quote => exact absurd quote (not_or.mpr ⟨noSingle, noDouble⟩)
  | plain step => exact plain_scalar_reads s next step

end Scanner

end SqlWorkflow.Yaml
