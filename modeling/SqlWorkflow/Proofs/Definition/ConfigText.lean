import Mathlib.Data.List.Basic
import SqlWorkflow.Proofs.Definition.Alike
import SqlWorkflow.Proofs.Definition.BlockEnd
import SqlWorkflow.Proofs.Definition.Layout

namespace SqlWorkflow.Definition

open Yaml

theorem gap_last (inComment afterBlank : Bool) (gap : List Char)
    (alike : gapAlike inComment afterBlank gap = true) :
    ∀ c ∈ gap.getLast?, Text.isBlank c = true := by
  induction gap generalizing inComment afterBlank with
  | nil => simp
  | cons c gap ih =>
      cases gap with
      | nil =>
          intro last same
          obtain rfl : c = last := by simpa using same
          cases inComment with
          | true =>
              have line : c = '\n' := by simpa [gapAlike] using alike
              rw [line]
              decide
          | false =>
              rw [gapAlike] at alike
              split at alike
              · simp [gapAlike] at alike
              · exact (Bool.and_eq_true_iff.mp alike).1
      | cons d gap =>
          rw [List.getLast?_cons_cons]
          cases inComment with
          | true => exact ih _ _ alike
          | false =>
              rw [gapAlike] at alike
              split at alike
              · exact ih _ _ (Bool.and_eq_true_iff.mp alike).2
              · exact ih _ _ (Bool.and_eq_true_iff.mp alike).2

theorem plain_no_brace (afterBlank : Bool) (text : List Char)
    (alike : plainAlike afterBlank text = true) : '\x7d' ∉ text := by
  induction text generalizing afterBlank with
  | nil => simp
  | cons c text ih =>
      obtain ⟨first, alike⟩ := Bool.and_eq_true_iff.mp alike
      intro member
      rcases List.mem_cons.mp member with rfl | later
      · simp [isQuote] at first
      · exact ih _ alike later

theorem token_last (afterBlank : Bool) (text : List Char) (form : TokenText text)
    (alike : tokenAlike afterBlank text = true) (noBrace : brace? text = none) :
    ∀ c ∈ text.getLast?, c ≠ '\x7d' := by
  have quoted (quote : Char) (different : quote ≠ '\x7d') (body : List Char)
      (string : QuotedText quote body) : ∀ c ∈ (quote :: body).getLast?, c ≠ '\x7d' := by
    obtain ⟨front, rfl⟩ := quoted_text_last quote body string
    rw [← List.cons_append, List.getLast?_append]
    simpa using different
  cases form with
  | opening => cases noBrace
  | closing => cases noBrace
  | single string => exact quoted '\'' (by decide) _ string
  | double string => exact quoted '"' (by decide) _ string
  | other start =>
      rintro c last rfl
      exact plain_no_brace afterBlank text (other_alike afterBlank text start alike)
        (List.mem_of_getLast? last)

theorem pieces_last (pieces : List Piece) (afterBlank : Bool)
    (forms : ∀ piece ∈ pieces, TokenText piece.text)
    (alike : piecesAlike afterBlank pieces = true) (noBrace : braces pieces = []) :
    ∀ c ∈ (written pieces).getLast?, c ≠ '\x7d' := by
  induction pieces generalizing afterBlank with
  | nil => simp [written]
  | cons piece pieces ih =>
      obtain ⟨form, forms⟩ := List.forall_mem_cons.mp forms
      simp only [piecesAlike, Bool.and_eq_true] at alike
      obtain ⟨⟨gap, token⟩, alike⟩ := alike
      rw [braces_cons, List.append_eq_nil_iff, Option.toList_eq_nil_iff] at noBrace
      rw [written_cons, List.getLast?_append, List.getLast?_append]
      intro c last
      rw [Option.mem_def, Option.or_assoc, Option.or_eq_some_iff, Option.or_eq_some_iff] at last
      rcases last with later | ⟨_, here | ⟨_, before⟩⟩
      · exact ih _ forms alike noBrace.2 c later
      · exact token_last _ _ form token noBrace.1 c here
      · rintro rfl
        have blank := gap_last false _ _ gap _ before
        revert blank
        decide

theorem brace_closing (text : List Char) (closing : brace? text = some .flowMappingEnd) :
    text = ['\x7d'] := by
  unfold brace? at closing
  split at closing
  · cases closing
  · rfl
  · cases closing

-- Pieces without braces cannot end with one, so none of them stands behind a brace that is the last.
theorem written_behind_brace (behind : List Piece) (afterBlank : Bool)
    (forms : ∀ piece ∈ behind, TokenText piece.text)
    (alike : piecesAlike afterBlank behind = true) (noBrace : braces behind = [])
    (before inside : List Char)
    (text : before ++ (['\x7d'] ++ written behind) = inside ++ ['\x7d']) : written behind = [] := by
  have ending := congrArg List.getLast? text
  simp only [List.getLast?_append, List.getLast?_singleton, Option.some_or] at ending
  cases last : (written behind).getLast? with
  | none => exact List.getLast?_eq_none_iff.mp last
  | some c =>
      rw [last, Option.some_or] at ending
      exact absurd (Option.some.inj ending) (pieces_last behind afterBlank forms alike noBrace c last)

-- Pieces that open and close mappings in front of one more closing brace: that brace is the last of
-- their text if their text ends with one.
theorem pieces_closing (pieces : List Piece) (inner : List Token) (inside : List Char)
    (forms : ∀ piece ∈ pieces, TokenText piece.text) (alike : piecesAlike false pieces = true)
    (found : braces pieces = inner ++ [.flowMappingEnd]) (level : Level inner)
    (text : written pieces = inside ++ ['\x7d']) : BlockText false false inside := by
  obtain ⟨front, back, rfl, opened, closed⟩ := List.filterMap_eq_append_iff.mp found
  obtain ⟨between, last, behind, rfl, none, closing, noMore⟩ := List.filterMap_eq_cons_iff.mp closed
  have noBraces : braces between = [] := List.filterMap_eq_nil_iff.mpr none
  have brace := brace_closing last.text closing
  have split : front ++ (between ++ last :: behind) = (front ++ between) ++ last :: behind :=
    (List.append_assoc _ _ _).symm
  rw [split] at forms alike text
  rw [pieces_alike_append, Bool.and_eq_true] at alike
  obtain ⟨alike, others⟩ := alike
  simp only [piecesAlike, Bool.and_eq_true] at others
  obtain ⟨⟨gap, -⟩, others⟩ := others
  obtain ⟨forms, lastForms⟩ := List.forall_mem_append.mp forms
  rw [written_append, written_cons, brace, ← List.append_assoc] at text
  have nothing := written_behind_brace behind _ (List.forall_mem_cons.mp lastForms).2 others noMore
    _ inside text
  rw [nothing, List.append_nil, List.append_left_inj] at text
  subst text
  have nesting : depthAfter 0 (braces (front ++ between)) = some 0 := by
    rw [braces, List.filterMap_append, opened]
    rw [show List.filterMap _ between = [] from noBraces, List.append_nil, level 0]
  have passes := (pieces_pass _ 0 0 false forms alike nesting).append
    (gap_passes 0 _ last.gap gap)
  have ends := passes ['\x7d']
  rw [blockEnd?] at ends
  have found : blockEnd? false 0 (.code false) ((written (front ++ between) ++ last.gap) ++ ['\x7d']) =
      some (written (front ++ between) ++ last.gap, []) := by
    rw [ends]
    simp [after]
  exact ((block_end_iff _ _ _).mp found).2

def braced (inside : String) : String :=
  "\x7b" ++ inside ++ "\x7d"

theorem braced_text (inside : String) :
    (braced inside).toList = '\x7b' :: (inside.toList ++ ['\x7d']) := by
  simp [braced, String.toList_append]

def ReadAlike (inside : String) : Prop :=
  piecesAlike false (piecesOf (braced inside)) = true

theorem tokens_braced (inside : String) (starts : (Token.ofText (braced inside)).1 ≠ []) :
    (Token.ofText (braced inside)).1 =
      (Scanner.readAll ((braced inside).toList.length + 1)
        (.start (braced inside).toList)).1.toList := by
  unfold Token.ofText at starts ⊢
  dsimp only at starts ⊢
  split at starts
  · rename_i allowed
    rw [if_pos allowed]
    have noMark : (Cursor.mk (braced inside).toList 0 0 0).atChar '\ufeff' = false := by
      rw [Cursor.atChar, braced_text]
      rfl
    rw [noMark]
    rfl
  · exact absurd rfl starts

theorem flow_mapping_block_text (inside : String) (mapping : IsFlowMapping (braced inside))
    (alike : ReadAlike inside) : BlockText false false inside.toList := by
  obtain ⟨inner, ends, rest, tokens, level, noMark⟩ := flow_mapping_tokens _ mapping
  have run := tokens_braced inside (by rw [tokens]; exact List.cons_ne_nil _ _)
  rw [ReadAlike, piecesOf] at alike
  rw [braced_text] at run alike
  generalize ('\x7b' :: (inside.toList ++ ['\x7d'])).length = fuel at run alike
  obtain ⟨next, behind, opened, whole, pieces⟩ :=
    Scanner.start_opening fuel (inside.toList ++ ['\x7d'])
  rw [whole] at run
  rw [pieces] at alike
  have marked : marks (Scanner.readAll fuel next).1.toList = .flowMappingStart ::
      ((marks inner ++ [.flowMappingEnd]) ++ .streamEnd :: marks rest) := by
    rw [← run, tokens, marks_cons _ _ rfl, marks_append, marks_cons _ _ rfl, marks_append, noMark,
      marks_cons _ _ rfl, List.append_assoc]
    rfl
  obtain ⟨text, forms, found⟩ := Scanner.read_all_pieces fuel next (by rw [opened]; decide)
    (by rw [marked]; simp)
  rw [marked, opened, List.singleton_append] at found
  obtain ⟨same, -, -⟩ := (List.append_cons_inj_of_notMem (braces_no_end _) (by simp)).mp
    (List.cons.inj found).2.symm
  refine pieces_closing _ (marks inner) inside.toList forms ?_ same ?_ (text.symm.trans behind)
  · have behindBrace : blankAfter (blankAfter false []) ['\x7b'] = false := by decide
    simpa [piecesAlike, gapAlike, tokenAlike, behindBrace] using alike
  · intro depth
    rw [depth_after_marks, level]

def configFile (inside body : String) : String :=
  "config " ++ braced inside ++ "\n" ++ body

def OpensNoBlock (text : List Char) : Prop :=
  ∀ trivia after, Trivia trivia → text = trivia ++ after → ¬ OpensBlock after

def configLayout (inside body : String) : Layout :=
  ⟨[], [⟨[], .config, [' '], inside.toList⟩], '\n' :: body.toList⟩

theorem config_file_text (inside body : String) :
    (configFile inside body).toList =
      BlockName.config.keyword.toList ++ ([' '] ++ '\x7b' ::
        (inside.toList ++ '\x7d' :: '\n' :: body.toList)) := by
  simp [configFile, braced, String.toList_append, BlockName.keyword]

theorem config_layout_text (inside body : String) :
    (configLayout inside body).text = configFile inside body := by
  rw [← String.toList_inj, config_file_text, Layout.text, String.toList_ofList]
  simp [configLayout, Block.text]

theorem config_layout_well_formed (inside body : String) (stops : OpensNoBlock body.toList)
    (text : BlockText false false inside.toList) : (configLayout inside body).WellFormed where
  leading := .none
  blocks := List.forall_mem_singleton.mpr
    ⟨.none, fun c member => by rw [List.mem_singleton.mp member]; decide, text⟩
  once := by simp [configLayout]
  rest := (block_start_none_iff _).mp (by
    rw [configLayout, skip_trivia_blank '\n' _ (by decide)]
    exact (block_start_none_iff _).mpr stops)

theorem read_blocks_keeps (blocks read : Blocks) (text rest : List Char)
    (answer : readBlocks blocks text = .ok (read, rest)) (name : BlockName) (content : String)
    (noted : blocks.get? name = some content) : read.get? name = some content := by
  fun_induction readBlocks blocks text with
  | case1 blocks text none =>
      cases answer
      exact noted
  | case2 => cases answer
  | case3 blocks text other inside start found rest ending absent ih =>
      refine ih answer ?_
      rw [blocks_get_set, if_neg, noted]
      rintro rfl
      rw [noted] at absent
      cases absent
  | case4 => cases answer

theorem config_text_exact (inside body : String) (stops : OpensNoBlock body.toList) :
    readBlocks {} (configFile inside body).toList =
        .ok ({ config := some inside }, '\n' :: body.toList) ↔
      BlockText false false inside.toList := by
  constructor
  · intro answer
    have start : blockStart? (skipTrivia (configFile inside body).toList) =
        some (.config, inside.toList ++ '\x7d' :: '\n' :: body.toList) := by
      rw [config_file_text, skip_trivia_keyword]
      exact block_start_written .config [' '] _ (List.all_eq_true.mp (by decide))
    rw [readBlocks] at answer
    simp only [start] at answer
    split at answer
    · cases answer
    · rename_i content rest ending
      have kept := read_blocks_keeps _ _ _ _ answer .config (String.ofList content) rfl
      have same : inside.toList = content :=
        (congrArg String.toList (Option.some.inj kept)).trans String.toList_ofList
      subst same
      exact ((block_end_iff _ _ _).mp ending).2
  · intro text
    have wellFormed := config_layout_well_formed inside body stops text
    have read := read_blocks {} (configLayout inside body).blocks [] (configLayout inside body).rest
      .none wellFormed.blocks wellFormed.once (by simp [configLayout, Blocks.get?])
      ((block_start_none_iff _).mpr wellFormed.rest)
    rw [← config_layout_text, Layout.text, String.toList_ofList]
    refine read.trans ?_
    simp [configLayout, Blocks.note, Blocks.set]

theorem of_config_text (path inside body : String) (stops : OpensNoBlock body.toList)
    (text : BlockText false false inside.toList) :
    ofText path (configFile inside body) = (ConfigBlock.ofText path inside).map fun noted => {
      path
      config := noted.config
      warnings := noted.warnings
      body := Text.trim body } := by
  have read := of_text_layout path _ (config_layout_well_formed inside body stops text)
  have config : (configLayout inside body).config path = ConfigBlock.ofText path inside := by
    simp [Layout.config, Layout.inside?, configLayout]
  have hooked : (configLayout inside body).hooked = false := by
    simp [Layout.hooked, Layout.inside?, configLayout]
  have definition (noted : ConfigBlock.Noted) : (configLayout inside body).definition path noted =
      { path, config := noted.config, warnings := noted.warnings, body := Text.trim body } := by
    have line : Text.trimChars ('\n' :: body.toList) = Text.trimChars body.toList := rfl
    simp [Layout.definition, Layout.inside?, Layout.body, configLayout, line, Text.trim]
  rw [config_layout_text, config, hooked] at read
  rw [read]
  cases ConfigBlock.ofText path inside with
  | error refusal => rfl
  | ok noted => exact congrArg Except.ok (definition noted)

theorem config_text_agrees (path inside body : String) (stops : OpensNoBlock body.toList) :
    (readBlocks {} (configFile inside body).toList =
        .ok ({ config := some inside }, '\n' :: body.toList) ↔
      BlockText false false inside.toList) ∧
    (IsFlowMapping (braced inside) → ReadAlike inside →
      readBlocks {} (configFile inside body).toList =
          .ok ({ config := some inside }, '\n' :: body.toList) ∧
        ofText path (configFile inside body) = (ConfigBlock.ofText path inside).map fun noted => {
          path
          config := noted.config
          warnings := noted.warnings
          body := Text.trim body }) := by
  refine ⟨config_text_exact inside body stops, fun mapping alike => ?_⟩
  have text := flow_mapping_block_text inside mapping alike
  exact ⟨(config_text_exact inside body stops).mpr text, of_config_text path inside body stops text⟩

-- The apostrophe opens a string for the scanner of blocks, which then finds no end of the block.
def apostropheConfig : String :=
  " type: table, description: it's daily "

theorem plain_apostrophe_unterminated : ¬ ∀ path inside body : String,
    IsFlowMapping (braced inside) → OpensNoBlock body.toList →
      ofText path (configFile inside body) = (ConfigBlock.ofText path inside).map fun noted => {
        path
        config := noted.config
        warnings := noted.warnings
        body := Text.trim body } := by
  intro agrees
  have mapping : IsFlowMapping (braced apostropheConfig) := ⟨by decide +kernel, by decide +kernel⟩
  have stops : OpensNoBlock "select 1 as id".toList :=
    (block_start_none_iff _).mp (by decide +kernel)
  have accepted : ConfigBlock.ofText "definitions/daily.sqlx" apostropheConfig =
      .ok { config := .table .table { description := some "it's daily" } {} [] } := by
    decide +kernel
  have refused : ofText "definitions/daily.sqlx" (configFile apostropheConfig "select 1 as id") =
      .error (.invalidDefinition "definitions/daily.sqlx" (.unterminated "config")) := by
    decide +kernel
  have same := agrees "definitions/daily.sqlx" apostropheConfig "select 1 as id" mapping stops
  rw [refused, accepted] at same
  cases same

def quotedConfig : String :=
  " type: table, tags: ['it''s', \"\\\"\x7d\"], # isn't\n  description: 'C:\\new' "

theorem config_text_agrees_quoted :
    OpensNoBlock "select 1".toList ∧ IsFlowMapping (braced quotedConfig) ∧
      ReadAlike quotedConfig ∧
      ofText "definitions/daily.sqlx" (configFile quotedConfig "select 1") = .ok {
        path := "definitions/daily.sqlx"
        config := .table .table
          { tags := ["it's", "\"\x7d"], description := some "C:\\new" } {} []
        body := "select 1" } := by
  have stops : OpensNoBlock "select 1".toList := (block_start_none_iff _).mp (by decide +kernel)
  have mapping : IsFlowMapping (braced quotedConfig) := ⟨by decide +kernel, by decide +kernel⟩
  have alike : ReadAlike quotedConfig := by
    rw [ReadAlike]
    decide +kernel
  have noted : ConfigBlock.ofText "definitions/daily.sqlx" quotedConfig = .ok {
      config := .table .table
        { tags := ["it's", "\"\x7d"], description := some "C:\\new" } {} [] } := by
    decide +kernel
  have read := (config_text_agrees "definitions/daily.sqlx" quotedConfig "select 1" stops).2
    mapping alike
  rw [noted] at read
  exact ⟨stops, mapping, alike, read.2⟩

end SqlWorkflow.Definition
