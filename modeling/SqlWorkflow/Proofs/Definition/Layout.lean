import Mathlib.Control.Monad.Basic
import SqlWorkflow.Proofs.Definition.Trivia

namespace SqlWorkflow.Definition

structure Block where
  trivia : List Char
  name : BlockName
  gap : List Char
  inside : List Char

namespace Block

def text (block : Block) : List Char :=
  block.trivia ++ (block.name.keyword.toList ++ (block.gap ++ '\x7b' :: (block.inside ++ ['\x7d'])))

structure WellFormed (block : Block) : Prop where
  trivia : Trivia block.trivia
  gap : ∀ c ∈ block.gap, Text.isBlank c = true
  inside : BlockText block.name.hasSqlComments false block.inside

end Block

def OpensBlock (text : List Char) : Prop :=
  ∃ name : BlockName, ∃ gap rest, (∀ c ∈ gap, Text.isBlank c = true) ∧
    text = name.keyword.toList ++ (gap ++ '\x7b' :: rest)

theorem drop_keyword (name other : BlockName) (text : List Char) :
    Text.dropStart? other.keyword.toList (name.keyword.toList ++ text) =
      if other = name then some text else none := by
  cases name <;> cases other <;> rfl

theorem trim_left_gap (gap text : List Char) (blank : ∀ c ∈ gap, Text.isBlank c = true) :
    Text.trimLeft (gap ++ '\x7b' :: text) = '\x7b' :: text := by
  rw [Text.trimLeft, List.dropWhile_append_of_pos blank]
  rfl

theorem block_start_written (name : BlockName) (gap text : List Char)
    (blank : ∀ c ∈ gap, Text.isBlank c = true) :
    blockStart? (name.keyword.toList ++ (gap ++ '\x7b' :: text)) = some (name, text) := by
  have trimmed := trim_left_gap gap text blank
  cases name <;> simp [blockStart?, BlockName.all, drop_keyword, trimmed]

theorem block_start_some (text rest : List Char) (name : BlockName)
    (found : blockStart? text = some (name, rest)) : OpensBlock text := by
  obtain ⟨name, -, read⟩ := List.exists_of_findSome?_eq_some found
  obtain ⟨after, dropped, trimmed⟩ := Option.bind_eq_some_iff.mp read
  split at trimmed
  · rename_i inside shape
    refine ⟨name, after.takeWhile Text.isBlank, inside, List.all_eq_true.mp List.all_takeWhile, ?_⟩
    rw [Text.drop_start_some _ _ _ dropped, ← shape, Text.trimLeft,
      List.takeWhile_append_dropWhile]
  · cases trimmed

theorem skip_trivia_keyword (name : BlockName) (text : List Char) :
    skipTrivia (name.keyword.toList ++ text) = name.keyword.toList ++ text := by
  cases name <;>
    exact skip_trivia_solid _ _ (by decide +kernel) (by decide +kernel) (by decide +kernel)

theorem block_start_none_iff (text : List Char) :
    blockStart? (skipTrivia text) = none ↔
      ∀ trivia after, Trivia trivia → text = trivia ++ after → ¬ OpensBlock after := by
  constructor
  · rintro none trivia after wellFormed rfl ⟨name, gap, rest, blank, rfl⟩
    rw [skip_trivia_append trivia _ wellFormed, skip_trivia_keyword,
      block_start_written name gap rest blank] at none
    cases none
  · intro opensNone
    cases found : blockStart? (skipTrivia text) with
    | none => rfl
    | some start =>
        have filled : skipTrivia text ≠ [] := fun empty => by
          rw [empty] at found
          cases found
        obtain ⟨trivia, wellFormed, split⟩ := skip_trivia_split text filled
        exact absurd (block_start_some _ start.2 start.1 found) (opensNone _ _ wellFormed split)

theorem blocks_get_set (blocks : Blocks) (name other : BlockName) (text : String) :
    (blocks.set name text).get? other = if other = name then some text else blocks.get? other := by
  cases name <;> cases other <;> rfl

def Blocks.note (blocks : Blocks) (block : Block) : Blocks :=
  blocks.set block.name (String.ofList block.inside)

theorem later_name_ne (block later : Block) (written : List Block)
    (once : block.name ∉ written.map Block.name) (member : later ∈ written) :
    later.name ≠ block.name :=
  fun same => once (same ▸ List.mem_map_of_mem member)

theorem read_block (blocks : Blocks) (leading rest : List Char) (block : Block)
    (trivia : Trivia leading) (wellFormed : block.WellFormed)
    (absent : blocks.get? block.name = none) :
    readBlocks blocks (leading ++ (block.text ++ rest)) = readBlocks (blocks.note block) rest := by
  obtain ⟨before, name, gap, inside⟩ := block
  obtain ⟨beforeTrivia, blank, text⟩ := wellFormed
  have shape : Block.text ⟨before, name, gap, inside⟩ ++ rest =
      before ++ (name.keyword.toList ++ (gap ++ '\x7b' :: (inside ++ '\x7d' :: rest))) := by
    simp [Block.text]
  have start : blockStart? (skipTrivia (leading ++ (before ++
      (name.keyword.toList ++ (gap ++ '\x7b' :: (inside ++ '\x7d' :: rest)))))) =
      some (name, inside ++ '\x7d' :: rest) := by
    rw [skip_trivia_append leading _ trivia, skip_trivia_append before _ beforeTrivia,
      skip_trivia_keyword, block_start_written name gap _ blank]
  have ending := block_end_exact name.hasSqlComments inside rest text
  have free : (blocks.get? name).isNone = true := by rw [absent]; rfl
  rw [shape, readBlocks]
  simp only [start, ending, free, dif_pos]
  rfl

theorem read_blocks (blocks : Blocks) (written : List Block) (leading rest : List Char)
    (trivia : Trivia leading) (wellFormed : ∀ block ∈ written, block.WellFormed)
    (once : (written.map Block.name).Nodup)
    (absent : ∀ block ∈ written, blocks.get? block.name = none)
    (stops : blockStart? (skipTrivia rest) = none) :
    readBlocks blocks (leading ++ (written.flatMap Block.text ++ rest)) =
      .ok (written.foldl Blocks.note blocks, if written = [] then leading ++ rest else rest) := by
  induction written generalizing blocks leading with
  | nil =>
      rw [List.flatMap_nil, List.nil_append, readBlocks, skip_trivia_append leading _ trivia, stops]
      rfl
  | cons block written ih =>
      obtain ⟨other, once⟩ := List.nodup_cons.mp once
      obtain ⟨first, wellFormed⟩ := List.forall_mem_cons.mp wellFormed
      obtain ⟨free, absent⟩ := List.forall_mem_cons.mp absent
      have still : ∀ later ∈ written, (blocks.note block).get? later.name = none := by
        intro later member
        rw [Blocks.note, blocks_get_set, if_neg (later_name_ne block later written other member),
          absent later member]
      have onward := ih (blocks.note block) [] .none wellFormed once still
      rw [List.flatMap_cons, List.append_assoc, read_block blocks leading _ block trivia first free]
      simpa using onward

theorem noted_get (blocks : Blocks) (written : List Block) (once : (written.map Block.name).Nodup)
    (name : BlockName) :
    (written.foldl Blocks.note blocks).get? name =
      ((written.find? (·.name = name)).map fun block => String.ofList block.inside).or
        (blocks.get? name) := by
  induction written generalizing blocks with
  | nil => rfl
  | cons block written ih =>
      obtain ⟨other, once⟩ := List.nodup_cons.mp once
      rw [List.foldl_cons, ih (blocks.note block) once, Blocks.note, blocks_get_set]
      by_cases same : block.name = name
      · subst same
        have absent : written.find? (·.name = block.name) = none := by
          rw [List.find?_eq_none]
          intro later member
          simpa using later_name_ne block later written other member
        simp [absent]
      · simp [same, Ne.symm same]

structure Layout where
  leading : List Char
  blocks : List Block
  rest : List Char

namespace Layout

def text (layout : Layout) : String :=
  String.ofList (layout.leading ++ (layout.blocks.flatMap Block.text ++ layout.rest))

structure WellFormed (layout : Layout) : Prop where
  leading : Trivia layout.leading
  blocks : ∀ block ∈ layout.blocks, block.WellFormed
  once : (layout.blocks.map Block.name).Nodup
  rest : ∀ trivia after, Trivia trivia → layout.rest = trivia ++ after → ¬ OpensBlock after

def inside? (layout : Layout) (name : BlockName) : Option String :=
  (layout.blocks.find? (·.name = name)).map fun block => String.ofList block.inside

-- Trivia is skipped on the way to a block only. Without one it is part of the body.
def body (layout : Layout) : List Char :=
  if layout.blocks = [] then layout.leading ++ layout.rest else layout.rest

def hooked (layout : Layout) : Bool :=
  (layout.inside? .preOperations).isSome || (layout.inside? .postOperations).isSome

def config (path : String) (layout : Layout) : Except Error ConfigBlock.Noted :=
  match layout.inside? .config with
  | none => .ok {}
  | some text => ConfigBlock.ofText path text

def definition (path : String) (layout : Layout) (noted : ConfigBlock.Noted) : Definition where
  path
  config := noted.config
  warnings := noted.warnings
  preOperations := (layout.inside? .preOperations).map Text.trim
  postOperations := (layout.inside? .postOperations).map Text.trim
  body := String.ofList (Text.trimChars layout.body)

end Layout

theorem read_layout (layout : Layout) (wellFormed : layout.WellFormed) :
    ∃ blocks, readBlocks {} layout.text.toList = .ok (blocks, layout.body) ∧
      ∀ name, blocks.get? name = layout.inside? name := by
  refine ⟨layout.blocks.foldl Blocks.note {}, ?_, fun name => ?_⟩
  · rw [Layout.text, String.toList_ofList]
    exact read_blocks {} layout.blocks layout.leading layout.rest wellFormed.leading
      wellFormed.blocks wellFormed.once (fun block _ => by cases block.name <;> rfl)
      ((block_start_none_iff layout.rest).mpr wellFormed.rest)
  · have empty : ({} : Blocks).get? name = none := by cases name <;> rfl
    rw [noted_get {} layout.blocks wellFormed.once name, empty, Option.or_none]
    rfl

theorem of_text_layout (path : String) (layout : Layout) (wellFormed : layout.WellFormed) :
    ofText path layout.text = (layout.config path).bind fun noted =>
      if layout.hooked && noted.config.tableType?.isNone then
        .error (.invalidDefinition path .hooksNotAllowed)
      else .ok (layout.definition path noted) := by
  obtain ⟨blocks, read, inside⟩ := read_layout layout wellFormed
  have config : blocks.config = layout.inside? .config := inside .config
  have preOperations : blocks.preOperations = layout.inside? .preOperations :=
    inside .preOperations
  have postOperations : blocks.postOperations = layout.inside? .postOperations :=
    inside .postOperations
  rw [ofText, read]
  simp only [Except.mapError, bind, Except.bind, config, preOperations, postOperations,
    Layout.config]
  cases layout.inside? .config <;> rfl

theorem layout_read_back (path : String) (layout : Layout) (wellFormed : layout.WellFormed) :
    (∀ noted, layout.config path = .ok noted →
      (layout.hooked = true → noted.config.tableType?.isSome = true) →
      ofText path layout.text = .ok (layout.definition path noted)) ∧
    (∀ noted, layout.config path = .ok noted → layout.hooked = true →
      noted.config.tableType? = none →
      ofText path layout.text = .error (.invalidDefinition path .hooksNotAllowed)) ∧
    ∀ refusal, layout.config path = .error refusal → ofText path layout.text = .error refusal := by
  have read := of_text_layout path layout wellFormed
  refine ⟨fun noted accepted table => ?_, fun noted accepted hooked missing => ?_,
    fun refusal refused => ?_⟩
  · rw [read, accepted]
    refine if_neg fun misplaced => ?_
    obtain ⟨hooked, missing⟩ := Bool.and_eq_true_iff.mp misplaced
    rw [Option.isNone_iff_eq_none] at missing
    have present := table hooked
    rw [missing] at present
    cases present
  · rw [read, accepted]
    exact if_pos (by rw [hooked, missing]; rfl)
  · rw [read, refused]
    rfl

-- Without a block the leading comment is part of what is read as the body.
theorem leading_comment_stays : ¬ ∀ (path : String) (layout : Layout) (definition : Definition),
    layout.WellFormed → ofText path layout.text = .ok definition →
      definition.body = String.ofList (Text.trimChars layout.rest) := by
  intro trailing
  let layout : Layout := ⟨"-- daily\n".toList, [], "select 1".toList⟩
  have wellFormed : layout.WellFormed := {
    leading := @Trivia.dashComment " daily".toList [] (by decide) .none
    blocks := by simp [layout]
    once := List.nodup_nil
    rest := (block_start_none_iff _).mp (by decide +kernel) }
  have body := trailing "definitions/daily.sqlx" layout _ wellFormed
    (of_text_layout _ layout wellFormed)
  exact absurd body (by decide +kernel)

def hourly : Layout where
  leading := "-- hourly\n".toList
  blocks := [⟨[], .config, " ".toList, " type: table ".toList⟩,
    ⟨"\n".toList, .preOperations, [], "select '\x7d'".toList⟩]
  rest := "\nselect 1".toList

theorem layout_read_back_hourly : hourly.WellFormed ∧
    ofText "definitions/hourly.sqlx" hourly.text = .ok {
      path := "definitions/hourly.sqlx"
      config := .table .table {} {} []
      preOperations := some "select '\x7d'"
      body := "select 1" } := by
  have config : Block.WellFormed ⟨[], .config, " ".toList, " type: table ".toList⟩ := {
    trivia := .none
    gap := List.all_eq_true.mp (by decide)
    inside := block_text_plain false false " type: table ".toList [] (by decide) fun _ => .done }
  have brace : Quoted '\'' ['\x7d', '\''] := .plain (by decide) (by decide) .close
  have preOperations :
      Block.WellFormed ⟨"\n".toList, .preOperations, [], "select '\x7d'".toList⟩ := {
    trivia := .blank rfl .none
    gap := by simp
    inside := block_text_plain true false "select ".toList "'\x7d'".toList (by decide) fun _ =>
      .quoted rfl brace .done }
  have wellFormed : hourly.WellFormed := {
    leading := @Trivia.dashComment " hourly".toList [] (by decide) .none
    blocks := List.forall_mem_cons.mpr ⟨config, List.forall_mem_singleton.mpr preOperations⟩
    once := by decide
    rest := (block_start_none_iff _).mp (by decide +kernel) }
  have noted : hourly.config "definitions/hourly.sqlx" =
      .ok { config := .table .table {} {} [] } := by decide +kernel
  have same : hourly.definition "definitions/hourly.sqlx" { config := .table .table {} {} [] } = {
      path := "definitions/hourly.sqlx"
      config := .table .table {} {} []
      preOperations := some "select '\x7d'"
      body := "select 1" } := by decide +kernel
  exact ⟨wellFormed, same ▸ (layout_read_back _ hourly wellFormed).1 _ noted fun _ => rfl⟩

end SqlWorkflow.Definition
