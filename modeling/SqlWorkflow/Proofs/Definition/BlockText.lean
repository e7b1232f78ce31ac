import SqlWorkflow.Definition

namespace SqlWorkflow.Definition

-- A quoted string after its opening quote, up to and with its closing one. A backslash takes the
-- next character as it is.
inductive Quoted (quote : Char) : List Char → Prop where
  | close : Quoted quote [quote]
  | escape {c : Char} {rest : List Char} (more : Quoted quote rest) :
      Quoted quote ('\\' :: c :: rest)
  | plain {c : Char} {rest : List Char} (open' : c ≠ quote) (unescaped : c ≠ '\\')
      (more : Quoted quote rest) : Quoted quote (c :: rest)

def opensComment (sqlComments afterBlank : Bool) (c : Char) (next : Option Char) : Bool :=
  if sqlComments then (c == '-' && next == some '-') || (c == '/' && next == some '*')
  else c == '#' && afterBlank

structure Ordinary (sqlComments afterBlank : Bool) (c : Char) (next : Option Char) : Prop where
  noQuote : isQuote c = false
  noOpening : c ≠ '\x7b'
  noClosing : c ≠ '\x7d'
  noComment : opensComment sqlComments afterBlank c next = false

def Unclosed (comment : List Char) : Prop :=
  ¬ ['*', '/'] <:+: comment

-- The text inside a block. The flag tells whether a blank stands before it.
inductive BlockText (sqlComments : Bool) : Bool → List Char → Prop where
  | done {afterBlank : Bool} : BlockText sqlComments afterBlank []
  | ordinary {afterBlank : Bool} {c : Char} {rest : List Char}
      (ordinary : Ordinary sqlComments afterBlank c rest.head?)
      (more : BlockText sqlComments (Text.isBlank c) rest) :
      BlockText sqlComments afterBlank (c :: rest)
  | quoted {afterBlank : Bool} {quote : Char} {body rest : List Char}
      (opening : isQuote quote = true) (string : Quoted quote body)
      (more : BlockText sqlComments false rest) :
      BlockText sqlComments afterBlank (quote :: (body ++ rest))
  | nested {afterBlank : Bool} {inner rest : List Char}
      (within : BlockText sqlComments false inner) (more : BlockText sqlComments false rest) :
      BlockText sqlComments afterBlank ('\x7b' :: (inner ++ '\x7d' :: rest))
  | signComment {comment rest : List Char} (style : sqlComments = false) (line : '\n' ∉ comment)
      (more : BlockText sqlComments true rest) :
      BlockText sqlComments true ('#' :: (comment ++ '\n' :: rest))
  | dashComment {afterBlank : Bool} {comment rest : List Char} (style : sqlComments = true)
      (line : '\n' ∉ comment) (more : BlockText sqlComments true rest) :
      BlockText sqlComments afterBlank ('-' :: '-' :: (comment ++ '\n' :: rest))
  | starComment {afterBlank : Bool} {comment rest : List Char} (style : sqlComments = true)
      (unclosed : Unclosed comment) (more : BlockText sqlComments true rest) :
      BlockText sqlComments afterBlank ('/' :: '*' :: (comment ++ '*' :: '/' :: rest))

def isPlain (c : Char) : Bool :=
  !(isQuote c || c == '\x7b' || c == '\x7d' || c == '#' || c == '-' || c == '/')

theorem ordinary_of_plain (sqlComments afterBlank : Bool) (c : Char) (next : Option Char)
    (plain : isPlain c = true) : Ordinary sqlComments afterBlank c next := by
  simp only [isPlain, Bool.not_eq_true', Bool.or_eq_false_iff, beq_eq_false_iff_ne] at plain
  obtain ⟨⟨⟨⟨⟨noQuote, noOpening⟩, noClosing⟩, noSign⟩, noDash⟩, noSlash⟩ := plain
  refine ⟨noQuote, noOpening, noClosing, ?_⟩
  cases sqlComments <;> simp [opensComment, noSign, noDash, noSlash]

theorem block_text_plain (sqlComments afterBlank : Bool) (plain rest : List Char)
    (allPlain : plain.all isPlain = true) (more : ∀ blank, BlockText sqlComments blank rest) :
    BlockText sqlComments afterBlank (plain ++ rest) := by
  induction plain generalizing afterBlank with
  | nil => exact more afterBlank
  | cons c plain ih =>
      obtain ⟨first, allPlain⟩ := Bool.and_eq_true_iff.mp (List.all_cons.symm.trans allPlain)
      exact .ordinary (ordinary_of_plain sqlComments afterBlank c _ first) (ih _ allPlain)

section Scanner

variable (sqlComments : Bool) (depth : Nat)

def after (text : List Char) (found : Option (List Char × List Char)) :
    Option (List Char × List Char) :=
  found.map fun parts => (text ++ parts.1, parts.2)

theorem after_nil (found : Option (List Char × List Char)) : after [] found = found := by
  cases found <;> rfl

@[simp]
theorem after_after (a b : List Char) (found : Option (List Char × List Char)) :
    after a (after b found) = after (a ++ b) found := by
  cases found <;> simp [after]

theorem block_end_code (afterBlank : Bool) (c : Char) (rest : List Char) (noOpening : c ≠ '\x7b')
    (noClosing : c ≠ '\x7d') :
    blockEnd? sqlComments depth (.code afterBlank) (c :: rest) =
      after [c] (blockEnd? sqlComments depth
        (placeAfter sqlComments afterBlank c rest.head?) rest) :=
  (if_neg noOpening).trans (if_neg noClosing)

theorem block_end_opening (afterBlank : Bool) (rest : List Char) :
    blockEnd? sqlComments depth (.code afterBlank) ('\x7b' :: rest) =
      after ['\x7b'] (blockEnd? sqlComments (depth + 1) (.code false) rest) :=
  rfl

theorem block_end_nested (afterBlank : Bool) (rest : List Char) :
    blockEnd? sqlComments (depth + 1) (.code afterBlank) ('\x7d' :: rest) =
      after ['\x7d'] (blockEnd? sqlComments depth (.code false) rest) :=
  rfl

theorem block_end_closing (afterBlank : Bool) (rest : List Char) :
    blockEnd? sqlComments depth (.code afterBlank) ('\x7d' :: rest) =
      blockEnd? sqlComments depth (.code false) ('\x7d' :: rest) := by
  cases depth with
  | zero => rfl
  | succ depth => rw [block_end_nested, block_end_nested]

def placeInQuotes (quote c : Char) : Place :=
  if c = '\\' then .escaped quote else if c = quote then .code false else .quoted quote

theorem block_end_in_quotes (quote c : Char) (rest : List Char) :
    blockEnd? sqlComments depth (.quoted quote) (c :: rest) =
      after [c] (blockEnd? sqlComments depth (placeInQuotes quote c) rest) := by
  rw [blockEnd?, placeInQuotes]
  dsimp only
  split
  · rfl
  · split <;> rfl

theorem block_end_escaped (quote c : Char) (rest : List Char) :
    blockEnd? sqlComments depth (.escaped quote) (c :: rest) =
      after [c] (blockEnd? sqlComments depth (.quoted quote) rest) :=
  rfl

theorem block_end_in_line (c : Char) (rest : List Char) :
    blockEnd? sqlComments depth .lineComment (c :: rest) =
      after [c] (blockEnd? sqlComments depth (if c = '\n' then .code true else .lineComment) rest) :=
  rfl

theorem place_after_ordinary (afterBlank : Bool) (c : Char) (next : Option Char)
    (ordinary : Ordinary sqlComments afterBlank c next) :
    placeAfter sqlComments afterBlank c next = .code (Text.isBlank c) := by
  have noQuote := ordinary.noQuote
  have noComment := ordinary.noComment
  cases sqlComments with
  | false => simp_all [placeAfter, opensComment]
  | true =>
      obtain ⟨noDashes, noStar⟩ : ¬(c = '-' ∧ next = some '-') ∧ ¬(c = '/' ∧ next = some '*') := by
        simpa [opensComment] using noComment
      simp [placeAfter, noQuote, noDashes, noStar]

theorem place_after_quote (afterBlank : Bool) (quote : Char) (next : Option Char)
    (opening : isQuote quote = true) :
    placeAfter sqlComments afterBlank quote next = .quoted quote := by
  simp only [isQuote, Bool.or_eq_true, beq_iff_eq] at opening
  rcases opening with (rfl | rfl) | rfl <;> simp [placeAfter, isQuote]

theorem quote_is_proper (quote : Char) (opening : isQuote quote = true) :
    quote ≠ '\x7b' ∧ quote ≠ '\x7d' ∧ quote ≠ '\\' := by
  simp only [isQuote, Bool.or_eq_true, beq_iff_eq] at opening
  rcases opening with (rfl | rfl) | rfl <;> decide

theorem block_end_quoted (quote : Char) (body rest : List Char) (string : Quoted quote body)
    (proper : quote ≠ '\\') :
    blockEnd? sqlComments depth (.quoted quote) (body ++ rest) =
      after body (blockEnd? sqlComments depth (.code false) rest) := by
  induction string with
  | close =>
      rw [List.singleton_append, blockEnd?]
      dsimp only
      rw [if_neg proper, if_pos rfl]
      rfl
  | @escape c body _ ih =>
      rw [List.cons_append, List.cons_append, blockEnd?]
      dsimp only
      rw [if_pos rfl, blockEnd?]
      dsimp only
      rw [ih]
      exact (congrArg (after ['\\']) (after_after [c] body _)).trans (after_after _ _ _)
  | @plain c body different unescaped _ ih =>
      rw [List.cons_append, blockEnd?]
      dsimp only
      rw [if_neg unescaped, if_neg different, ih]
      exact after_after [_] _ _

theorem block_end_line (comment rest : List Char) (line : '\n' ∉ comment) :
    blockEnd? sqlComments depth .lineComment (comment ++ '\n' :: rest) =
      after (comment ++ ['\n']) (blockEnd? sqlComments depth (.code true) rest) := by
  induction comment with
  | nil =>
      rw [List.nil_append, blockEnd?]
      rfl
  | cons c comment ih =>
      obtain ⟨different, later⟩ : c ≠ '\n' ∧ '\n' ∉ comment := by
        simpa [eq_comm] using line
      rw [List.cons_append, blockEnd?]
      dsimp only
      rw [if_neg different, ih later]
      exact after_after [_] _ _

-- After a star the comment goes on unless a slash follows.
theorem block_end_comment (comment rest : List Char) (afterStar : Bool)
    (unclosed : Unclosed (if afterStar then '*' :: comment else comment)) :
    blockEnd? sqlComments depth (.blockComment afterStar) (comment ++ '*' :: '/' :: rest) =
      after (comment ++ ['*', '/']) (blockEnd? sqlComments depth (.code true) rest) := by
  induction comment generalizing afterStar with
  | nil =>
      rw [List.nil_append, blockEnd?]
      dsimp only
      rw [if_neg (by simp), blockEnd?]
      exact after_after ['*'] ['/'] _
  | cons c comment ih =>
      have goesOn : ¬ (afterStar && c == '/') = true := by
        intro ends
        obtain ⟨rfl, rfl⟩ : afterStar = true ∧ c = '/' := by simpa using ends
        exact unclosed ⟨[], comment, rfl⟩
      have later : Unclosed (if (c == '*') = true then '*' :: comment else comment) := by
        refine fun found => unclosed (found.trans (List.IsSuffix.isInfix ?_))
        by_cases star : c = '*'
        · subst star
          cases afterStar with
          | false => exact List.suffix_refl _
          | true => exact List.suffix_cons _ _
        · rw [if_neg (by simpa using star)]
          cases afterStar with
          | false => exact List.suffix_cons _ _
          | true => exact (List.suffix_cons _ _).trans (List.suffix_cons _ _)
      rw [List.cons_append, blockEnd?]
      dsimp only
      rw [if_neg goesOn, ih (c == '*') later]
      exact after_after [_] _ _

theorem block_end_text (afterBlank : Bool) (text rest : List Char)
    (wellFormed : BlockText sqlComments afterBlank text) :
    blockEnd? sqlComments depth (.code afterBlank) (text ++ '\x7d' :: rest) =
      after text (blockEnd? sqlComments depth (.code false) ('\x7d' :: rest)) := by
  induction wellFormed generalizing depth rest with
  | done => rw [after_nil]; exact block_end_closing sqlComments depth _ rest
  | @ordinary afterBlank c text ordinary _ ih =>
      -- the brace behind the text starts no comment
      have same : Ordinary sqlComments afterBlank c (text ++ '\x7d' :: rest).head? := by
        cases text with
        | nil =>
            refine { ordinary with noComment := ?_ }
            have noComment := ordinary.noComment
            cases sqlComments with
            | false => exact noComment
            | true => simp [opensComment]
        | cons d text => exact ordinary
      rw [List.cons_append, block_end_code sqlComments depth afterBlank c _ same.noOpening
        same.noClosing, place_after_ordinary sqlComments afterBlank c _ same, ih depth rest,
        after_after]
      rfl
  | @quoted afterBlank quote body text opening string _ ih =>
      have shape : quote :: (body ++ text) ++ '\x7d' :: rest =
          quote :: (body ++ (text ++ '\x7d' :: rest)) := by simp
      obtain ⟨noOpening, noClosing, proper⟩ := quote_is_proper quote opening
      rw [shape, block_end_code sqlComments depth afterBlank quote _ noOpening noClosing,
        place_after_quote sqlComments afterBlank quote _ opening,
        block_end_quoted sqlComments depth quote body _ string proper, ih depth rest]
      simp
  | @nested afterBlank inner text _ _ inside ih =>
      have shape : '\x7b' :: (inner ++ '\x7d' :: text) ++ '\x7d' :: rest =
          '\x7b' :: (inner ++ '\x7d' :: (text ++ '\x7d' :: rest)) := by simp
      rw [shape, block_end_opening, inside (depth + 1) (text ++ '\x7d' :: rest), block_end_nested,
        ih depth rest]
      simp
  | @signComment comment text style line _ ih =>
      subst style
      have shape : '#' :: (comment ++ '\n' :: text) ++ '\x7d' :: rest =
          '#' :: (comment ++ '\n' :: (text ++ '\x7d' :: rest)) := by simp
      have place (next : Option Char) : placeAfter false true '#' next = .lineComment := rfl
      rw [shape, block_end_code _ _ _ _ _ (by decide) (by decide), place,
        block_end_line false depth comment _ line, ih depth rest]
      simp
  | @dashComment afterBlank comment text style line _ ih =>
      subst style
      have shape : '-' :: '-' :: (comment ++ '\n' :: text) ++ '\x7d' :: rest =
          '-' :: (('-' :: comment) ++ '\n' :: (text ++ '\x7d' :: rest)) := by simp
      have place (more : List Char) :
          placeAfter true afterBlank '-' ('-' :: more).head? = .lineComment := rfl
      rw [shape, block_end_code _ _ _ _ _ (by decide) (by decide), List.cons_append, place,
        ← List.cons_append, block_end_line true depth ('-' :: comment) _ (by simpa using line),
        ih depth rest]
      simp
  | @starComment afterBlank comment text style unclosed _ ih =>
      subst style
      have shape : '/' :: '*' :: (comment ++ '*' :: '/' :: text) ++ '\x7d' :: rest =
          '/' :: '*' :: (comment ++ '*' :: '/' :: (text ++ '\x7d' :: rest)) := by simp
      have place (more : List Char) :
          placeAfter true afterBlank '/' ('*' :: more).head? = .commentOpening := rfl
      have star (more : List Char) : blockEnd? true depth .commentOpening ('*' :: more) =
          after ['*'] (blockEnd? true depth (.blockComment false) more) := rfl
      rw [shape, block_end_code _ _ _ _ _ (by decide) (by decide), place, star,
        block_end_comment true depth comment _ false unclosed, ih depth rest]
      simp

theorem block_end_exact (text rest : List Char) (wellFormed : BlockText sqlComments false text) :
    blockEnd? sqlComments 0 (.code false) (text ++ '\x7d' :: rest) = some (text, rest) := by
  rw [block_end_text sqlComments 0 false text rest wellFormed, blockEnd?]
  simp [after]

end Scanner

end SqlWorkflow.Definition
