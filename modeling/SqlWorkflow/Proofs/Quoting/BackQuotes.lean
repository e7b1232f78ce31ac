import SqlWorkflow.Proofs.Quoting

-- Quoting puts a backslash before each back quote of a name but leaves its backslashes as they are,
-- so one of these can take the back quote that should close the identifier.
namespace SqlWorkflow.Warehouse

-- An identifier behind its opening back quote, and what follows it. A backslash takes the next
-- character as it is, and the first back quote that is not taken is the closing one.
def readEscaped : List Char → Option (List Char × List Char)
  | [] => none
  | '\\' :: [] => none
  | '\\' :: c :: rest => (readEscaped rest).map fun read => (c :: read.1, read.2)
  | '\x60' :: rest => some ([], rest)
  | c :: rest => (readEscaped rest).map fun read => (c :: read.1, read.2)

def readBackQuoted : List Char → Option (List Char × List Char)
  | '\x60' :: inner => readEscaped inner
  | _ => none

theorem read_escaped_taken (c : Char) (rest : List Char) :
    readEscaped ('\\' :: c :: rest) = (readEscaped rest).map fun read => (c :: read.1, read.2) := by
  rw [readEscaped]

theorem read_escaped_end (rest : List Char) : readEscaped ('\x60' :: rest) = some ([], rest) := by
  rw [readEscaped]

theorem read_escaped_plain (c : Char) (rest : List Char) (noQuote : c ≠ '\x60')
    (noSlash : c ≠ '\\') :
    readEscaped (c :: rest) = (readEscaped rest).map fun read => (c :: read.1, read.2) := by
  rw [readEscaped]
  · intro slash
    exact absurd slash noSlash
  · exact fun _ _ slash => absurd slash noSlash
  · exact noQuote

def closed (name rest : List Char) : List Char :=
  escaped name ++ '\x60' :: rest

theorem closed_quote (name rest : List Char) :
    closed ('\x60' :: name) rest = '\\' :: '\x60' :: closed name rest := by
  rw [closed, escaped_cons, if_pos rfl]
  rfl

theorem closed_other (c : Char) (name rest : List Char) (noQuote : c ≠ '\x60') :
    closed (c :: name) rest = c :: closed name rest := by
  rw [closed, escaped_cons, if_neg noQuote]
  rfl

theorem quote_back_closed (name rest : List Char) :
    quoteBack name ++ rest = '\x60' :: closed name rest := by
  simp [quoteBack, closed, escaped]

def backslashes (text : List Char) : Nat :=
  (text.reverse.takeWhile (· == '\\')).length

theorem backslashes_concat (text : List Char) (c : Char) :
    backslashes (text ++ [c]) = if c = '\\' then backslashes text + 1 else 0 := by
  by_cases slash : c = '\\'
  · simp [backslashes, slash]
  · simp [backslashes, slash]

-- Whether the backslashes before each back quote of a text, and before its end, come in pairs. Some
-- of them may stand in front of the text.
def PairedBehind (before text : List Char) : Prop :=
  ∀ front back, text = front ++ back → back = [] ∨ back.head? = some '\x60' →
    backslashes (before ++ front) % 2 = 0

theorem paired_nil (before : List Char) :
    PairedBehind before [] ↔ backslashes before % 2 = 0 := by
  constructor
  · intro paired
    have here := paired [] [] rfl (.inl rfl)
    rwa [List.append_nil] at here
  · intro even front back split _
    obtain ⟨rfl, rfl⟩ := List.append_eq_nil_iff.mp split.symm
    rwa [List.append_nil]

theorem paired_cons (before text : List Char) (c : Char) :
    PairedBehind before (c :: text) ↔
      (c = '\x60' → backslashes before % 2 = 0) ∧ PairedBehind (before ++ [c]) text := by
  constructor
  · intro paired
    constructor
    · intro quote
      have here := paired [] (c :: text) rfl (.inr (by rw [quote]; rfl))
      rwa [List.append_nil] at here
    · intro front back split ends
      have later := paired (c :: front) back (by rw [split]; rfl) ends
      rwa [List.append_assoc]
  · intro paired front back split ends
    cases front with
    | nil =>
        rw [List.append_nil]
        refine paired.1 ?_
        rw [← show c :: text = back from split] at ends
        simpa using ends
    | cons d front =>
        obtain ⟨rfl, rest⟩ := List.cons.inj split
        have later := paired.2 front back rest ends
        rwa [List.append_assoc] at later

def EndsLast (text : List Char) : Prop :=
  ∃ name, readEscaped text = some (name, [])

theorem ends_last_map (text rest : List Char) (c : Char)
    (read : readEscaped text = (readEscaped rest).map fun read => (c :: read.1, read.2)) :
    EndsLast text ↔ EndsLast rest := by
  constructor
  · intro ends
    obtain ⟨name, found⟩ := ends
    rw [read] at found
    obtain ⟨⟨inner, after⟩, onward, same⟩ := Option.map_eq_some_iff.mp found
    obtain rfl := (Prod.mk.inj same).2
    exact ⟨inner, onward⟩
  · intro ends
    obtain ⟨name, found⟩ := ends
    exact ⟨c :: name, by rw [read, found]; rfl⟩

theorem ends_last_quote (rest : List Char) : EndsLast ('\x60' :: rest) ↔ rest = [] := by
  constructor
  · intro ends
    obtain ⟨name, found⟩ := ends
    rw [read_escaped_end] at found
    exact (Prod.mk.inj (Option.some.inj found)).2
  · rintro rfl
    exact ⟨[], read_escaped_end []⟩

def unpaired (before : List Char) : List Char :=
  if backslashes before % 2 = 0 then [] else ['\\']

theorem unpaired_slash (before : List Char) (even : backslashes before % 2 = 0) :
    unpaired (before ++ ['\\']) = ['\\'] := by
  rw [unpaired, backslashes_concat, if_pos rfl, if_neg (by omega)]

theorem unpaired_settled (before : List Char) (c : Char)
    (settles : c ≠ '\\' ∨ backslashes before % 2 ≠ 0) : unpaired (before ++ [c]) = [] := by
  rw [unpaired, backslashes_concat]
  split
  · rename_i slash
    have odd := settles.resolve_left (absurd slash)
    exact if_pos (by omega)
  · rfl

-- One character of the name. The reader is inside of a pair exactly when the number of backslashes in
-- front of the character is odd, and then a back quote cannot be escaped.
theorem ends_last_step (before name : List Char) (c : Char) :
    EndsLast (unpaired before ++ closed (c :: name) []) ↔
      (c = '\x60' → backslashes before % 2 = 0) ∧
        EndsLast (unpaired (before ++ [c]) ++ closed name []) := by
  by_cases even : backslashes before % 2 = 0
  · rw [and_iff_right fun _ => even, unpaired, if_pos even]
    by_cases quote : c = '\x60'
    · rw [unpaired_settled before c (.inl (by simp [quote])), quote, closed_quote]
      exact ends_last_map _ _ _ (read_escaped_taken _ _)
    · rw [closed_other _ _ _ quote]
      by_cases slash : c = '\\'
      · rw [slash, unpaired_slash before even]
        rfl
      · rw [unpaired_settled before c (.inl slash)]
        exact ends_last_map _ _ _ (read_escaped_plain _ _ quote slash)
  · rw [unpaired, if_neg even, unpaired_settled before c (.inr even)]
    by_cases quote : c = '\x60'
    · refine iff_of_false ?_ fun both => even (both.1 quote)
      rw [quote, closed_quote]
      intro ends
      have early := (ends_last_map _ _ _ (read_escaped_taken _ _)).mp ends
      have ended := (ends_last_quote _).mp early
      simp [closed] at ended
    · rw [and_iff_right fun same => absurd same quote, closed_other _ _ _ quote]
      exact ends_last_map _ _ _ (read_escaped_taken _ _)

theorem ends_last_iff (before name : List Char) :
    EndsLast (unpaired before ++ closed name []) ↔ PairedBehind before name := by
  induction name generalizing before with
  | nil =>
      rw [paired_nil]
      by_cases even : backslashes before % 2 = 0
      · rw [unpaired, if_pos even]
        exact iff_of_true ((ends_last_quote []).mpr rfl) even
      · rw [unpaired, if_neg even]
        refine iff_of_false ?_ even
        intro ends
        obtain ⟨_, read⟩ := (ends_last_map ['\\', '\x60'] [] '\x60' rfl).mp ends
        cases read
  | cons c name ih => rw [paired_cons, ends_last_step, ih]

theorem read_closed (name rest : List Char) (plain : '\\' ∉ name) :
    readEscaped (closed name rest) = some (name, rest) := by
  induction name with
  | nil => exact read_escaped_end rest
  | cons c name ih =>
      obtain ⟨noSlash, others⟩ : '\\' ≠ c ∧ '\\' ∉ name := by simpa using plain
      by_cases quote : c = '\x60'
      · rw [quote, closed_quote, read_escaped_taken, ih others]
        rfl
      · rw [closed_other _ _ _ quote, read_escaped_plain _ _ quote (Ne.symm noSlash), ih others]
        rfl

theorem read_closed_length (name : List Char) :
    (∀ read, readEscaped (closed name []) = some read → read.1.length ≤ name.length) ∧
    ∀ read, readEscaped ('\\' :: closed name []) = some read → read.1.length ≤ name.length := by
  have longer (text rest : List Char) (c d : Char) (name : List Char)
      (step : readEscaped text = (readEscaped rest).map fun read => (c :: read.1, read.2))
      (short : ∀ read, readEscaped rest = some read → read.1.length ≤ name.length) :
      ∀ read, readEscaped text = some read → read.1.length ≤ (d :: name).length := by
    intro read found
    rw [step] at found
    obtain ⟨inner, onward, rfl⟩ := Option.map_eq_some_iff.mp found
    exact Nat.succ_le_succ (short inner onward)
  induction name with
  | nil =>
      constructor
      · intro read found
        cases (read_escaped_end []).symm.trans found
        exact Nat.le_refl 0
      · intro read found
        cases (read_escaped_taken '\x60' []).symm.trans found
  | cons c name ih =>
      by_cases quote : c = '\x60'
      · rw [quote, closed_quote]
        constructor
        · exact longer _ _ _ _ name (read_escaped_taken _ _) ih.1
        · intro read found
          rw [read_escaped_taken, read_escaped_end] at found
          cases found
          simp
      · rw [closed_other _ _ _ quote]
        constructor
        · by_cases slash : c = '\\'
          · rw [slash]
            intro read found
            exact Nat.le_trans (ih.2 read found) (Nat.le_succ _)
          · exact longer _ _ _ _ name (read_escaped_plain _ _ quote slash) ih.1
        · exact longer _ _ _ _ name (read_escaped_taken _ _) ih.1

-- A backslash of the name is not read, so the name that is read is shorter.
theorem read_closed_shorter (name : List Char) (slash : '\\' ∈ name) (read : List Char × List Char)
    (found : readEscaped (closed name []) = some read) : read.1.length < name.length := by
  induction name generalizing read with
  | nil => cases slash
  | cons c name ih =>
      by_cases first : c = '\\'
      · subst first
        exact Nat.lt_succ_of_le ((read_closed_length name).2 read found)
      · have later : '\\' ∈ name := by simpa [Ne.symm first] using slash
        obtain ⟨inner, onward, rfl⟩ : ∃ inner, readEscaped (closed name []) = some inner ∧
            (c :: inner.1, inner.2) = read := by
          by_cases quote : c = '\x60'
          · rw [quote, closed_quote, read_escaped_taken] at found
            rw [quote]
            exact Option.map_eq_some_iff.mp found
          · rw [closed_other _ _ _ quote, read_escaped_plain _ _ quote first] at found
            exact Option.map_eq_some_iff.mp found
        exact Nat.succ_lt_succ (ih later inner onward)

theorem read_closed_iff (name : List Char) :
    readEscaped (closed name []) = some (name, []) ↔ '\\' ∉ name := by
  constructor
  · intro found slash
    exact absurd (read_closed_shorter name slash _ found) (Nat.lt_irrefl _)
  · exact read_closed name []

theorem mem_display (target : Target) (c : Char) (noDot : c ≠ '.') :
    c ∈ target.display.toList ↔ ∃ part ∈ target.parts, c ∈ part.toList := by
  obtain ⟨database, schema, name⟩ := target
  cases database <;> simp [Target.display, Target.parts, Text.join, Text.joinWith, noDot]

theorem quoted_closed (target : Target) (rest : List Char) :
    readBackQuoted ((bigQuery.quote target).toList ++ rest) =
      readEscaped (closed target.display.toList rest) := by
  rw [quote, String.toList_ofList, quote_back_closed]
  rfl

theorem reads_display_iff (target : Target) :
    readBackQuoted (bigQuery.quote target).toList = some (target.display.toList, []) ↔
      ∀ part ∈ target.parts, '\\' ∉ part.toList := by
  have read := quoted_closed target []
  rw [List.append_nil] at read
  rw [read, read_closed_iff, mem_display target '\\' (by decide)]
  simp only [not_exists, not_and]

theorem ends_display_iff (target : Target) :
    (∃ name, readBackQuoted (bigQuery.quote target).toList = some (name, [])) ↔
      PairedBehind [] target.display.toList := by
  have read := quoted_closed target []
  rw [List.append_nil] at read
  rw [read]
  exact ends_last_iff [] target.display.toList

theorem reads_display_within_iff (target : Target) :
    (∀ rest, readBackQuoted ((bigQuery.quote target).toList ++ rest) =
        some (target.display.toList, rest)) ↔
      ∀ part ∈ target.parts, '\\' ∉ part.toList := by
  constructor
  · intro read
    have alone := read []
    rw [List.append_nil] at alone
    exact (reads_display_iff target).mp alone
  · intro plain rest
    rw [quoted_closed]
    refine read_closed _ rest fun slash => ?_
    obtain ⟨part, member, inside⟩ := (mem_display target '\\' (by decide)).mp slash
    exact plain part member inside

-- The quoted name of a target is one identifier that denotes the dotted name, alone and in front of
-- any text, exactly when no part has a backslash; it ends at the closing quote exactly when the
-- backslashes before each back quote and at the end come in pairs.
theorem back_quoting_read (target : Target) :
    (readBackQuoted (bigQuery.quote target).toList = some (target.display.toList, []) ↔
      ∀ part ∈ target.parts, '\\' ∉ part.toList) ∧
    ((∀ rest, readBackQuoted ((bigQuery.quote target).toList ++ rest) =
        some (target.display.toList, rest)) ↔
      ∀ part ∈ target.parts, '\\' ∉ part.toList) ∧
    ((∃ name, readBackQuoted (bigQuery.quote target).toList = some (name, [])) ↔
      PairedBehind [] target.display.toList) :=
  ⟨reads_display_iff target, reads_display_within_iff target, ends_display_iff target⟩

-- The closing back quote is taken by the backslash before it.
theorem last_backslash_unclosed :
    readBackQuoted (bigQuery.quote ⟨none, "raw", "events\\"⟩).toList = none ∧
      ¬ ∀ target : Target, readBackQuoted (bigQuery.quote target).toList =
        some (target.display.toList, []) := by
  have unclosed : readBackQuoted (bigQuery.quote ⟨none, "raw", "events\\"⟩).toList = none := by
    decide
  refine ⟨unclosed, fun all => ?_⟩
  cases unclosed.symm.trans (all ⟨none, "raw", "events\\"⟩)

end SqlWorkflow.Warehouse
