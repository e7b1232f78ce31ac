import Mathlib.Data.List.TakeWhile
import SqlWorkflow.Proofs.Json
import SqlWorkflow.Proofs.Yaml.Numbers

namespace SqlWorkflow.Json

theorem hex_digit_char : ∀ n < 16, hexDigit? (hexChar n) = some n := by decide

theorem read_control (c : Char) (control : c.toNat < 0x20) (rest : List Char) :
    readEscapedUnit ('0' :: '0' :: hexChar (c.toNat / 16) :: hexChar (c.toNat % 16) :: rest) =
      some (c, rest) := by
  have zero : hexDigit? '0' = some 0 := rfl
  have high := hex_digit_char (c.toNat / 16) (by omega)
  have low := hex_digit_char (c.toNat % 16) (by omega)
  have whole : (0 * 16 + 0) * 256 + (c.toNat / 16 * 16 + c.toNat % 16) = c.toNat := by omega
  have unit : readUnit ('0' :: '0' :: hexChar (c.toNat / 16) :: hexChar (c.toNat % 16) :: rest) =
      some (c.toNat, rest) := by
    simp only [readUnit, zero, high, low, Option.bind_eq_bind, Option.bind_some, whole]
    rfl
  rw [readEscapedUnit, unit, Option.bind_eq_bind, Option.bind_some]
  dsimp only
  rw [if_neg (by omega), if_neg (by omega), Char.ofNat_toNat]
  rfl

theorem read_image (c : Char) (fuel : Nat) (done more : List Char) :
    readString (fuel + 1) done (escapeChar c ++ more) = readString fuel (c :: done) more := by
  unfold escapeChar
  split
  · subst c; rfl
  split
  · subst c; rfl
  split
  · subst c; rfl
  split
  · subst c; rfl
  split
  · subst c; rfl
  split
  · subst c; rfl
  split
  · subst c; rfl
  split
  · rename_i control
    simp only [List.cons_append, List.nil_append, readString, read_control c control]
  · rename_i quote slash _ _ _ _ _ control
    rw [List.singleton_append, readString]
    · rw [if_neg (by simp [control, slash])]
    · exact quote
    · exact fun _ same => absurd same slash
    · exact fun _ _ same => absurd same slash

theorem escape_char_filled (c : Char) : 0 < (escapeChar c).length := by
  unfold escapeChar
  repeat' split
  all_goals simp

theorem read_string_written (text : List Char) (fuel : Nat) (done rest : List Char)
    (enough : (text.flatMap escapeChar).length < fuel) :
    readString fuel done (text.flatMap escapeChar ++ '"' :: rest) =
      some (String.ofList (done.reverse ++ text), rest) := by
  induction text generalizing fuel done with
  | nil =>
      cases fuel with
      | zero => simp at enough
      | succ fuel => simp [readString]
  | cons c text ih =>
      have filled := escape_char_filled c
      rw [List.flatMap_cons, List.length_append] at enough
      cases fuel with
      | zero => omega
      | succ fuel =>
          rw [List.flatMap_cons, List.append_assoc, read_image, ih fuel (c :: done) (by omega)]
          simp

theorem read_quoted (text : String) (rest : List Char) :
    ∃ inside : List Char, (quote text).toList ++ rest = '"' :: inside ∧
      readString (inside.length + 1) [] inside = some (text, rest) := by
  refine ⟨text.toList.flatMap escapeChar ++ '"' :: rest, by simp [quote], ?_⟩
  rw [read_string_written _ _ _ _ (by rw [List.length_append]; omega), List.reverse_nil,
    List.nil_append, String.ofList_toList]

def Ends (rest : List Char) : Prop :=
  ∀ c ∈ rest.head?, isNumberChar c = false

theorem digits_plain (n : Nat) : ∀ c ∈ Nat.toDigits 10 n, c.isDigit = true :=
  fun _ member => Nat.isDigit_of_mem_toDigits (by decide) (by decide) member

theorem of_digits_written (n : Nat) : Decimal.ofDigits (Nat.toDigits 10 n) = n := by
  have same : Decimal.ofDigits (Nat.toDigits 10 n) = Nat.ofDigitChars 10 (Nat.toDigits 10 n) 0 := by
    rw [Decimal.ofDigits, Nat.ofDigitChars]
    simp only [Nat.mul_comm]
  rw [same, Nat.ofDigitChars_toDigits (by decide) (by decide)]

theorem whole_digits (n : Nat) : (Nat.toDigits 10 n).takeWhile Char.isDigit = Nat.toDigits 10 n :=
  List.takeWhile_eq_self_iff.mpr (digits_plain n)

theorem nothing_behind_digits (n : Nat) : (Nat.toDigits 10 n).dropWhile Char.isDigit = [] :=
  List.dropWhile_eq_nil_iff.mpr (digits_plain n)

theorem digits_unpadded (n : Nat) :
    ((Nat.toDigits 10 n).head? == some '0' && 1 < (Nat.toDigits 10 n).length) = false := by
  cases digits : Nat.toDigits 10 n with
  | nil => rfl
  | cons first rest =>
      cases rest with
      | nil => simp
      | cons c rest =>
          have other : first ≠ '0' := fun zero =>
            Yaml.digits_not_padded n c rest (by rw [digits, zero])
          simp [other]

theorem number_digits (n : Nat) (fits : Document.fitsWord n = true) :
    number? (Nat.toDigits 10 n) = some (.int n) := by
  unfold number?
  split
  rename_i sign
  split at sign
  · rename_i minus
    have digit := digits_plain n '-' (by rw [minus]; exact List.mem_cons_self)
    exact absurd digit (by decide)
  · cases sign
    simp [whole_digits, nothing_behind_digits, digits_unpadded, of_digits_written, fits]

theorem number_minus (n : Nat) (positive : n ≠ 0) (fits : Document.fitsWord (-(n : Int)) = true) :
    number? ('-' :: Nat.toDigits 10 n) = some (.int (-n)) := by
  simp [number?, whole_digits, nothing_behind_digits, digits_unpadded, of_digits_written, fits,
    positive]

theorem number_taken (digits rest : List Char) (plain : ∀ c ∈ digits, isNumberChar c = true)
    (ends : Ends rest) :
    (digits ++ rest).takeWhile isNumberChar = digits ∧
      (digits ++ rest).dropWhile isNumberChar = rest := by
  rw [List.takeWhile_append_of_pos plain, List.dropWhile_append_of_pos plain]
  cases rest with
  | nil => simp
  | cons c rest =>
      have other : isNumberChar c = false := ends c rfl
      simp [other]

theorem space_apart (c : Char) (numeric : isNumberChar c = true) : isSpace c = false := by
  by_contra space
  simp only [isSpace, Bool.not_eq_false, Bool.or_eq_true, beq_iff_eq] at space
  rcases space with ((rfl | rfl) | rfl) | rfl
  all_goals revert numeric; decide

theorem read_value_number (fuel depth : Nat) (digits rest : List Char) (filled : digits ≠ [])
    (plain : ∀ c ∈ digits, isNumberChar c = true) (ends : Ends rest) (value : Scalar)
    (number : number? digits = some value) :
    readValue (fuel + 1) depth (digits ++ rest) = word rest (String.ofList digits) value := by
  obtain ⟨taken, left⟩ := number_taken digits rest plain ends
  cases digits with
  | nil => exact absurd rfl filled
  | cons c digits =>
      have numeric := plain c List.mem_cons_self
      have start : skipSpace (c :: digits ++ rest) = c :: digits ++ rest := by
        rw [skipSpace, List.cons_append, List.dropWhile_cons, space_apart c numeric]
        rfl
      unfold readValue
      rw [start]
      split
      case h_1 shape => cases shape
      case h_8 =>
        rw [taken, left]
        dsimp only
        rw [number]
      -- every other value starts with a character of its own
      all_goals
        rename_i shape
        obtain rfl := (List.cons.inj shape).1
        exact absurd numeric (by decide)

theorem skip_space_append (space text : List Char) (blank : ∀ c ∈ space, isSpace c = true) :
    skipSpace (space ++ text) = skipSpace text :=
  List.dropWhile_append_of_pos blank

theorem skip_space_again (text : List Char) : skipSpace (skipSpace text) = skipSpace text := by
  have split : text.takeWhile isSpace ++ skipSpace text = text := List.takeWhile_append_dropWhile
  have skipped := skip_space_append (text.takeWhile isSpace) (skipSpace text)
    fun _ member => List.mem_takeWhile_imp member
  rw [← skipped, split]

theorem read_value_skip (fuel depth : Nat) (text : List Char) :
    readValue fuel depth (skipSpace text) = readValue fuel depth text := by
  cases fuel with
  | zero => rw [readValue, readValue]
  | succ fuel => rw [readValue, readValue, skip_space_again]

theorem read_value_space (fuel depth : Nat) (space text : List Char)
    (blank : ∀ c ∈ space, isSpace c = true) :
    readValue fuel depth (space ++ text) = readValue fuel depth text := by
  rw [← read_value_skip, skip_space_append space text blank, read_value_skip]

theorem read_value_blank (fuel depth : Nat) (text : List Char) :
    readValue fuel depth (' ' :: text) = readValue fuel depth text :=
  read_value_space fuel depth [' '] text (List.forall_mem_singleton.mpr rfl)

theorem read_items_skip (fuel depth : Nat) (text : List Char) :
    readItems fuel depth (skipSpace text) = readItems fuel depth text := by
  cases fuel with
  | zero => rw [readItems, readItems]
  | succ fuel => rw [readItems, readItems, read_value_skip]

theorem read_items_line (fuel depth : Nat) (text : List Char) :
    readItems fuel depth ('\n' :: text) = readItems fuel depth text := by
  rw [← read_items_skip fuel depth text, ← read_items_skip]
  rfl

theorem read_members_skip (fuel depth : Nat) (text : List Char) :
    readMembers fuel depth (skipSpace text) = readMembers fuel depth text := by
  cases fuel with
  | zero => rw [readMembers, readMembers]
  | succ fuel => rw [readMembers, readMembers, skip_space_again]

theorem read_members_line (fuel depth : Nat) (text : List Char) :
    readMembers fuel depth ('\n' :: text) = readMembers fuel depth text := by
  rw [← read_members_skip fuel depth text, ← read_members_skip]
  rfl

theorem indent_blank (level : Nat) : ∀ c ∈ (indent level).toList, isSpace c = true := by
  intro c member
  rw [indent, String.toList_ofList] at member
  obtain rfl := List.eq_of_mem_replicate member
  rfl

-- A value without floats and of numbers that fit a word, which nests at most so deep.
inductive Printable : Nat → Json → Prop where
  | null (depth : Nat) : Printable depth .null
  | bool (depth : Nat) (value : Bool) : Printable depth (.bool value)
  | int (depth : Nat) (value : Int) (fits : Document.fitsWord value = true) :
      Printable depth (.int value)
  | string (depth : Nat) (value : String) : Printable depth (.string value)
  | array (depth : Nat) (items : List Json) (each : ∀ item ∈ items, Printable depth item) :
      Printable (depth + 1) (.array items)
  | object (depth : Nat) (members : List (String × Json))
      (each : ∀ member ∈ members, Printable depth member.2) :
      Printable (depth + 1) (.object members)

def ReadsBack (depth : Nat) (json : Json) : Prop :=
  ∀ level fuel rest, 2 * (json.pretty level).toList.length ≤ fuel → Ends rest →
    ∃ document, readValue (fuel + 1) depth ((json.pretty level).toList ++ rest) =
      (document, some rest) ∧ ofDocument? document = some json

theorem null_reads_back (depth : Nat) : ReadsBack depth .null := by
  intro level fuel rest _ _
  have text : (pretty level .null).toList = ['n', 'u', 'l', 'l'] := by simp [pretty, writeLeaf]
  exact ⟨.scalar "null" .null, by rw [text]; rfl, rfl⟩

theorem bool_reads_back (depth : Nat) (value : Bool) : ReadsBack depth (.bool value) := by
  intro level fuel rest _ _
  cases value with
  | false =>
      have text : (pretty level (.bool false)).toList = ['f', 'a', 'l', 's', 'e'] := by
        simp [pretty, writeLeaf]
      exact ⟨.scalar "false" (.bool false), by rw [text]; rfl, rfl⟩
  | true =>
      have text : (pretty level (.bool true)).toList = ['t', 'r', 'u', 'e'] := by
        simp [pretty, writeLeaf]
      exact ⟨.scalar "true" (.bool true), by rw [text]; rfl, rfl⟩

theorem read_value_string (fuel depth : Nat) (inside rest : List Char) (text : String)
    (read : readString (inside.length + 1) [] inside = some (text, rest)) :
    readValue (fuel + 1) depth ('"' :: inside) = (.string text, some rest) := by
  have start : skipSpace ('"' :: inside) = '"' :: inside := rfl
  simp only [readValue, start, read]

theorem string_reads_back (depth : Nat) (value : String) : ReadsBack depth (.string value) := by
  intro level fuel rest _ _
  obtain ⟨inside, shape, read⟩ := read_quoted value rest
  refine ⟨.string value, ?_, rfl⟩
  exact (congrArg (readValue (fuel + 1) depth) shape).trans
    (read_value_string fuel depth inside rest value read)

theorem int_reads_back (depth : Nat) (value : Int) (fits : Document.fitsWord value = true) :
    ReadsBack depth (.int value) := by
  intro level fuel rest _ ends
  have digit (n : Nat) (c : Char) (member : c ∈ Nat.toDigits 10 n) : isNumberChar c = true := by
    simp [isNumberChar, digits_plain n c member]
  refine ⟨.scalar (String.ofList (toString value).toList) (.int value), ?_, rfl⟩
  change readValue (fuel + 1) depth ((toString value).toList ++ rest) = _
  cases Int.natAbs_eq value with
  | inl natural =>
      generalize value.natAbs = n at natural
      subst natural
      rw [Yaml.to_string_natural]
      exact read_value_number fuel depth _ rest Nat.toDigits_ne_nil (digit n) ends _
        (number_digits n fits)
  | inr negative =>
      by_cases zero : value.natAbs = 0
      · obtain rfl := Int.natAbs_eq_zero.mp zero
        exact read_value_number fuel depth ['0'] rest (by simp) (List.forall_mem_singleton.mpr rfl)
          ends _ rfl
      · generalize value.natAbs = n at negative zero
        subst negative
        rw [Yaml.to_string_negative n zero]
        refine read_value_number fuel depth _ rest (by simp) ?_ ends _ (number_minus n zero fits)
        exact List.forall_mem_cons.mpr ⟨rfl, digit n⟩

theorem space_ends (space rest : List Char) (blank : ∀ c ∈ space, isSpace c = true)
    (ends : Ends rest) : Ends (space ++ rest) := by
  cases space with
  | nil => exact ends
  | cons c space =>
      intro first here
      obtain rfl : c = first := by simpa using here
      cases numeric : isNumberChar c with
      | false => rfl
      | true =>
          have apart := space_apart c numeric
          rw [blank c List.mem_cons_self] at apart
          cases apart

theorem read_array (fuel depth : Nat) (text rest : List Char) (documents : List Document)
    (read : readItems fuel depth text = (documents, some rest)) :
    readValue (fuel + 1) (depth + 1) ('[' :: text) = (.sequence documents, some rest) := by
  have start : skipSpace ('[' :: text) = '[' :: text := rfl
  rw [← read_items_skip] at read
  simp only [readValue, start, Nat.add_one_sub_one, Nat.add_one_ne_zero, if_false]
  split
  · -- no item starts with the end of the array
    rename_i closing
    rw [closing] at read
    rcases fuel with _ | _ | fuel <;> cases read
  · rw [read]

theorem read_last_item (fuel depth : Nat) (text space rest : List Char) (item : Document)
    (blank : ∀ c ∈ space, isSpace c = true)
    (read : readValue fuel depth text = (item, some (space ++ ']' :: rest))) :
    readItems (fuel + 1) depth text = ([item], some rest) := by
  have behind : skipSpace (space ++ ']' :: rest) = ']' :: rest :=
    (skip_space_append space _ blank).trans rfl
  simp only [readItems, read, behind]

theorem read_next_item (fuel depth : Nat) (text rest : List Char) (item : Document)
    (read : readValue fuel depth text = (item, some (',' :: rest))) :
    readItems (fuel + 1) depth text =
      (item :: (readItems fuel depth rest).1, (readItems fuel depth rest).2) := by
  have behind : skipSpace (',' :: rest) = ',' :: rest := rfl
  simp only [readItems, read, behind]

theorem items_read_back (depth : Nat) (items : List Json) (filled : items ≠ [])
    (each : ∀ item ∈ items, ReadsBack depth item) (level fuel : Nat) (space rest : List Char)
    (blank : ∀ c ∈ space, isSpace c = true)
    (enough : 2 * (prettyItems level items).toList.length < fuel) :
    ∃ documents,
      readItems (fuel + 1) depth ((prettyItems level items).toList ++ (space ++ ']' :: rest)) =
        (documents, some rest) ∧ ofItems? documents = some items := by
  induction items generalizing fuel with
  | nil => exact absurd rfl filled
  | cons item items ih =>
      obtain ⟨back, others⟩ := List.forall_mem_cons.mp each
      have ends : Ends (space ++ ']' :: rest) :=
        space_ends space _ blank (by simp [Ends, isNumberChar])
      cases fuel with
      | zero => omega
      | succ fuel =>
          cases items with
          | nil =>
              simp only [prettyItems, String.toList_append, List.length_append] at enough
              obtain ⟨document, read, same⟩ := back level fuel _ (by omega) ends
              refine ⟨[document], ?_, by simp [ofItems?, same]⟩
              apply read_last_item _ _ _ space _ _ blank
              rw [prettyItems, String.toList_append, List.append_assoc,
                read_value_space _ _ _ _ (indent_blank level), read]
          | cons next items =>
              have text : (prettyItems level (item :: next :: items)).toList =
                  (indent level).toList ++ ((item.pretty level).toList ++
                    ',' :: '\n' :: (prettyItems level (next :: items)).toList) := by
                simp [prettyItems]
              rw [text] at enough ⊢
              simp only [List.length_append, List.length_cons] at enough
              obtain ⟨document, read, same⟩ := back level fuel
                (',' :: '\n' :: ((prettyItems level (next :: items)).toList ++
                  (space ++ ']' :: rest))) (by omega) (by simp [Ends, isNumberChar])
              obtain ⟨documents, more, all⟩ := ih (by simp) others fuel (by omega)
              refine ⟨document :: documents, ?_, by rw [ofItems?, same, all]; rfl⟩
              have here : readValue (fuel + 1) depth ((indent level).toList ++
                  ((item.pretty level).toList ++ ',' :: '\n' ::
                    (prettyItems level (next :: items)).toList) ++ (space ++ ']' :: rest)) =
                  (document, some (',' :: '\n' :: ((prettyItems level (next :: items)).toList ++
                    (space ++ ']' :: rest)))) := by
                rw [List.append_assoc, read_value_space _ _ _ _ (indent_blank level),
                  List.append_assoc]
                exact read
              rw [read_next_item _ _ _ _ _ here, read_items_line, more]

theorem read_object (fuel depth : Nat) (text rest : List Char)
    (entries : List (Document × Document))
    (read : readMembers fuel depth text = (entries, some rest)) :
    readValue (fuel + 1) (depth + 1) ('\x7b' :: text) = (.mapping entries, some rest) := by
  have start : skipSpace ('\x7b' :: text) = '\x7b' :: text := rfl
  rw [← read_members_skip] at read
  simp only [readValue, start, Nat.add_one_sub_one, Nat.add_one_ne_zero, if_false]
  split
  · rename_i closing
    rw [closing] at read
    cases fuel <;> cases read
  · rw [read]

theorem member_start (level : Nat) (name : String) (more : List Char) :
    ∃ inside, skipSpace ((indent level).toList ++ ((quote name).toList ++ more)) = '"' :: inside ∧
      readString (inside.length + 1) [] inside = some (name, more) := by
  obtain ⟨inside, shape, read⟩ := read_quoted name more
  exact ⟨inside, by rw [skip_space_append _ _ (indent_blank level), shape]; rfl, read⟩

theorem read_last_member (fuel depth : Nat) (text inside behind space rest : List Char)
    (name : String) (value : Document) (blank : ∀ c ∈ space, isSpace c = true)
    (start : skipSpace text = '"' :: inside)
    (key : readString (inside.length + 1) [] inside = some (name, ':' :: behind))
    (read : readValue fuel depth behind = (value, some (space ++ '\x7d' :: rest))) :
    readMembers (fuel + 1) depth text = ([(.string name, value)], some rest) := by
  have colon : skipSpace (':' :: behind) = ':' :: behind := rfl
  have closed : skipSpace (space ++ '\x7d' :: rest) = '\x7d' :: rest :=
    (skip_space_append space _ blank).trans rfl
  simp only [readMembers, start, key, colon, read, closed]

theorem read_next_member (fuel depth : Nat) (text inside behind rest : List Char)
    (name : String) (value : Document) (start : skipSpace text = '"' :: inside)
    (key : readString (inside.length + 1) [] inside = some (name, ':' :: behind))
    (read : readValue fuel depth behind = (value, some (',' :: rest))) :
    readMembers (fuel + 1) depth text =
      ((.string name, value) :: (readMembers fuel depth rest).1,
        (readMembers fuel depth rest).2) := by
  have colon : skipSpace (':' :: behind) = ':' :: behind := rfl
  have comma : skipSpace (',' :: rest) = ',' :: rest := rfl
  simp only [readMembers, start, key, colon, read, comma]

theorem members_read_back (depth : Nat) (members : List (String × Json)) (filled : members ≠ [])
    (each : ∀ member ∈ members, ReadsBack depth member.2) (level fuel : Nat)
    (space rest : List Char) (blank : ∀ c ∈ space, isSpace c = true)
    (enough : 2 * (prettyMembers level members).toList.length < fuel) :
    ∃ entries,
      readMembers (fuel + 1) depth
          ((prettyMembers level members).toList ++ (space ++ '\x7d' :: rest)) =
        (entries, some rest) ∧ ofEntries? entries = some members := by
  induction members generalizing fuel with
  | nil => exact absurd rfl filled
  | cons member members ih =>
      obtain ⟨name, value⟩ := member
      obtain ⟨back, others⟩ := List.forall_mem_cons.mp each
      replace back : ReadsBack depth value := back
      have ends : Ends (space ++ '\x7d' :: rest) :=
        space_ends space _ blank (by simp [Ends, isNumberChar])
      cases fuel with
      | zero => omega
      | succ fuel =>
          cases members with
          | nil =>
              have text : (prettyMembers level [(name, value)]).toList =
                  (indent level).toList ++ ((quote name).toList ++ ':' :: ' ' ::
                    (value.pretty level).toList) := by
                simp [prettyMembers]
              rw [text] at enough ⊢
              simp only [List.length_append, List.length_cons] at enough
              obtain ⟨document, read, same⟩ := back level fuel _ (by omega) ends
              obtain ⟨inside, start, key⟩ := member_start level name
                (':' :: ' ' :: ((value.pretty level).toList ++ (space ++ '\x7d' :: rest)))
              refine ⟨[(.string name, document)], ?_, by
                rw [Document.string, ofEntries?, same]; rfl⟩
              refine read_last_member _ _ _ inside _ space _ _ _ blank ?_ key ?_
              · rw [← start]
                simp
              · rw [read_value_blank, read]
          | cons next members =>
              have text : (prettyMembers level ((name, value) :: next :: members)).toList =
                  (indent level).toList ++ ((quote name).toList ++ ':' :: ' ' ::
                    ((value.pretty level).toList ++
                      ',' :: '\n' :: (prettyMembers level (next :: members)).toList)) := by
                simp [prettyMembers]
              rw [text] at enough ⊢
              simp only [List.length_append, List.length_cons] at enough
              obtain ⟨document, read, same⟩ := back level fuel
                (',' :: '\n' :: ((prettyMembers level (next :: members)).toList ++
                  (space ++ '\x7d' :: rest))) (by omega) (by simp [Ends, isNumberChar])
              obtain ⟨entries, more, all⟩ := ih (by simp) others fuel (by omega)
              obtain ⟨inside, start, key⟩ := member_start level name
                (':' :: ' ' :: ((value.pretty level).toList ++ ',' :: '\n' ::
                  ((prettyMembers level (next :: members)).toList ++ (space ++ '\x7d' :: rest))))
              refine ⟨(.string name, document) :: entries, ?_, by
                rw [Document.string, ofEntries?, same, all]; rfl⟩
              rw [read_next_member _ _ _ inside _ _ _ document ?start key ?found,
                read_members_line, more]
              case start =>
                rw [← start]
                simp
              case found => rw [read_value_blank, read]

theorem array_reads_back (depth : Nat) (items : List Json)
    (each : ∀ item ∈ items, ReadsBack depth item) : ReadsBack (depth + 1) (.array items) := by
  intro level fuel rest enough _
  cases items with
  | nil => exact ⟨.sequence [], by simp [pretty]; rfl, rfl⟩
  | cons item items =>
      have text : (pretty level (.array (item :: items))).toList =
          '[' :: '\n' :: ((prettyItems (level + 1) (item :: items)).toList ++
            ('\n' :: (indent level).toList ++ [']'])) := by
        simp [pretty]
      rw [text] at enough ⊢
      simp only [List.length_cons, List.length_append] at enough
      obtain ⟨fuel, rfl⟩ : ∃ more, fuel = more + 1 := ⟨fuel - 1, by omega⟩
      obtain ⟨documents, read, same⟩ := items_read_back depth (item :: items) (by simp) each
        (level + 1) fuel ('\n' :: (indent level).toList) rest
        (List.forall_mem_cons.mpr ⟨rfl, indent_blank level⟩) (by omega)
      refine ⟨.sequence documents, ?_, by rw [ofDocument?, same]; rfl⟩
      rw [List.cons_append, List.cons_append]
      apply read_array
      rw [read_items_line, ← read]
      simp

theorem object_reads_back (depth : Nat) (members : List (String × Json))
    (each : ∀ member ∈ members, ReadsBack depth member.2) :
    ReadsBack (depth + 1) (.object members) := by
  intro level fuel rest enough _
  cases members with
  | nil => exact ⟨.mapping [], by simp [pretty]; rfl, rfl⟩
  | cons member members =>
      have text : (pretty level (.object (member :: members))).toList =
          '\x7b' :: '\n' :: ((prettyMembers (level + 1) (member :: members)).toList ++
            ('\n' :: (indent level).toList ++ ['\x7d'])) := by
        simp [pretty]
      rw [text] at enough ⊢
      simp only [List.length_cons, List.length_append] at enough
      obtain ⟨fuel, rfl⟩ : ∃ more, fuel = more + 1 := ⟨fuel - 1, by omega⟩
      obtain ⟨entries, read, same⟩ := members_read_back depth (member :: members) (by simp) each
        (level + 1) fuel ('\n' :: (indent level).toList) rest
        (List.forall_mem_cons.mpr ⟨rfl, indent_blank level⟩) (by omega)
      refine ⟨.mapping entries, ?_, by rw [ofDocument?, same]; rfl⟩
      rw [List.cons_append, List.cons_append]
      apply read_object
      rw [read_members_line, ← read]
      simp

theorem printable_reads_back (depth : Nat) (json : Json) (printable : Printable depth json) :
    ReadsBack depth json := by
  induction printable with
  | null depth => exact null_reads_back depth
  | bool depth value => exact bool_reads_back depth value
  | int depth value fits => exact int_reads_back depth value fits
  | string depth value => exact string_reads_back depth value
  | array depth items _ each => exact array_reads_back depth items each
  | object depth members _ each => exact object_reads_back depth members each

theorem present_printable (depth : Nat) (fields : List (String × Option Json))
    (each : ∀ field ∈ fields, ∀ json ∈ field.2, Printable depth json) :
    Printable (depth + 1) (.object (present fields)) :=
  .object depth _ fun member listed =>
    each _ ((present_mem fields member.1 member.2).mp listed) member.2 rfl

theorem strings_printable (depth : Nat) (values : List String) :
    Printable (depth + 1) (strings values) := by
  refine .array depth _ fun item listed => ?_
  obtain ⟨value, _, rfl⟩ := List.mem_map.mp listed
  exact .string depth value

theorem list_printable {α : Type} (depth : Nat) (encode : α → Json) (values : List α)
    (each : ∀ value, Printable depth (encode value)) :
    Printable (depth + 1) (.array (values.map encode)) := by
  refine .array depth _ fun item listed => ?_
  obtain ⟨value, _, rfl⟩ := List.mem_map.mp listed
  exact each value

theorem optional_printable {α : Type} (depth : Nat) (name : String) (encode : α → Json)
    (value : Option α) (each : ∀ value, Printable depth (encode value)) :
    ∀ member ∈ optional name encode value, Printable depth member.2 := by
  cases value with
  | none => exact nofun
  | some value => exact List.forall_mem_singleton.mpr (each value)

theorem of_map_printable {α : Type} (depth : Nat) (encode : α → Json) (map : SortedMap String α)
    (each : ∀ value, Printable depth (encode value)) :
    Printable (depth + 1) (ofMap encode map) := by
  refine .object depth _ fun member listed => ?_
  obtain ⟨entry, _, rfl⟩ := List.mem_map.mp listed
  exact each entry.2

theorem parse_pretty (json : Json) (printable : Printable maxDepth json) (space : List Char)
    (blank : ∀ c ∈ space, isSpace c = true) :
    parse? (json.pretty 0 ++ String.ofList space) = some json := by
  have ends : Ends space := by simpa using space_ends space [] blank (by simp [Ends])
  have chars : (json.pretty 0 ++ String.ofList space).toList = (json.pretty 0).toList ++ space := by
    simp
  have enough : 2 * (json.pretty 0).toList.length ≤
      2 * ((json.pretty 0).toList ++ space).length + 1 := by
    rw [List.length_append]
    omega
  obtain ⟨document, read, same⟩ :=
    printable_reads_back maxDepth json printable 0 _ space enough ends
  have left : skipSpace space = [] := by simpa [skipSpace] using skip_space_append space [] blank
  rw [parse?, readDocument, chars, read]
  simp [left, same]

end SqlWorkflow.Json
