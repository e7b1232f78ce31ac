import SqlWorkflow.Proofs.Yaml.Passes

namespace SqlWorkflow.Yaml

open Cursor

def Unbroken (text : List Char) : Prop :=
  ∀ c ∈ text, isBreak c = false

def Spaces (text : List Char) : Prop :=
  ∀ c ∈ text, isSpace c = true

def Closed (text : List Char) : Prop :=
  ∀ c ∈ text.getLast?, isSpace c = false

-- The instances go through the characters of the text, not through all characters there are.
instance (text : List Char) : Decidable (Unbroken text) :=
  List.decidableBAll (fun c => isBreak c = false) text

instance (text : List Char) : Decidable (Spaces text) :=
  List.decidableBAll (fun c => isSpace c = true) text

instance (text : List Char) : Decidable (Closed text) :=
  text.getLast?.decidableForallMem

theorem unbroken_append (a b : List Char) : Unbroken (a ++ b) ↔ Unbroken a ∧ Unbroken b :=
  List.forall_mem_append

theorem closed_append (a b : List Char) (first : Closed a) (second : Closed b) :
    Closed (a ++ b) := by
  intro c last
  rw [List.getLast?_append] at last
  cases ending : b.getLast? with
  | none =>
      rw [ending] at last
      exact first c last
  | some d =>
      rw [ending] at last
      exact second c (by rw [ending]; exact last)

theorem passed_cons (c : Char) (rest spaces later : List Char) (behind : later <:+ rest)
    (passed : c :: rest = spaces ++ later) : ∃ more, spaces = c :: more ∧ rest = more ++ later := by
  cases spaces with
  | nil =>
      have short := behind.length_le
      have long := congrArg List.length passed
      simp only [List.length_cons, List.nil_append] at long
      omega
  | cons d more =>
      obtain ⟨rfl, tail⟩ := List.cons.inj passed
      exact ⟨more, rfl, tail⟩

theorem read_gap_line (fuel : Nat) (bound : Option Nat) (gap found : Gap) (cursor next : Cursor)
    (spaces : List Char) (fresh : gap.hasBreak = false)
    (passed : cursor.rest = spaces ++ next.rest) (line : Unbroken spaces)
    (read : readGap fuel bound gap cursor = some (found, next)) :
    found = { gap with blanks := gap.blanks ++ spaces } := by
  induction fuel generalizing gap cursor spaces with
  | zero =>
      obtain ⟨rfl, rfl⟩ := Prod.mk.inj (Option.some.inj read)
      rw [List.append_left_eq_self.mp passed.symm, List.append_nil]
  | succ fuel ih =>
      rcases read_gap_step fuel bound gap cursor _ read with
        ended | ⟨text, behind, broken, read⟩ | ⟨c, shape, blank, read⟩
      · obtain ⟨rfl, rfl⟩ := Prod.mk.inj ended
        rw [List.append_left_eq_self.mp passed.symm, List.append_nil]
      · obtain ⟨c, more, shape, first, _⟩ := cursor.read_break_text behind text broken
        have onward := List.IsSuffix.trans (read_gap_passes _ _ _ _ _ _ read)
          (List.suffix_append more _)
        obtain ⟨others, rfl, _⟩ := passed_cons c _ spaces _ onward (shape.symm.trans passed)
        rw [line c List.mem_cons_self] at first
        cases first
      · have onward := read_gap_passes _ _ _ _ _ _ read
        obtain ⟨others, rfl, tail⟩ := passed_cons c _ spaces _ onward (shape.symm.trans passed)
        rw [fresh, if_neg Bool.false_ne_true] at read
        have rest := ih { gap with blanks := gap.blanks ++ [c] } (cursor.skip 1) others fresh tail
          (List.forall_mem_cons.mp line).2 read
        rw [rest, List.append_assoc]
        rfl

theorem plain_word_text (flow : Bool) (text word : List Char)
    (read : plainWord flow text = some word) :
    word <+: text ∧ ∀ c ∈ word, isSpace c = false := by
  induction text generalizing word with
  | nil =>
      obtain rfl := Option.some.inj read
      exact ⟨List.prefix_refl _, by simp⟩
  | cons c rest ih =>
      have nothing (read : some [] = some word) :
          word <+: c :: rest ∧ ∀ c ∈ word, isSpace c = false := by
        obtain rfl := Option.some.inj read
        exact ⟨List.nil_prefix, by simp⟩
      rw [plainWord] at read
      split at read
      · exact nothing read
      · rename_i solid
        split at read
        · cases read
        · split at read
          · exact nothing read
          · split at read
            · exact nothing read
            · obtain ⟨more, rest, rfl⟩ := Option.map_eq_some_iff.mp read
              obtain ⟨front, others⟩ := ih more rest
              exact ⟨List.cons_prefix_cons.mpr ⟨rfl, front⟩,
                List.forall_mem_cons.mpr ⟨by simpa using solid, others⟩⟩

-- What stands from a place on is the rest of a plain scalar, whose text so far is given, and blanks
-- behind it.
structure PlainSource (text : List Char) (cursor : Cursor) (found : List Char × Cursor × Bool)
    (source : List Char) : Prop where
  written : ∃ spaces, cursor.rest = source ++ (spaces ++ found.2.1.rest) ∧ Spaces spaces
  closed : Closed source
  line : Unbroken source → found.1 = text ++ source

theorem closed_word (spaces word : List Char) (solid : ∀ c ∈ word, isSpace c = false)
    (led : word = [] → spaces = []) : Closed (spaces ++ word) := by
  intro c last
  cases ending : word.getLast? with
  | none =>
      obtain rfl := List.getLast?_eq_none_iff.mp ending
      rw [led rfl] at last
      cases last
  | some d =>
      rw [List.getLast?_append, ending] at last
      obtain rfl := Option.some.inj last
      exact solid d (List.mem_of_getLast? ending)

theorem plain_source_end (text : List Char) (cursor : Cursor) (broken : Bool) (next : Cursor)
    (spaces : List Char) (passed : cursor.rest = spaces ++ next.rest) (blank : Spaces spaces) :
    PlainSource text cursor (text, next, broken) [] where
  written := ⟨spaces, passed, blank⟩
  closed := by simp [Closed]
  line _ := (List.append_nil text).symm

theorem PlainSource.after {text filling word spaces source : List Char} {cursor behind : Cursor}
    {found : List Char × Cursor × Bool}
    (rest : PlainSource (text ++ filling ++ word) (behind.skip word.length) found source)
    (passed : cursor.rest = spaces ++ behind.rest) (front : word <+: behind.rest)
    (solid : ∀ c ∈ word, isSpace c = false) (led : word = [] → spaces = [])
    (fold : Unbroken spaces → filling = spaces) :
    PlainSource text cursor found (spaces ++ word ++ source) where
  written := by
    obtain ⟨blanks, split, blank⟩ := rest.written
    refine ⟨blanks, ?_, blank⟩
    obtain ⟨tail, shape⟩ := front
    have behindWord : (behind.skip word.length).rest = tail := by
      rw [skip, ← shape, List.drop_left]
    rw [passed, ← shape, ← behindWord, split]
    simp only [List.append_assoc]
  closed := closed_append _ _ (closed_word spaces word solid led) rest.closed
  line := by
    intro line
    obtain ⟨first, later⟩ := (unbroken_append _ _).mp line
    rw [rest.line later, fold ((unbroken_append _ _).mp first).1]
    simp only [List.append_assoc]

theorem plain_rest_source (flow : Bool) (bound fuel : Nat) (text : List Char) (cursor : Cursor)
    (found : List Char × Cursor × Bool)
    (read : plainRest flow bound fuel text cursor = some found) :
    ∃ source, PlainSource text cursor found source := by
  have here (broken : Bool) : PlainSource text cursor (text, cursor, broken) [] :=
    plain_source_end text cursor broken cursor [] rfl (by simp [Spaces])
  induction fuel generalizing text cursor with
  | zero =>
      obtain rfl := Option.some.inj read
      exact ⟨[], here _⟩
  | succ fuel ih =>
      rw [plainRest] at read
      split at read
      · obtain rfl := Option.some.inj read
        exact ⟨[], here _⟩
      · obtain ⟨⟨gap, behind⟩, gapped, read⟩ := Option.bind_eq_some_iff.mp read
        obtain ⟨spaces, passed, blank⟩ := read_gap_text _ _ _ _ cursor behind gapped
        have ended (broken : Bool) : PlainSource text cursor (text, behind, broken) [] :=
          plain_source_end text cursor broken behind spaces passed blank
        dsimp only at read
        split at read
        · obtain rfl := Option.some.inj read
          exact ⟨[], ended _⟩
        · split at read
          · obtain rfl := Option.some.inj read
            exact ⟨[], ended _⟩
          · obtain ⟨word, worded, read⟩ := Option.bind_eq_some_iff.mp read
            obtain ⟨front, solid⟩ := plain_word_text flow _ word worded
            split at read
            · obtain rfl := Option.some.inj read
              exact ⟨[], ended _⟩
            · rename_i more
              have led (ends : word = []) : spaces = [] := absurd (List.isEmpty_iff.mpr ends) more
              have fold (line : Unbroken spaces) : gap.fold = spaces := by
                rw [read_gap_line _ _ _ _ _ _ spaces rfl passed line gapped]
                rfl
              obtain ⟨source, rest⟩ := ih _ (behind.skip word.length) read
                fun broken => plain_source_end _ _ broken _ [] rfl (by simp [Spaces])
              exact ⟨_, rest.after passed front solid led fold⟩

theorem read_plain_source (flow : Bool) (bound : Nat) (cursor : Cursor)
    (found : List Char × Cursor × Bool) (read : readPlain flow bound cursor = some found) :
    ∃ source, PlainSource [] cursor found source := by
  obtain ⟨word, worded, read⟩ := Option.bind_eq_some_iff.mp read
  obtain ⟨front, solid⟩ := plain_word_text flow _ word worded
  obtain ⟨source, rest⟩ := plain_rest_source _ _ _ _ _ found read
  have whole : PlainSource ([] ++ [] ++ word) (cursor.skip word.length) found source := rest
  have passed : cursor.rest = [] ++ cursor.rest := rfl
  exact ⟨_, whole.after passed front solid (fun _ => rfl) (fun _ => rfl)⟩

end SqlWorkflow.Yaml
