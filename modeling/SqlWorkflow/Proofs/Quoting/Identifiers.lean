import SqlWorkflow.Proofs.Text
import SqlWorkflow.Warehouse

namespace SqlWorkflow.Warehouse

def doubled (text : List Char) : List Char :=
  Text.replaceChar '"' ['"', '"'] text

theorem doubled_cons (x : Char) (text : List Char) :
    doubled (x :: text) = (if x = '"' then ['"', '"'] else [x]) ++ doubled text :=
  Text.replace_char_cons '"' ['"', '"'] x text

-- An identifier behind its opening quote, and what follows it. A doubled quote stands for one, and
-- the first quote that is not doubled is the closing one.
def readDoubled : List Char → Option (List Char × List Char)
  | [] => none
  | '"' :: '"' :: rest => (readDoubled rest).map fun read => ('"' :: read.1, read.2)
  | '"' :: rest => some ([], rest)
  | c :: rest => (readDoubled rest).map fun read => (c :: read.1, read.2)

theorem read_doubled_end (rest : List Char) (ends : rest.head? ≠ some '"') :
    readDoubled ('"' :: rest) = some ([], rest) := by
  cases rest with
  | nil => rfl
  | cons c rest =>
      have other : c ≠ '"' := by simpa using ends
      rw [readDoubled]
      rintro more ⟨rfl, _⟩
      exact other rfl

theorem read_doubled_plain (c : Char) (rest : List Char) (plain : c ≠ '"') :
    readDoubled (c :: rest) = (readDoubled rest).map fun read => (c :: read.1, read.2) := by
  rw [readDoubled]
  · rintro more rfl
    exact absurd rfl plain
  · exact plain

theorem read_doubled_written (name rest : List Char) (ends : rest.head? ≠ some '"') :
    readDoubled (doubled name ++ '"' :: rest) = some (name, rest) := by
  induction name with
  | nil => exact read_doubled_end rest ends
  | cons c name ih =>
      rw [doubled_cons]
      by_cases quote : c = '"'
      · rw [if_pos quote, List.append_assoc, quote]
        change (readDoubled (doubled name ++ '"' :: rest)).map _ = _
        rw [ih]
        rfl
      · rw [if_neg quote, List.append_assoc]
        change readDoubled (c :: (doubled name ++ '"' :: rest)) = _
        rw [read_doubled_plain c _ quote, ih]
        rfl

theorem read_doubled_some (text name rest : List Char)
    (read : readDoubled text = some (name, rest)) :
    text = doubled name ++ '"' :: rest ∧ rest.head? ≠ some '"' := by
  fun_induction readDoubled text generalizing name with
  | case1 => cases read
  | case2 inner ih =>
      obtain ⟨⟨front, after⟩, found, same⟩ := Option.map_eq_some_iff.mp read
      obtain ⟨rfl, rfl⟩ := Prod.mk.inj same
      obtain ⟨split, ends⟩ := ih front found
      exact ⟨by rw [doubled_cons, if_pos rfl, split]; rfl, ends⟩
  | case3 inner single =>
      obtain ⟨rfl, rfl⟩ := Prod.mk.inj (Option.some.inj read)
      refine ⟨rfl, fun quote => ?_⟩
      obtain ⟨more, shape⟩ := List.head?_eq_some_iff.mp quote
      exact single more shape
  | case4 c inner _ plain ih =>
      obtain ⟨⟨front, after⟩, found, same⟩ := Option.map_eq_some_iff.mp read
      obtain ⟨rfl, rfl⟩ := Prod.mk.inj same
      obtain ⟨split, ends⟩ := ih front found
      exact ⟨by rw [doubled_cons, if_neg plain, split]; rfl, ends⟩

theorem read_doubled_shorter (text name rest : List Char)
    (read : readDoubled text = some (name, rest)) : rest.length < text.length := by
  rw [(read_doubled_some text name rest read).1, List.length_append, List.length_cons]
  omega

def readNames (text : List Char) : Option (List String) :=
  match text with
  | '"' :: inner =>
      match _read : readDoubled inner with
      | some (name, []) => some [String.ofList name]
      | some (name, '.' :: rest) => (readNames rest).map (String.ofList name :: ·)
      | _ => none
  | _ => none
termination_by text.length
decreasing_by
  have shorter := read_doubled_shorter inner name ('.' :: rest) _read
  simp only [List.length_cons] at shorter ⊢
  omega

theorem read_names_last (inner name : List Char) (read : readDoubled inner = some (name, [])) :
    readNames ('"' :: inner) = some [String.ofList name] := by
  rw [readNames]
  split
  · rename_i other found
    rw [read] at found
    cases found
    rfl
  · rename_i found
    rw [read] at found
    cases found
  · rename_i other _
    exact absurd read (other name)

theorem read_names_next (inner name rest : List Char)
    (read : readDoubled inner = some (name, '.' :: rest)) :
    readNames ('"' :: inner) = (readNames rest).map (String.ofList name :: ·) := by
  rw [readNames]
  split
  · rename_i found
    rw [read] at found
    cases found
  · rename_i found
    rw [read] at found
    cases found
    rfl
  · rename_i other
    exact absurd read (other name rest)

theorem quote_parts_cons (part : String) (parts : List String) (more : parts ≠ []) :
    (quoteParts (part :: parts)).toList =
      quoteDouble part.toList ++ '.' :: (quoteParts parts).toList := by
  simp only [quoteParts, List.map_cons, String.toList_ofList]
  rw [Text.join_with_cons _ _ _ (by simpa using more)]
  rfl

theorem quote_parts_single (part : String) :
    (quoteParts [part]).toList = '"' :: (doubled part.toList ++ ['"']) := by
  rw [quoteParts, String.toList_ofList]
  rfl

theorem quote_parts_more (part : String) (parts : List String) (more : parts ≠ []) :
    (quoteParts (part :: parts)).toList =
      '"' :: (doubled part.toList ++ '"' :: '.' :: (quoteParts parts).toList) := by
  rw [quote_parts_cons part parts more, quoteDouble]
  simp [doubled]

theorem read_names_written (parts : List String) (named : parts ≠ []) :
    readNames (quoteParts parts).toList = some parts := by
  induction parts with
  | nil => exact absurd rfl named
  | cons part parts ih =>
      by_cases last : parts = []
      · subst last
        have read := read_doubled_written part.toList [] (by simp)
        rw [quote_parts_single, read_names_last _ _ read, String.ofList_toList]
      · have read := read_doubled_written part.toList ('.' :: (quoteParts parts).toList) (by simp)
        rw [quote_parts_more part parts last, read_names_next _ _ _ read, ih last,
          String.ofList_toList]
        rfl

theorem read_names_some (text : List Char) (parts : List String)
    (read : readNames text = some parts) : parts ≠ [] ∧ text = (quoteParts parts).toList := by
  fun_induction readNames text generalizing parts with
  | case1 inner name found =>
      obtain rfl := Option.some.inj read
      rw [quote_parts_single, String.toList_ofList, (read_doubled_some _ _ _ found).1]
      exact ⟨List.cons_ne_nil _ _, rfl⟩
  | case2 inner name rest found ih =>
      obtain ⟨others, onward, rfl⟩ := Option.map_eq_some_iff.mp read
      obtain ⟨more, written⟩ := ih others onward
      rw [quote_parts_more _ _ more, String.toList_ofList, (read_doubled_some _ _ _ found).1,
        ← written]
      exact ⟨List.cons_ne_nil _ _, rfl⟩
  | case3 => cases read
  | case4 => cases read

theorem read_names_iff (text : List Char) (parts : List String) :
    readNames text = some parts ↔ parts ≠ [] ∧ text = (quoteParts parts).toList := by
  constructor
  · exact read_names_some text parts
  · intro written
    rw [written.2]
    exact read_names_written parts written.1

theorem read_names_snowflake (target : Target) :
    readNames (snowflake.quote target).toList = some target.parts :=
  read_names_written target.parts (by simp [Target.parts])

theorem read_names_postgres (target : Target) :
    readNames (postgres.quote target).toList = some [target.schema, target.name] :=
  read_names_written [target.schema, target.name] (List.cons_ne_nil _ _)

theorem target_parts_injective (a b : Target) (same : a.parts = b.parts) : a = b := by
  obtain ⟨databaseA, schemaA, nameA⟩ := a
  obtain ⟨databaseB, schemaB, nameB⟩ := b
  cases databaseA <;> cases databaseB <;> simp_all [Target.parts]

theorem snowflake_quote_eq_iff (a b : Target) :
    snowflake.quote a = snowflake.quote b ↔ a = b := by
  constructor
  · intro same
    have read := read_names_snowflake a
    rw [same, read_names_snowflake b] at read
    exact target_parts_injective a b (Option.some.inj read).symm
  · rintro rfl
    rfl

theorem postgres_quote_eq_iff (a b : Target) :
    postgres.quote a = postgres.quote b ↔ a.schema = b.schema ∧ a.name = b.name := by
  constructor
  · intro same
    have read := read_names_postgres a
    rw [same, read_names_postgres b] at read
    simpa [eq_comm] using read
  · intro same
    rw [quote, quote, same.1, same.2]

-- The texts that are read as names are the quoted ones, each as the names that it was made from.
theorem double_quoting_unambiguous :
    (∀ (text : List Char) (parts : List String),
      readNames text = some parts ↔ parts ≠ [] ∧ text = (quoteParts parts).toList) ∧
    (∀ target : Target, readNames (snowflake.quote target).toList = some target.parts) ∧
    (∀ target : Target,
      readNames (postgres.quote target).toList = some [target.schema, target.name]) ∧
    (∀ a b : Target, snowflake.quote a = snowflake.quote b ↔ a = b) ∧
    ∀ a b : Target,
      postgres.quote a = postgres.quote b ↔ a.schema = b.schema ∧ a.name = b.name :=
  ⟨read_names_iff, read_names_snowflake, read_names_postgres, snowflake_quote_eq_iff,
    postgres_quote_eq_iff⟩

end SqlWorkflow.Warehouse
