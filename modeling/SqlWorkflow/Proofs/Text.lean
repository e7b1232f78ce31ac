import Mathlib.Data.List.Basic
import Mathlib.Data.List.Induction
import SqlWorkflow.Text.Blank
import SqlWorkflow.Text.Pieces

namespace SqlWorkflow.Text

theorem replace_char_nil (c : Char) (image : List Char) : replaceChar c image [] = [] := rfl

theorem replace_char_cons (c : Char) (image : List Char) (x : Char) (text : List Char) :
    replaceChar c image (x :: text) =
      (if x = c then image else [x]) ++ replaceChar c image text := by
  rw [replaceChar, List.flatMap_cons, ← replaceChar]

theorem join_with_cons (sep piece : List Char) (pieces : List (List Char)) (more : pieces ≠ []) :
    joinWith sep (piece :: pieces) = piece ++ (sep ++ joinWith sep pieces) := by
  cases pieces with
  | nil => exact absurd rfl more
  | cons next rest => rw [joinWith, List.append_assoc]; exact more

theorem join_single (sep piece : String) : join sep [piece] = piece := by
  simp [join, joinWith]

theorem join_cons (sep piece : String) (pieces : List String) (more : pieces ≠ []) :
    join sep (piece :: pieces) = piece ++ sep ++ join sep pieces := by
  apply String.toList_injective
  rw [join, List.map_cons, join_with_cons _ _ _ (by simpa using more)]
  simp [join]

theorem join_with_concat (sep last : List Char) (pieces : List (List Char)) (some : pieces ≠ []) :
    joinWith sep (pieces ++ [last]) = joinWith sep pieces ++ sep ++ last := by
  induction pieces with
  | nil => exact absurd rfl some
  | cons piece pieces ih =>
      by_cases only : pieces = []
      · simp [only, joinWith]
      · rw [List.cons_append, join_with_cons _ _ _ (by simp), ih only, join_with_cons _ _ _ only]
        simp only [List.append_assoc]

theorem mem_join_with (sep piece : List Char) (pieces : List (List Char)) (member : piece ∈ pieces) :
    piece ⊆ joinWith sep pieces := by
  induction pieces with
  | nil => cases member
  | cons first pieces ih =>
      by_cases last : pieces = []
      · obtain rfl : piece = first := by simpa [last] using member
        simp [last, joinWith]
      · rw [join_with_cons _ _ _ last]
        rcases List.mem_cons.mp member with rfl | later
        · exact List.subset_append_left _ _
        · exact List.Subset.trans (ih later) (by simp)

theorem split_on_append (sep : Char) (a b : List Char) :
    splitOn sep (a ++ sep :: b) = splitOn sep a ++ splitOn sep b := by
  induction a with
  | nil => exact if_pos rfl
  | cons c a ih =>
      by_cases same : c = sep
      · rw [List.cons_append, splitOn, if_pos same, ih, splitOn, if_pos same]
        rfl
      · rw [List.cons_append, splitOn, if_neg same, ih, splitOn, if_neg same]
        cases pieces : splitOn sep a with
        | nil => exact absurd pieces (split_on_ne_nil sep a)
        | cons piece more => rfl

theorem split_on_join (sep : Char) (parts : List (List Char)) (some : parts ≠ []) :
    splitOn sep (joinWith [sep] parts) = parts.flatMap (splitOn sep) := by
  induction parts with
  | nil => exact absurd rfl some
  | cons part parts ih =>
      by_cases last : parts = []
      · rw [last, joinWith, List.flatMap_singleton]
      · rw [join_with_cons _ _ _ last, List.singleton_append, split_on_append, ih last,
          List.flatMap_cons]

theorem split_on_pieces (sep : Char) (text : List Char) :
    ∀ piece ∈ splitOn sep text, sep ∉ piece := by
  induction text with
  | nil => simp [splitOn]
  | cons c text ih =>
      by_cases same : c = sep
      · simpa [splitOn, same] using ih
      · rw [splitOn, if_neg same]
        cases pieces : splitOn sep text with
        | nil => exact absurd pieces (split_on_ne_nil sep text)
        | cons piece more =>
            rw [pieces] at ih
            intro other member
            rcases List.mem_cons.mp member with rfl | member
            · have first := ih piece List.mem_cons_self
              simpa [Ne.symm same] using first
            · exact ih other (List.mem_cons_of_mem piece member)

theorem split_on_plain (sep : Char) (text : List Char) (plain : sep ∉ text) :
    splitOn sep text = [text] := by
  induction text with
  | nil => rfl
  | cons c text ih =>
      obtain ⟨other, rest⟩ : sep ≠ c ∧ sep ∉ text := by simpa using plain
      rw [splitOn, if_neg (Ne.symm other), ih rest]

theorem split_join (sep : Char) (between : String) (single : between.toList = [sep])
    (parts : List String) (some : parts ≠ []) :
    split sep (join between parts) = parts.flatMap (split sep) := by
  rw [split, join, String.toList_ofList, single, split_on_join _ _ (by simpa using some)]
  simp only [List.map_flatMap, List.flatMap_map]
  rfl

theorem split_plain (sep : Char) (text : String) (plain : sep ∉ text.toList) :
    split sep text = [text] := by
  rw [split, split_on_plain sep _ plain, List.map_singleton, String.ofList_toList]

theorem split_pieces (sep : Char) (text piece : String) (member : piece ∈ split sep text) :
    sep ∉ piece.toList := by
  obtain ⟨chars, found, rfl⟩ := List.mem_map.mp member
  rw [String.toList_ofList]
  exact split_on_pieces sep _ chars found

theorem split_split (sep : Char) (text : String) :
    (split sep text).flatMap (split sep) = split sep text := by
  have each (piece : String) (member : piece ∈ split sep text) : split sep piece = [piece] :=
    split_plain sep piece (split_pieces sep text piece member)
  rw [List.flatMap_congr each, List.flatMap_singleton']

theorem split_first_append (sep : Char) (front back : List Char) (plain : sep ∉ front) :
    splitFirst sep (front ++ sep :: back) = some (front, back) := by
  induction front with
  | nil => exact if_pos rfl
  | cons c front ih =>
      obtain ⟨other, rest⟩ : sep ≠ c ∧ sep ∉ front := by simpa using plain
      rw [List.cons_append, splitFirst, if_neg (Ne.symm other), ih rest]
      rfl

theorem split_first_some (sep : Char) (text front back : List Char)
    (found : splitFirst sep text = some (front, back)) : text = front ++ sep :: back := by
  induction text generalizing front with
  | nil => cases found
  | cons c text ih =>
      by_cases same : c = sep
      · rw [splitFirst, if_pos same] at found
        obtain ⟨rfl, rfl⟩ := Prod.mk.inj (Option.some.inj found)
        rw [same, List.nil_append]
      · rw [splitFirst, if_neg same] at found
        obtain ⟨⟨first, rest⟩, cut, parts⟩ := Option.map_eq_some_iff.mp found
        obtain ⟨rfl, rfl⟩ := Prod.mk.inj parts
        rw [ih first cut, List.cons_append]

theorem trim_right_front (text : List Char) : trimRight text <+: text := by
  have shorter := List.dropWhile_suffix isBlank (l := text.reverse)
  simpa [trimRight] using List.reverse_prefix.mpr shorter

theorem trim_left_solid (text : List Char) (solid : ∀ c ∈ text.head?, isBlank c = false) :
    trimLeft text = text := by
  cases text with
  | nil => rfl
  | cons c rest =>
      have first : isBlank c = false := solid c rfl
      rw [trimLeft, List.dropWhile_cons_of_neg (by simp [first])]

theorem trim_left_idem (text : List Char) : trimLeft (trimLeft text) = trimLeft text := by
  apply trim_left_solid
  intro c head
  obtain ⟨rest, trimmed⟩ := List.head?_eq_some_iff.mp head
  exact trim_left_head text c rest trimmed

theorem trim_right_idem (text : List Char) : trimRight (trimRight text) = trimRight text := by
  have once := trim_left_idem text.reverse
  simp only [trimLeft] at once
  simp only [trimRight, List.reverse_reverse, once]

def Trimmed (text : String) : Prop :=
  (∀ c ∈ text.toList.head?, isBlank c = false) ∧ ∀ c ∈ text.toList.getLast?, isBlank c = false

instance (text : String) : Decidable (Trimmed text) :=
  decidable_of_iff ((text.toList.head?.all fun c => !isBlank c) = true ∧
      (text.toList.getLast?.all fun c => !isBlank c) = true)
    (by simp [Trimmed, Option.all_eq_true])

theorem trim_chars_head (text : List Char) :
    ∀ c ∈ (trimChars text).head?, isBlank c = false := by
  intro c head
  obtain ⟨rest, kept⟩ := List.head?_eq_some_iff.mp head
  obtain ⟨after, whole⟩ := trim_right_front (trimLeft text)
  rw [← trimChars, kept] at whole
  exact trim_left_head text c (rest ++ after) whole.symm

theorem trim_right_last (text : List Char) :
    ∀ c ∈ (trimRight text).getLast?, isBlank c = false := by
  intro c last
  rw [trimRight, List.getLast?_reverse] at last
  obtain ⟨rest, kept⟩ := List.head?_eq_some_iff.mp last
  exact trim_left_head text.reverse c rest kept

theorem trimmed_of_chars (text : List Char) : Trimmed (String.ofList (trimChars text)) := by
  rw [Trimmed, String.toList_ofList]
  exact ⟨trim_chars_head text, trim_right_last (trimLeft text)⟩

theorem trim_chars_idem (text : List Char) : trimChars (trimChars text) = trimChars text := by
  have solid : trimLeft (trimChars text) = trimChars text :=
    trim_left_solid _ (trim_chars_head text)
  have again : trimRight (trimChars text) = trimChars text := trim_right_idem _
  rw [trimChars, solid, again]

theorem trim_idem (text : String) : trim (trim text) = trim text := by
  rw [trim, trim, String.toList_ofList, trim_chars_idem]

theorem trim_subset (text : String) (c : Char) (member : c ∈ (trim text).toList) :
    c ∈ text.toList := by
  rw [trim, String.toList_ofList] at member
  have kept : c ∈ trimLeft text.toList := (trim_right_front _).subset member
  exact (List.dropWhile_suffix isBlank).subset kept

theorem trim_right_append (a b : List Char) :
    trimRight (a ++ b) = if trimRight b = [] then trimRight a else a ++ trimRight b := by
  by_cases blank : b.reverse.dropWhile isBlank = []
  · simp [trimRight, List.dropWhile_append, blank]
  · simp [trimRight, List.dropWhile_append, blank]

theorem trim_right_congr (a b b' : List Char) (same : trimRight b = trimRight b') :
    trimRight (a ++ b) = trimRight (a ++ b') := by
  rw [trim_right_append, trim_right_append, same]

theorem trim_right_concat_blank (text : List Char) (c : Char) (blank : isBlank c = true) :
    trimRight (text ++ [c]) = trimRight text := by
  simp [trimRight, blank]

theorem trim_chars_cons_blank (c : Char) (text : List Char) (blank : isBlank c = true) :
    trimChars (c :: text) = trimChars text := by
  rw [trimChars, trimLeft, List.dropWhile_cons_of_pos blank, ← trimLeft, ← trimChars]

theorem trim_chars_comm (text : List Char) : trimChars text = trimLeft (trimRight text) := by
  induction text with
  | nil => rfl
  | cons c text ih =>
      have whole : trimRight (c :: text) =
          if trimRight text = [] then trimRight [c] else c :: trimRight text :=
        trim_right_append [c] text
      by_cases blank : isBlank c = true
      · rw [trim_chars_cons_blank c text blank, ih, whole]
        by_cases none : trimRight text = []
        · rw [if_pos none, none]
          simp [trimRight, trimLeft, blank]
        · rw [if_neg none, trimLeft, trimLeft, List.dropWhile_cons_of_pos blank]
      · have first : trimRight [c] = [c] := by simp [trimRight, blank]
        rw [trimChars, trimLeft, List.dropWhile_cons_of_neg blank, whole]
        by_cases none : trimRight text = []
        · rw [if_pos none, first, trimLeft, List.dropWhile_cons_of_neg blank]
        · rw [if_neg none, trimLeft, List.dropWhile_cons_of_neg blank]

theorem trim_chars_congr (a b : List Char) (same : trimRight a = trimRight b) :
    trimChars a = trimChars b := by
  rw [trim_chars_comm, trim_chars_comm, same]

theorem trim_right_solid (text : List Char) (solid : ∀ c ∈ text.getLast?, isBlank c = false) :
    trimRight text = text := by
  have kept := trim_left_solid text.reverse (by simpa using solid)
  rw [trimLeft] at kept
  rw [trimRight, kept, List.reverse_reverse]

theorem trim_chars_trimmed (text : String) (trimmed : Trimmed text) :
    trimChars text.toList = text.toList := by
  rw [trimChars, trim_left_solid _ trimmed.1, trim_right_solid _ trimmed.2]

theorem without_return_cases (line : List Char) :
    withoutReturn line = line ∨ withoutReturn line ++ ['\r'] = line := by
  unfold withoutReturn
  split
  · rename_i front reversed
    have whole := congrArg List.reverse reversed
    rw [List.reverse_reverse, List.reverse_cons] at whole
    exact Or.inr whole.symm
  · exact Or.inl rfl

theorem without_return_alike (line : List Char) : trimRight (withoutReturn line) = trimRight line := by
  rcases without_return_cases line with same | whole
  · rw [same]
  · have blank := trim_right_concat_blank (withoutReturn line) '\r' rfl
    rwa [whole, eq_comm] at blank

theorem without_return_subset (line : List Char) : withoutReturn line ⊆ line := by
  rcases without_return_cases line with same | whole
  · rw [same]
    exact List.Subset.refl line
  · have front := List.subset_append_left (withoutReturn line) ['\r']
    rwa [whole] at front

theorem without_return_plain (line : List Char) (plain : '\r' ∉ line) :
    withoutReturn line = line := by
  rcases without_return_cases line with same | whole
  · exact same
  · have last : '\r' ∈ withoutReturn line ++ ['\r'] := by simp
    rw [whole] at last
    exact absurd last plain

theorem lines_of_append (front back : List (List Char)) (more : back ≠ []) :
    linesOf (front ++ back) = front.map withoutReturn ++ linesOf back := by
  induction front with
  | nil => rfl
  | cons line front ih =>
      have next : front ++ back ≠ [] := by simp [more]
      rw [List.cons_append, linesOf, ih, List.map_cons, List.cons_append]
      exact next

theorem split_on_concat (sep c : Char) (text : List Char) (other : c ≠ sep) :
    ∃ front last, splitOn sep text = front ++ [last] ∧
      splitOn sep (text ++ [c]) = front ++ [last ++ [c]] := by
  induction text with
  | nil => exact ⟨[], [], rfl, if_neg other⟩
  | cons first text ih =>
      obtain ⟨front, last, before, after⟩ := ih
      by_cases cut : first = sep
      · exact ⟨[] :: front, last, by simp [splitOn, cut, before], by simp [splitOn, cut, after]⟩
      · rw [List.cons_append, splitOn, splitOn, if_neg cut, if_neg cut, before, after]
        cases front with
        | nil => exact ⟨[], first :: last, rfl, rfl⟩
        | cons piece front => exact ⟨(first :: piece) :: front, last, rfl, rfl⟩

def PiecesOf (sep : Char) (part whole : List Char) : Prop :=
  ∀ piece ∈ splitOn sep part, ∃ other ∈ splitOn sep whole, trimChars other = trimChars piece

theorem PiecesOf.trans {sep : Char} {a b c : List Char} (first : PiecesOf sep a b)
    (second : PiecesOf sep b c) : PiecesOf sep a c := by
  intro piece member
  obtain ⟨middle, found, same⟩ := first piece member
  obtain ⟨last, there, again⟩ := second middle found
  exact ⟨last, there, again.trans same⟩

theorem pieces_of_refl (sep : Char) (text : List Char) : PiecesOf sep text text :=
  fun piece member => ⟨piece, member, rfl⟩

theorem pieces_of_cons (sep c : Char) (text : List Char) (blank : isBlank c = true) :
    PiecesOf sep text (c :: text) := by
  intro piece member
  by_cases cut : c = sep
  · exact ⟨piece, by simp [splitOn, cut, member], rfl⟩
  · rw [splitOn, if_neg cut]
    cases pieces : splitOn sep text with
    | nil => exact absurd pieces (split_on_ne_nil sep text)
    | cons first more =>
        rw [pieces] at member
        rcases List.mem_cons.mp member with rfl | later
        · exact ⟨c :: piece, List.mem_cons_self, trim_chars_cons_blank c piece blank⟩
        · exact ⟨piece, List.mem_cons_of_mem _ later, rfl⟩

theorem pieces_of_concat (sep c : Char) (text : List Char) (blank : isBlank c = true) :
    PiecesOf sep text (text ++ [c]) := by
  intro piece member
  by_cases cut : c = sep
  · have whole : splitOn sep (text ++ [c]) = splitOn sep text ++ [[]] := by
      rw [cut, split_on_append]
      rfl
    exact ⟨piece, by simp [whole, member], rfl⟩
  · obtain ⟨front, last, before, after⟩ := split_on_concat sep c text cut
    rw [before] at member
    rw [after]
    rcases List.mem_append.mp member with early | final
    · exact ⟨piece, List.mem_append_left _ early, rfl⟩
    · obtain rfl := List.mem_singleton.mp final
      refine ⟨piece ++ [c], by simp, ?_⟩
      exact trim_chars_congr _ _ (trim_right_concat_blank piece c blank)

theorem trim_left_pieces (sep : Char) (text : List Char) : PiecesOf sep (trimLeft text) text := by
  induction text with
  | nil => exact pieces_of_refl sep []
  | cons c text ih =>
      by_cases blank : isBlank c = true
      · rw [trimLeft, List.dropWhile_cons_of_pos blank, ← trimLeft]
        exact ih.trans (pieces_of_cons sep c text blank)
      · rw [trimLeft, List.dropWhile_cons_of_neg blank]
        exact pieces_of_refl sep (c :: text)

theorem trim_right_pieces (sep : Char) (text : List Char) : PiecesOf sep (trimRight text) text := by
  induction text using List.reverseRecOn with
  | nil => exact pieces_of_refl sep []
  | append_singleton text c ih =>
      by_cases blank : isBlank c = true
      · rw [trim_right_concat_blank text c blank]
        exact ih.trans (pieces_of_concat sep c text blank)
      · rw [trim_right_solid (text ++ [c]) (by simpa using blank)]
        exact pieces_of_refl sep (text ++ [c])

theorem trim_chars_pieces (sep : Char) (text : List Char) : PiecesOf sep (trimChars text) text :=
  (trim_right_pieces sep (trimLeft text)).trans (trim_left_pieces sep text)

end SqlWorkflow.Text
