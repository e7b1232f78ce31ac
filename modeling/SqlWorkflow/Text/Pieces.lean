namespace SqlWorkflow.Text

def splitOn (sep : Char) : List Char → List (List Char)
  | [] => [[]]
  | c :: rest =>
      if c = sep then [] :: splitOn sep rest
      else match splitOn sep rest with
        | [] => [[c]]
        | piece :: pieces => (c :: piece) :: pieces

def split (sep : Char) (text : String) : List String :=
  (splitOn sep text.toList).map String.ofList

def joinWith (sep : List Char) : List (List Char) → List Char
  | [] => []
  | [piece] => piece
  | piece :: pieces => piece ++ sep ++ joinWith sep pieces

def join (sep : String) (pieces : List String) : String :=
  String.ofList (joinWith sep.toList (pieces.map String.toList))

def splitFirst (sep : Char) : List Char → Option (List Char × List Char)
  | [] => none
  | c :: rest =>
      if c = sep then some ([], rest)
      else (splitFirst sep rest).map fun parts => (c :: parts.1, parts.2)

def withoutReturn (line : List Char) : List Char :=
  match line.reverse with
  | '\r' :: front => front.reverse
  | _ => line

-- The lines of a text. The last one needs no line feed, and nothing follows a final line feed.
def linesOf : List (List Char) → List (List Char)
  | [] => []
  | [last] => if last.isEmpty then [] else [last]
  | line :: rest => withoutReturn line :: linesOf rest

def lines (text : String) : List String :=
  (linesOf (splitOn '\n' text.toList)).map String.ofList

def replaceChar (c : Char) (image : List Char) (text : List Char) : List Char :=
  text.flatMap fun x => if x = c then image else [x]

def dropStart? : List Char → List Char → Option (List Char)
  | [], text => some text
  | _ :: _, [] => none
  | c :: start, x :: text => if c = x then dropStart? start text else none

theorem drop_start_some (start text rest : List Char) (found : dropStart? start text = some rest) :
    text = start ++ rest := by
  fun_induction dropStart? start text with
  | case1 => exact Option.some.inj found
  | case2 => cases found
  | case3 c start text ih => rw [ih found, List.cons_append]
  | case4 => cases found

theorem split_on_ne_nil (sep : Char) (text : List Char) : splitOn sep text ≠ [] := by
  cases text with
  | nil => simp [splitOn]
  | cons c rest =>
      by_cases same : c = sep
      · simp [splitOn, same]
      · simp only [splitOn, if_neg same]
        split <;> simp

theorem join_with_split_on (sep : Char) (text : List Char) :
    joinWith [sep] (splitOn sep text) = text := by
  induction text with
  | nil => rfl
  | cons c rest ih =>
      by_cases same : c = sep
      · subst same
        cases pieces : splitOn c rest with
        | nil => exact absurd pieces (split_on_ne_nil c rest)
        | cons piece more =>
            rw [pieces] at ih
            simp [splitOn, pieces, joinWith, ih]
      · cases pieces : splitOn sep rest with
        | nil => exact absurd pieces (split_on_ne_nil sep rest)
        | cons piece more =>
            rw [pieces] at ih
            cases more with
            | nil =>
                have whole : piece = rest := by simpa [joinWith] using ih
                simp [splitOn, same, pieces, joinWith, whole]
            | cons next others =>
                simp only [splitOn, if_neg same, pieces]
                conv => rhs; rw [← ih]
                simp [joinWith]

end SqlWorkflow.Text
