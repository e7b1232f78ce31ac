import SqlWorkflow.Document
import SqlWorkflow.Text.Shown

namespace SqlWorkflow

def Binary64.same (a b : Binary64) : Bool :=
  if a.isNaN || b.isNaN then a.isNaN && b.isNaN else a.toFloat == b.toFloat

-- Whether two scalars hold one value. Texts count only where they are the value.
def Scalar.same (a : Scalar) (x : String) (b : Scalar) (y : String) : Bool :=
  match a, b with
  | .text, .text => x == y
  | .float a, .float b => a.same b
  | .float _, _ => false
  | _, .float _ => false
  | a, b => a == b

namespace Document

mutual

def same : Document → Document → Bool
  | .scalar x a, .scalar y b => a.same x b y
  | .sequence items, .sequence others => sameItems items others
  | .mapping entries, .mapping others =>
      entries.length == others.length && sameEntries entries others
  | .tagged tag content, .tagged other inner => tag == other && same content inner
  | _, _ => false

def sameItems : List Document → List Document → Bool
  | [], [] => true
  | item :: items, other :: others => same item other && sameItems items others
  | _, _ => false

def sameEntries : List (Document × Document) → List (Document × Document) → Bool
  | [], _ => true
  | (key, value) :: entries, others =>
      (others.any fun other => same key other.1 && same value other.2) &&
        sameEntries entries others

end

mutual

def hasValue : Document → Bool
  | .scalar _ value => value ≠ .unusable
  | .sequence items => itemsHaveValue items
  | .mapping entries => entriesHaveValue [] entries
  | .tagged _ content => hasValue content
  | .broken => false

def itemsHaveValue : List Document → Bool
  | [] => true
  | item :: items => hasValue item && itemsHaveValue items

def entriesHaveValue (keys : List Document) : List (Document × Document) → Bool
  | [] => true
  | (key, value) :: entries =>
      hasValue key && hasValue value && !keys.any (key.same ·) &&
        entriesHaveValue (key :: keys) entries

end

def untagged : Document → Document
  | .tagged _ content => content.untagged
  | document => document

def bareScalar (text : String) : Scalar → String
  | .null => "Null"
  | .bool value => if value then "true" else "false"
  | .int value => toString value
  | .unusable => text
  | .float value => Layout.scientific.write value
  | .text => Text.shown text

def shownScalar (text : String) (value : Scalar) : String :=
  let bare := bareScalar text value
  match value with
  | .bool _ => "Bool(" ++ bare ++ ")"
  | .int _ => "Number(" ++ bare ++ ")"
  | .float _ => "Number(" ++ bare ++ ")"
  | .text => "String(" ++ bare ++ ")"
  | _ => bare

mutual

def shown : Document → String
  | .scalar text value => shownScalar text value
  | .sequence items => "Sequence [" ++ shownItems items ++ "]"
  | .mapping entries => "Mapping \x7b" ++ shownEntries entries ++ "\x7d"
  | .tagged tag content =>
      "TaggedValue \x7b tag: !" ++ tag ++ ", value: " ++ shown content ++ " \x7d"
  | .broken => ""

def shownItems : List Document → String
  | [] => ""
  | [item] => shown item
  | item :: items => shown item ++ ", " ++ shownItems items

def shownEntries : List (Document × Document) → String
  | [] => ""
  | [(key, value)] => shownKey key ++ ": " ++ shown value
  | (key, value) :: entries =>
      shownKey key ++ ": " ++ shown value ++ ", " ++ shownEntries entries

def shownKey : Document → String
  | .scalar text value => bareScalar text value
  | .sequence items => "Sequence [" ++ shownItems items ++ "]"
  | .mapping entries => "Mapping \x7b" ++ shownEntries entries ++ "\x7d"
  | .tagged tag content =>
      "TaggedValue \x7b tag: !" ++ tag ++ ", value: " ++ shown content ++ " \x7d"
  | .broken => ""

end

end Document

end SqlWorkflow
