import SqlWorkflow.Template.Checks
import SqlWorkflow.Text.Blank
import SqlWorkflow.Text.Pieces

namespace SqlWorkflow.Template

structure Args where
  places : List Value
  names : List (String × Value)

namespace Args

def ofValues (values : List Value) : Args :=
  match values.getLast? with
  | some (.map true entries) =>
      ⟨values.dropLast, entries.filterMap fun entry =>
        entry.1.text?.map fun name => (name, entry.2)⟩
  | _ => ⟨values, []⟩

-- A named argument; none and an absent one are the same.
def get? (args : Args) (name : String) : Option Value :=
  match args.names.lookup name with
  | some .none => none
  | some (.undefined _) => none
  | value => value

def flag? (args : Args) (name : String) : Option Bool :=
  match args.get? name with
  | none => some false
  | some (.bool value) => some value
  | _ => none

def onlyNames (args : Args) (names : List String) : Bool :=
  args.names.all fun arg => names.contains arg.1

end Args

namespace Value

def optional {α : Type} (read : Value → Option α) : Option Value → Option (Option α)
  | Option.none => some Option.none
  | some .none => some Option.none
  | some (.undefined _) => Option.none
  | some value => (read value).map some

def bool? : Value → Option Bool
  | .bool value => some value
  | _ => Option.none

end Value

-- Every occurrence of a text replaced; an empty one occurs between all characters.
def replaceAll (needle image : List Char) : Nat → List Char → List Char
  | 0, text => text
  | fuel + 1, text =>
      match text with
      | [] => if needle.isEmpty then image else []
      | c :: rest =>
          if needle.isEmpty then image ++ c :: replaceAll needle image fuel rest
          else match Text.dropStart? needle text with
            | some after => image ++ replaceAll needle image fuel after
            | none => c :: replaceAll needle image fuel rest

def splitAt (needle : List Char) : Nat → Nat → List Char → List (List Char)
  | 0, _, text => [text]
  | fuel + 1, limit, text =>
      if limit ≤ 1 then [text]
      else match text with
        | [] => [[]]
        | c :: rest =>
            match Text.dropStart? needle text with
            | some after => [] :: splitAt needle fuel (limit - 1) after
            | none =>
                match splitAt needle fuel limit rest with
                | [] => [[c]]
                | piece :: pieces => (c :: piece) :: pieces

def words (text : List Char) : List (List Char) :=
  ((text.foldr (fun c (pieces : List (List Char)) =>
    if Text.isBlank c then [] :: pieces
    else match pieces with
      | [] => [[c]]
      | piece :: more => (c :: piece) :: more) [[]])).filter (!·.isEmpty)

def splitText (text : String) (separator : Option String) (limit : Option Int) : List String :=
  let chars := text.toList
  let pieces := match separator with
    | none => words chars
    | some separator =>
        let most := match limit with
          | some n => if 0 ≤ n then n.toNat + 1 else chars.length + 2
          | none => chars.length + 2
        if separator.isEmpty then [[]] ++ chars.map ([·]) ++ [[]]
        else splitAt separator.toList (chars.length + 1) most chars
  pieces.map String.ofList

def isPunctuation (c : Char) : Bool :=
  let n := c.toNat
  (0x21 ≤ n && n ≤ 0x2f) || (0x3a ≤ n && n ≤ 0x40) || (0x5b ≤ n && n ≤ 0x60) ||
    (0x7b ≤ n && n ≤ 0x7e)

def titleFrom (first : Bool) : List Char → List Char
  | [] => []
  | c :: rest =>
      if isPunctuation c || Text.isBlank c then c :: titleFrom true rest
      else (if first then Text.upperChar c else Text.lowerChar c) ++ titleFrom false rest

def capitalize (text : String) : String :=
  match text.toList with
  | [] => ""
  | c :: rest => String.ofList (Text.upperChar c) ++ Text.lower (String.ofList rest)

def trimOf (chars : List Char) (text : List Char) : List Char :=
  ((text.dropWhile chars.contains).reverse.dropWhile chars.contains).reverse

def withoutLineEnd (text : List Char) : List Char :=
  match text.reverse with
  | '\n' :: '\r' :: rest => rest.reverse
  | '\n' :: rest => rest.reverse
  | '\r' :: rest => rest.reverse
  | _ => text

def indentLines (width : Nat) (first blank : Bool) (text : String) : String :=
  let pad := List.replicate width ' '
  let lines := Text.splitOn '\n' (withoutLineEnd text.toList)
  let indented := lines.zipIdx.map fun line =>
    if line.2 = 0 && !first then line.1
    else if line.1.isEmpty && !blank then line.1
    else pad ++ line.1
  String.ofList (Text.joinWith ['\n'] indented)

def joinItems (joiner : String) (items : List Value) : String :=
  items.foldl (fun text item =>
    (if text.isEmpty then "" else text ++ joiner) ++ item.display) ""

def readInt? (text : List Char) : Option Int :=
  let read := fun (digits : List Char) =>
    if digits.isEmpty || !digits.all Char.isDigit then none
    else some (Decimal.ofDigits digits : Int)
  let value := match text with
    | '-' :: digits => (read digits).map (- ·)
    | '+' :: digits => read digits
    | digits => read digits
  value.filter fitsWide

def readFloat? (text : List Char) : Option Binary64 :=
  let (negative, body) := match text with
    | '-' :: rest => (true, rest)
    | '+' :: rest => (false, rest)
    | _ => (false, text)
  let signed := fun (value : Float) => some (Binary64.ofFloat (if negative then -value else value))
  match String.ofList (body.map Char.toLower) with
  | "inf" => signed (1 / 0)
  | "infinity" => signed (1 / 0)
  | "nan" => signed (0 / 0)
  | _ => (Decimal.parse? body).map (·.toBinary negative)

def toInt? : Value → Option Value
  | .undefined _ => some (.int 0)
  | .none => some (.int 0)
  | .bool value => some (.int (if value then 1 else 0))
  | .int value => some (.int value)
  | .float value => some (.int value.truncate)
  | .text value _ =>
      match readInt? value.toList with
      | some n => some (.int n)
      | none => (readFloat? value.toList).map fun x => .int x.truncate
  | _ => none

def toFloat? : Value → Option Value
  | .undefined _ => some (.ofFloat 0)
  | .none => some (.ofFloat 0)
  | .text value _ => (readFloat? value.toList).map .float
  | value => (value.float? false).map .ofFloat

def round? (value : Value) (places : Int) : Option Value :=
  match value with
  | .int n => some (.int n)
  | .float x =>
      let unit := Float.ofNat (Nat.pow 10 places.natAbs)
      let scale := if places < 0 then 1 / unit else unit
      some (.ofFloat ((scale * x.toFloat).round / scale))
  | _ => none

def abs? : Value → Option Value
  | .int n => Value.ofInt? n.natAbs
  | .float x => some (.ofFloat x.toFloat.abs)
  | _ => none

def orderFor (caseMatters : Bool) (a b : Value) : Ordering :=
  match caseMatters, a.text?, b.text? with
  | false, some x, some y => compare (Text.lower x) (Text.lower y)
  | _, _, _ => a.order b

def path? (path : String) (value : Value) : Option Value :=
  (Text.split '.' path).foldlM (fun value part =>
    if value.isUndefined then none
    else
      let digits := part.toList
      let found :=
        if !digits.isEmpty && digits.all Char.isDigit then
          value.item? (.int (Decimal.ofDigits digits))
        else value.attr? part
      some (found.getD .missing)) value

def orderBy (attr : Option String) (caseMatters : Bool) (a b : Value) : Ordering :=
  match attr with
  | none => orderFor caseMatters a b
  | some path =>
      match path? path a, path? path b with
      | some x, some y => orderFor caseMatters x y
      | _, _ => .eq

def sortBy {α : Type} (order : α → α → Ordering) (items : List α) : List α :=
  items.mergeSort fun a b => order a b != .gt

def sort? (value : Value) (args : Args) : Option Value := do
  let items ← value.items?
  let caseMatters ← args.flag? "case_sensitive"
  let reverse ← args.flag? "reverse"
  let attr ← (args.get? "attribute").mapM Value.text?
  if !args.places.isEmpty || !args.onlyNames ["case_sensitive", "reverse", "attribute"] then none
  else
    let sorted := sortBy (orderBy attr caseMatters) items
    return .ofList (if reverse then sorted.reverse else sorted)

def pairsOf (entries : List (Value × Value)) : Value :=
  .ofList (entries.map fun entry => .ofList [entry.1, entry.2])

def dictSort? (value : Value) (args : Args) : Option Value := do
  match value with
  | .map _ entries =>
      let caseMatters ← args.flag? "case_sensitive"
      let reverse ← args.flag? "reverse"
      let byValue := (args.get? "by").bind Value.text? == some "value"
      if !args.places.isEmpty || !args.onlyNames ["case_sensitive", "reverse", "by"] then none
      else
        let part := fun (entry : Value × Value) => if byValue then entry.2 else entry.1
        let sorted := sortBy (fun a b => orderFor caseMatters (part a) (part b)) entries
        return pairsOf (if reverse then sorted.reverse else sorted)
  | _ => none

def unique? (value : Value) (args : Args) : Option Value := do
  let items ← value.items?
  let caseMatters ← args.flag? "case_sensitive"
  let attr ← (args.get? "attribute").mapM Value.text?
  let keyOf := fun (item : Value) =>
    match attr with
    | none => item
    | some path => (path? path item).getD .missing
  let (found, _) := items.foldl (fun (state : List Value × List Value) item =>
    let key := keyOf item
    if state.2.any fun other => orderFor caseMatters key other == .eq then state
    else (item :: state.1, key :: state.2)) ([], [])
  return .ofList found.reverse

def batchesOf (count : Nat) (fill : Option Value) : Nat → List Value → List Value
  | 0, _ => []
  | fuel + 1, items =>
      if items.isEmpty then []
      else
        let group := items.take count
        let missing := match fill with
          | none => []
          | some value => List.replicate (count - group.length) value
        .ofList (group ++ missing) :: batchesOf count fill fuel (items.drop count)

def slicesOf (count : Nat) (fill : Option Value) (items : List Value) : List Value :=
  let size := items.length / count
  let larger := items.length % count
  (List.range count).map fun n =>
    let start := n * size + min n larger
    let group := (items.drop start).take (size + if n < larger then 1 else 0)
    .ofList (if larger ≤ n then group ++ fill.toList else group)

def sum? (value : Value) : Option Value := do
  (← value.items?).foldlM (fun total item =>
    if item.isUndefined then some total
    else if item.isNumber then total.add? item
    else none) (.int 0)

def least (before : Value → Value → Bool) : List Value → Value
  | [] => .missing
  | item :: items => items.foldl (fun best other => if before other best then other else best) item

def reverse? : Value → Option Value
  | .text value _ => some (.ofText (String.ofList value.toList.reverse))
  | .list _ items => some (.list .derived items.reverse)
  | .map _ entries => some (.list .derived (entries.reverse.map Prod.fst))
  | .undefined silent => some (.undefined silent)
  | .none => some .none
  | _ => none

def chain? (values : List Value) : Option Value :=
  if values.all fun value => value matches .map _ _ then
    some (.ofEntries false (values.flatMap fun value =>
      match value with
      | .map _ entries => entries
      | _ => []))
  else (values.mapM Value.items?).map fun lists => .list .derived lists.flatten

def zip? (values : List Value) : Option Value := do
  let lists ← values.mapM Value.items?
  let count := (lists.map List.length).min?.getD 0
  return .list .derived ((List.range count).map fun n => .ofList (lists.filterMap (·[n]?)))

def padding (depth : Nat) : String :=
  String.ofList (List.replicate (4 * depth) ' ')

mutual

def prettyText (depth : Nat) : Value → String
  | .list shape items =>
      if shape = .stream then "<iterator>"
      else if items.isEmpty then "[]"
      else "[\n" ++ prettyItems (depth + 1) items ++ padding depth ++ "]"
  | .map _ entries =>
      if entries.isEmpty then "\x7b\x7d"
      else "\x7b\n" ++ prettyEntries (depth + 1) entries ++ padding depth ++ "\x7d"
  | value => value.nested

def prettyItems (depth : Nat) : List Value → String
  | [] => ""
  | item :: items => padding depth ++ prettyText depth item ++ ",\n" ++ prettyItems depth items

def prettyEntries (depth : Nat) : List (Value × Value) → String
  | [] => ""
  | (key, value) :: entries =>
      padding depth ++ prettyText depth key ++ ": " ++ prettyText depth value ++ ",\n" ++
        prettyEntries depth entries

end

def textFilter? (name : String) : Option (String → Value) :=
  match name with
  | "lower" => some fun text => .ofText (Text.lower text)
  | "upper" => some fun text => .ofText (Text.upper text)
  | "title" => some fun text => .ofText (String.ofList (titleFrom true text.toList))
  | "capitalize" => some fun text => .ofText (capitalize text)
  | "safe" => some fun text => .text text true
  | "lines" => some fun text => .ofList ((Text.lines text).map .ofText)
  | _ => none

def valueFilter? (name : String) : Option (Value → Option Value) :=
  match name with
  | "escape" => some fun value => some (.text value.markup true)
  | "e" => some fun value => some (.text value.markup true)
  | "length" => some fun value => value.length?.map fun n => .int n
  | "count" => some fun value => value.length?.map fun n => .int n
  | "items" => some fun value =>
      match value with
      | .map _ entries => some (pairsOf entries)
      | _ => none
  | "reverse" => some reverse?
  | "abs" => some abs?
  | "int" => some toInt?
  | "float" => some toFloat?
  | "first" => some fun value =>
      if value matches .none then none
      else value.items?.map fun items => items.head?.getD .missing
  | "last" => some fun value =>
      if value matches .none then none
      else value.items?.map fun items => items.getLast?.getD .missing
  | "min" => some fun value =>
      value.items?.map (least fun a b => a.order b == .lt)
  | "max" => some fun value =>
      value.items?.map (least fun a b => a.order b != .lt)
  | "list" => some fun value => value.items?.map .ofList
  | "bool" => some fun value => some (.bool value.isTrue)
  | "sum" => some sum?
  | "pprint" => some fun value => some (.ofText (prettyText 0 value))
  | "string" => some fun value =>
      if value.text?.isSome then some value else some (.ofText value.display)
  | _ => none

def argsFilter? (name : String) (value : Value) (args : List Value) : Option Value :=
  let named := Args.ofValues args
  match name, args with
  | "replace", [source, image] => do
      let text := (← value.textArg?).toList
      let image := (← image.textArg?).toList
      return .ofText (String.ofList
        (replaceAll (← source.textArg?).toList image (text.length + 1) text))
  | "trim", [] => value.textArg?.map fun text => .ofText (Text.trim text)
  | "trim", [chars] => do
      let text ← value.textArg?
      match ← Value.optional Value.textArg? (some chars) with
      | none => return .ofText (Text.trim text)
      | some chars => return .ofText (String.ofList (trimOf chars.toList text.toList))
  | "join", _ => do
      if 1 < args.length then none
      else if value.isUndefined then return .ofText ""
      else
        let joiner ← Value.optional Value.textArg? args.head?
        return .ofText (joinItems (joiner.getD "") (← value.items?))
  | "split", _ => do
      if 2 < args.length then none
      else
        let text ← value.textArg?
        let separator ← Value.optional Value.textArg? args.head?
        let limit ← Value.optional Value.wide? args[1]?
        return .list .stream ((splitText text separator limit).map .ofText)
  | "default", _ => defaultTo args
  | "d", _ => defaultTo args
  | "round", _ => do
      if 1 < args.length then none
      else round? value ((← Value.optional Value.wide? args.head?).getD 0)
  | "attr", [key] => some ((value.item? key).getD .missing)
  | "indent", width :: rest => do
      if 2 < rest.length then none
      else
        let first ← Value.optional Value.bool? rest.head?
        let blank ← Value.optional Value.bool? rest[1]?
        return .ofText (indentLines (← width.size?) (first.getD false) (blank.getD false)
          (← value.textArg?))
  | "batch", count :: rest => do
      if 1 < rest.length then none
      else
        let items ← value.items?
        let count ← count.size?
        if count = 0 then none
        else return .ofList (batchesOf count rest.head? items.length items)
  | "slice", count :: rest => do
      if 1 < rest.length then none
      else
        let items ← value.items?
        let count ← count.size?
        if count = 0 then none else return .ofList (slicesOf count rest.head? items)
  | "sort", _ => sort? value named
  | "dictsort", _ => dictSort? value named
  | "unique", _ => unique? value named
  | "chain", _ => chain? (value :: args)
  | "zip", _ => zip? (value :: args)
  | _, _ => none
where
  defaultTo (args : List Value) : Option Value := do
    if 2 < args.length then none
    else
      let lax ← Value.optional Value.bool? args[1]?
      if value.isUndefined || (lax.getD false && !value.isTrue) then
        return args.head?.getD (.ofText "")
      else return value

def callingNames : List String :=
  ["select", "reject", "selectattr", "rejectattr", "map"]

def argsNames : List String :=
  ["replace", "trim", "join", "split", "default", "d", "round", "attr", "indent", "batch", "slice",
    "sort", "dictsort", "unique", "chain", "zip"]

def isFilterName (name : String) : Bool :=
  (textFilter? name).isSome || (valueFilter? name).isSome || argsNames.contains name ||
    callingNames.contains name

def keep (wanted : Bool) (part : Value → Option Value) (args : List Value) (items : List Value) :
    Option Value := do
  let kept ← items.filterM fun item => do
    let value ← part item
    let holds ← match args with
      | [] => some value.isTrue
      | name :: more => check? (← name.textArg?) value more
    return holds == wanted
  return .ofList kept

def mapAttribute (attr : Value) (absent : Option Value) (items : List Value) :
    Option Value := do
  let values ← items.mapM fun item =>
    let found := match attr.text? with
      | some path => path? path item
      | none => if item.isUndefined then none else some ((item.item? attr).getD .missing)
    match found, absent with
    | some value, some absent => some (if value.isUndefined then absent else value)
    | some value, none => some value
    | none, absent => absent
  return .ofList values

def filter? : Nat → String → Value → List Value → Option Value
  | 0, _, _, _ => none
  | fuel + 1, name, value, args =>
      match textFilter? name, valueFilter? name with
      | some apply, _ => if args.isEmpty then value.textArg?.map apply else none
      | none, some apply => if args.isEmpty then apply value else none
      | none, none =>
          match name, args with
          | "select", args => value.items?.bind (keep true some args)
          | "reject", args => value.items?.bind (keep false some args)
          | "selectattr", attr :: args =>
              attr.textArg?.bind fun path => value.items?.bind (keep true (path? path) args)
          | "rejectattr", attr :: args =>
              attr.textArg?.bind fun path => value.items?.bind (keep false (path? path) args)
          | "map", args =>
              let named := Args.ofValues args
              match named.get? "attribute", named.places with
              | some attr, [] =>
                  if named.onlyNames ["attribute", "default"] then
                    value.items?.bind (mapAttribute attr (named.names.lookup "default"))
                  else none
              | some _, _ => none
              | none, name :: more => do
                  let name ← name.text?
                  let images ← (← value.items?).mapM fun item => filter? fuel name item more
                  return .ofList images
              | none, [] => none
          | name, args => argsFilter? name value args

def filterDepth : Nat := 8

end SqlWorkflow.Template
