import SqlWorkflow.Yaml.Token

-- Where the tokens stop being well formed the document is broken, behind all that was read before.
namespace SqlWorkflow.Yaml

structure Reader where
  tokens : List Token
  anchors : List (String × Nat) := []
  nodes : List (Nat × Document) := []
  handles : List (String × String) := [("!", "!"), ("!!", "tag:yaml.org,2002:")]
  failed : Bool := false

abbrev Parsed := Document × Reader

namespace Reader

def fail (r : Reader) : Parsed :=
  (.broken, { r with tokens := [], failed := true })

def empty : Document :=
  .scalar "" .null

def startsNode (r : Reader) (ends : List Token) : Bool :=
  r.tokens.head?.any (!ends.contains ·)

def distinctAnchors (r : Reader) : Nat :=
  (r.anchors.map Prod.fst).eraseDups.length

def nameNode (r : Reader) : Option String → Option Nat × Reader
  | none => (none, r)
  | some name =>
      let number := r.distinctAnchors
      (some number, { r with anchors := (name, number) :: r.anchors })

def finish (number : Option Nat) (parsed : Parsed) : Parsed :=
  match number with
  | none => parsed
  | some number => (parsed.1, { parsed.2 with nodes := (number, parsed.1) :: parsed.2.nodes })

def aliased? (r : Reader) (name : String) : Option Document := do
  r.nodes.lookup (← r.anchors.lookup name)

def tagName? (r : Reader) (handle name : String) : Option String :=
  if handle.isEmpty then some name else (r.handles.lookup handle).map (· ++ name)

def standardScalar (tag text : String) : Scalar :=
  let value := text.toList
  match tag with
  | "tag:yaml.org,2002:bool" => ((bool? text).map Scalar.bool).getD .unusable
  | "tag:yaml.org,2002:int" => (((int? value).filter fitsInt).map intScalar).getD .unusable
  | "tag:yaml.org,2002:float" => ((float? value).map Scalar.float).getD .unusable
  | "tag:yaml.org,2002:null" => if isNull text then .null else .unusable
  | _ => .text

def untagged (text : String) (plain : Bool) : Document :=
  .scalar text (if plain then plainValue text else .text)

-- A tag of the document's own starts with an exclamation mark, which is not part of its name.
def ownTag? (tag : String) : Option String :=
  match tag.toList with
  | '!' :: [] => some "!"
  | '!' :: name => some (String.ofList name)
  | _ => none

def scalar (tag : Option String) (text : String) (plain : Bool) : Document :=
  match tag with
  | none => untagged text plain
  | some tag =>
      match ownTag? tag with
      | some name => .tagged name (untagged text plain)
      | none => .scalar text (standardScalar tag text)

def collection (tag : Option String) (content : Document) : Document :=
  match tag.bind ownTag? with
  | some name => .tagged name content
  | none => content

def properties (r : Reader) : Option (Option String × Option String × Reader) :=
  let named := fun (handle name : String) (anchor : Option String) (rest : List Token) =>
    (r.tagName? handle name).map fun tag => (anchor, some tag, { r with tokens := rest })
  match r.tokens with
  | .anchor anchor :: .tag handle name :: rest => named handle name (some anchor) rest
  | .tag handle name :: .anchor anchor :: rest => named handle name (some anchor) rest
  | .anchor anchor :: rest => some (some anchor, none, { r with tokens := rest })
  | .tag handle name :: rest => named handle name none rest
  | _ => some (none, none, r)

end Reader

open Reader in
mutual

-- A node nested at most `depth` deep. Only block context opens block collections, and only after a
-- key or a value does an entry dash start a sequence without indentation.
def readNode : Nat → Nat → Bool → Bool → Reader → Parsed
  | 0, _, _, _, r => r.fail
  | fuel + 1, depth, block, dashes, r =>
      match r.tokens with
      | .alias name :: rest =>
          match r.aliased? name with
          | some document => (document, { r with tokens := rest })
          | none => r.fail
      | _ =>
          match r.properties with
          | none => r.fail
          | some (anchor, tag, r) =>
              let marked := anchor.isSome || tag.isSome
              let (number, r) := r.nameNode anchor
              finish number (readContent fuel depth block dashes marked tag r)

def readContent : Nat → Nat → Bool → Bool → Bool → Option String → Reader → Parsed
  | 0, _, _, _, _, _, r => r.fail
  | fuel + 1, depth, block, dashes, marked, tag, r =>
      let sequence := fun (result : List Document × Reader) =>
        (collection tag (.sequence result.1), result.2)
      let mapping := fun (result : List (Document × Document) × Reader) =>
        (collection tag (.mapping result.1), result.2)
      let inner := depth - 1
      let absent := if marked then (scalar tag "" true, r) else r.fail
      match r.tokens with
      | .scalar text plain :: rest => (scalar tag text plain, { r with tokens := rest })
      | .blockEntry :: _ =>
          if !dashes then absent
          else if depth = 0 then r.fail
          else sequence (readDashes fuel inner r)
      | .flowSequenceStart :: rest =>
          if depth = 0 then r.fail
          else sequence (readFlowItems fuel inner true { r with tokens := rest })
      | .flowMappingStart :: rest =>
          if depth = 0 then r.fail
          else mapping (readFlowEntries fuel inner true { r with tokens := rest })
      | .blockSequenceStart :: rest =>
          if !block then absent
          else if depth = 0 then r.fail
          else sequence (readBlockItems fuel inner { r with tokens := rest })
      | .blockMappingStart :: rest =>
          if !block then absent
          else if depth = 0 then r.fail
          else mapping (readBlockEntries fuel inner { r with tokens := rest })
      | [] => r.fail
      | _ => absent

def readBlockItems : Nat → Nat → Reader → List Document × Reader
  | 0, _, r => ([.broken], r.fail.2)
  | fuel + 1, depth, r =>
      match r.tokens with
      | .blockEntry :: rest =>
          let (item, r) := readOptional fuel depth true false [.blockEntry, .blockEnd]
            { r with tokens := rest }
          if r.failed then ([item], r)
          else
            let (items, r) := readBlockItems fuel depth r
            (item :: items, r)
      | .blockEnd :: rest => ([], { r with tokens := rest })
      | _ => ([.broken], r.fail.2)

-- The items of a sequence whose dashes stand at the indentation of the mapping around it.
def readDashes : Nat → Nat → Reader → List Document × Reader
  | 0, _, r => ([.broken], r.fail.2)
  | fuel + 1, depth, r =>
      match r.tokens with
      | .blockEntry :: rest =>
          let (item, r) := readOptional fuel depth true false [.blockEntry, .key, .value, .blockEnd]
            { r with tokens := rest }
          if r.failed then ([item], r)
          else
            let (items, r) := readDashes fuel depth r
            (item :: items, r)
      | [] => ([.broken], r.fail.2)
      | _ => ([], r)

def readBlockEntries : Nat → Nat → Reader → List (Document × Document) × Reader
  | 0, _, r => ([(.broken, .broken)], r.fail.2)
  | fuel + 1, depth, r =>
      match r.tokens with
      | .key :: rest =>
          let (key, r) := readOptional fuel depth true true [.key, .value, .blockEnd]
            { r with tokens := rest }
          if r.failed then ([(key, .broken)], r)
          else
            let (value, r) := match r.tokens with
              | .value :: rest =>
                  readOptional fuel depth true true [.key, .value, .blockEnd]
                    { r with tokens := rest }
              | [] => r.fail
              | _ => (empty, r)
            if r.failed then ([(key, value)], r)
            else
              let (entries, r) := readBlockEntries fuel depth r
              ((key, value) :: entries, r)
      | .blockEnd :: rest => ([], { r with tokens := rest })
      | _ => ([(.broken, .broken)], r.fail.2)

def readFlowItems : Nat → Nat → Bool → Reader → List Document × Reader
  | 0, _, _, r => ([.broken], r.fail.2)
  | fuel + 1, depth, first, r =>
      let next : Option Reader := match first, r.tokens with
        | true, _ => some r
        | false, .flowEntry :: rest => some { r with tokens := rest }
        | false, .flowSequenceEnd :: _ => some r
        | false, _ => none
      match next with
      | none => ([.broken], r.fail.2)
      | some r =>
          match r.tokens with
          | .flowSequenceEnd :: rest => ([], { r with tokens := rest })
          | .key :: rest =>
              if depth = 0 then ([.broken], r.fail.2)
              else
                let (key, value, r) := readSingleEntry fuel (depth - 1) { r with tokens := rest }
                let item := Document.mapping [(key, value)]
                if r.failed then ([item], r)
                else
                  let (items, r) := readFlowItems fuel depth false r
                  (item :: items, r)
          | _ =>
              let (item, r) := readNode fuel depth false false r
              if r.failed then ([item], r)
              else
                let (items, r) := readFlowItems fuel depth false r
                (item :: items, r)

def readSingleEntry : Nat → Nat → Reader → Document × Document × Reader
  | 0, _, r => (.broken, .broken, r.fail.2)
  | fuel + 1, depth, r =>
      let (key, r) :=
        if r.startsNode [.value, .flowEntry, .flowSequenceEnd] then
          readNode fuel depth false false r
        else match r.tokens with
          | [] => r.fail
          | _ :: rest => (empty, { r with tokens := rest })
      if r.failed then (key, .broken, r)
      else match r.tokens with
        | .value :: rest =>
            let (value, r) := readOptional fuel depth false false [.flowEntry, .flowSequenceEnd]
              { r with tokens := rest }
            (key, value, r)
        | [] => (key, .broken, r.fail.2)
        | _ => (key, empty, r)

def readFlowEntries : Nat → Nat → Bool → Reader → List (Document × Document) × Reader
  | 0, _, _, r => ([(.broken, .broken)], r.fail.2)
  | fuel + 1, depth, first, r =>
      let next : Option Reader := match first, r.tokens with
        | true, _ => some r
        | false, .flowEntry :: rest => some { r with tokens := rest }
        | false, .flowMappingEnd :: _ => some r
        | false, _ => none
      match next with
      | none => ([(.broken, .broken)], r.fail.2)
      | some r =>
          let more := fun (entry : Document × Document) (r : Reader) =>
            if r.failed then ([entry], r)
            else
              let (entries, r) := readFlowEntries fuel depth false r
              (entry :: entries, r)
          match r.tokens with
          | .flowMappingEnd :: rest => ([], { r with tokens := rest })
          | .key :: rest =>
              let (key, r) := readOptional fuel depth false false
                [.value, .flowEntry, .flowMappingEnd] { r with tokens := rest }
              if r.failed then ([(key, .broken)], r)
              else
                let (value, r) := match r.tokens with
                  | .value :: rest =>
                      readOptional fuel depth false false [.flowEntry, .flowMappingEnd]
                        { r with tokens := rest }
                  | [] => r.fail
                  | _ => (empty, r)
                more (key, value) r
          | _ =>
              let (key, r) := readNode fuel depth false false r
              if r.failed then ([(key, .broken)], r) else more (key, empty) r

def readOptional : Nat → Nat → Bool → Bool → List Token → Reader → Parsed
  | 0, _, _, _, _, r => r.fail
  | fuel + 1, depth, block, dashes, ends, r =>
      match r.tokens with
      | [] => r.fail
      | _ => if r.startsNode ends then readNode fuel depth block dashes r else (empty, r)

end

def maxDepth : Nat := 128

def readDirectives : Nat → Bool → Reader → Option Reader
  | 0, _, _ => none
  | fuel + 1, versioned, r =>
      match r.tokens with
      | .version major minor :: rest =>
          if versioned || major != 1 || (minor != 1 && minor != 2) then none
          else readDirectives fuel true { r with tokens := rest }
      | .tagDirective handle start :: rest =>
          readDirectives fuel versioned
            { r with tokens := rest, handles := (handle, start) :: r.handles }
      | .documentStart :: rest => some { r with tokens := rest }
      | _ => none

def readFirst (fuel : Nat) (r : Reader) : Parsed :=
  match r.tokens with
  | [] => r.fail
  | .streamEnd :: _ => (Reader.empty, r)
  | token :: _ =>
      let explicit := match token with
        | .version _ _ => true
        | .tagDirective _ _ => true
        | .documentStart => true
        | _ => false
      if !explicit then readNode fuel maxDepth true false r
      else match readDirectives fuel false r with
        | none => r.fail
        | some r =>
            match r.tokens with
            | [] => r.fail
            | .version _ _ :: _ => (Reader.empty, r)
            | .tagDirective _ _ :: _ => (Reader.empty, r)
            | .documentStart :: _ => (Reader.empty, r)
            | .documentEnd :: _ => (Reader.empty, r)
            | .streamEnd :: _ => (Reader.empty, r)
            | _ => readNode fuel maxDepth true false r

def readDocument (text : String) : Document × Bool :=
  let (tokens, _) := Token.ofText text
  let (document, r) := readFirst (4 * tokens.length + 8) { tokens }
  (document, !r.failed && (r.tokens.dropWhile (· == .documentEnd)).head? == some .streamEnd)

end SqlWorkflow.Yaml
