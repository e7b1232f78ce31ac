import SqlWorkflow.Reference

namespace SqlWorkflow

structure NameIndex where
  settings : Settings
  byName : SortedMap String (List (Target × ActionKind)) := ∅

namespace NameIndex

def filed (index : NameIndex) (name : String) : List (Target × ActionKind) :=
  (index.byName.get? name).getD []

-- By target. No target is filed twice, so its kind plays no part in the order.
def inOrder (entries : List (Target × ActionKind)) : List (Target × ActionKind) :=
  entries.mergeSort fun a b => (compare a.1 b.1).isLE

def insert (index : NameIndex) (kind : ActionKind) (canonical : Target) : NameIndex :=
  let entries := index.filed canonical.name
  if entries.any (·.1 = canonical) then index
  else { index with
    byName := index.byName.insert canonical.name (inOrder (entries ++ [(canonical, kind)])) }

def ofList (settings : Settings) (declared : List (ActionKind × Target)) : NameIndex :=
  declared.foldl (fun index entry => index.insert entry.1 entry.2) { settings }

def size (index : NameIndex) : Nat :=
  index.byName.toList.foldl (fun count filed => count + filed.2.length) 0

def matching (index : NameIndex) (reference : Reference) : List (Target × ActionKind) :=
  (index.filed reference.lastName).filter fun entry => entry.1.matchesParts reference.parts

def resolve (index : NameIndex) (reference : Reference) : Resolution :=
  match index.matching reference with
  | [(canonical, kind)] => .found canonical (index.settings.runtimeTarget kind canonical)
  | [] =>
      let canonical := NameTable.placeholder index.settings reference
      .missing canonical (index.settings.runtimeTarget .table canonical)
  | several => .ambiguous (several.map Prod.fst)

end NameIndex

end SqlWorkflow
