import SqlWorkflow.Proofs.Yaml.Steps
import SqlWorkflow.Yaml.Node

-- What the reader of nodes takes in flow context opens as many flow mappings as it closes and
-- closes none that it has not opened, so the token that ends a flow mapping is the one at the depth
-- where it began.
namespace SqlWorkflow.Yaml

def depthStep (depth : Nat) : Token → Option Nat
  | .flowMappingStart => some (depth + 1)
  | .flowMappingEnd => match depth with
      | 0 => none
      | outer + 1 => some outer
  | _ => some depth

-- The number of open flow mappings behind some tokens; none if one is closed that is not open.
def depthAfter (depth : Nat) (tokens : List Token) : Option Nat :=
  tokens.foldlM depthStep depth

def Level (tokens : List Token) : Prop :=
  ∀ depth, depthAfter depth tokens = some depth

theorem depth_after_cons (depth : Nat) (token : Token) (tokens : List Token) :
    depthAfter depth (token :: tokens) = (depthStep depth token).bind (depthAfter · tokens) :=
  List.foldlM_cons

theorem depth_after_append (depth : Nat) (a b : List Token) :
    depthAfter depth (a ++ b) = (depthAfter depth a).bind (depthAfter · b) :=
  List.foldlM_append

theorem level_nil : Level [] := fun _ => rfl

theorem Level.append {a b : List Token} (first : Level a) (second : Level b) : Level (a ++ b) :=
  fun depth => by rw [depth_after_append, first depth, Option.bind_some, second depth]

theorem level_other (token : Token) (other : token.isMark = false) : Level [token] := by
  intro depth
  cases token <;> first | rfl | cases other

theorem level_others (tokens : List Token) (others : ∀ token ∈ tokens, token.isMark = false) :
    Level tokens := by
  induction tokens with
  | nil => exact level_nil
  | cons token tokens ih =>
      obtain ⟨first, rest⟩ := List.forall_mem_cons.mp others
      exact (level_other token first).append (ih rest)

theorem Level.nested {inner : List Token} (level : Level inner) :
    Level (.flowMappingStart :: (inner ++ [.flowMappingEnd])) := by
  intro depth
  rw [depth_after_cons, depthStep, Option.bind_some, depth_after_append, level (depth + 1)]
  rfl

theorem depth_after_marks (depth : Nat) (tokens : List Token) :
    depthAfter depth (marks tokens) = depthAfter depth tokens := by
  induction tokens generalizing depth with
  | nil => rfl
  | cons token tokens ih =>
      rw [marks, List.filter_cons]
      split
      · rw [depth_after_cons, depth_after_cons]
        exact congrArg _ (funext ih)
      · rename_i other
        have still : depthStep depth token = some depth := by
          cases token <;> first | rfl | exact absurd rfl other
        rw [depth_after_cons, still]
        exact ih depth

def Takes (tokens later : List Token) : Prop :=
  ∃ taken, tokens = taken ++ later ∧ Level taken

def Closes (tokens later : List Token) : Prop :=
  ∃ taken, tokens = taken ++ .flowMappingEnd :: later ∧ Level taken

theorem takes_refl (tokens : List Token) : Takes tokens tokens :=
  ⟨[], rfl, level_nil⟩

theorem Takes.trans {a b c : List Token} (first : Takes a b) (second : Takes b c) : Takes a c := by
  obtain ⟨taken, rfl, level⟩ := first
  obtain ⟨more, rfl, levelMore⟩ := second
  exact ⟨taken ++ more, (List.append_assoc _ _ _).symm, level.append levelMore⟩

theorem Takes.closes {a b c : List Token} (first : Takes a b) (second : Closes b c) :
    Closes a c := by
  obtain ⟨taken, rfl, level⟩ := first
  obtain ⟨more, rfl, levelMore⟩ := second
  exact ⟨taken ++ more, (List.append_assoc _ _ _).symm, level.append levelMore⟩

theorem takes_token (token : Token) (rest : List Token) (other : token.isMark = false) :
    Takes (token :: rest) rest :=
  ⟨[token], rfl, level_other token other⟩

theorem Closes.nested {tokens later : List Token} (closes : Closes tokens later) :
    Takes (.flowMappingStart :: tokens) later := by
  obtain ⟨taken, rfl, level⟩ := closes
  exact ⟨_, by simp, level.nested⟩

namespace Reader

-- Properties are an anchor and a tag in either order, and reading them changes nothing else.
theorem properties_rest (r next : Reader) (anchor tag : Option String)
    (read : r.properties = some (anchor, tag, next)) :
    ∃ taken, r.tokens = taken ++ next.tokens ∧ (∀ token ∈ taken, token.isMark = false) ∧
      next = { r with tokens := next.tokens } := by
  unfold properties at read
  extract_lets named at read
  have tagged (handle name : String) (anchor' : Option String) (rest : List Token)
      (found : named handle name anchor' rest = some (anchor, tag, next)) :
      next = { r with tokens := rest } := by
    obtain ⟨_, _, same⟩ := Option.map_eq_some_iff.mp found
    cases same
    rfl
  split at read
  · rename_i name handle text rest shape
    obtain rfl := tagged _ _ _ _ read
    exact ⟨[.anchor name, .tag handle text], shape, by simp [Token.isMark], rfl⟩
  · rename_i handle text name rest shape
    obtain rfl := tagged _ _ _ _ read
    exact ⟨[.tag handle text, .anchor name], shape, by simp [Token.isMark], rfl⟩
  · rename_i name rest _ shape
    cases read
    exact ⟨[.anchor name], shape, by simp [Token.isMark], rfl⟩
  · rename_i handle text rest _ shape
    obtain rfl := tagged _ _ _ _ read
    exact ⟨[.tag handle text], shape, by simp [Token.isMark], rfl⟩
  · cases read
    exact ⟨[], rfl, by simp, rfl⟩

theorem properties_take (r next : Reader) (anchor tag : Option String)
    (read : r.properties = some (anchor, tag, next)) : Takes r.tokens next.tokens := by
  obtain ⟨taken, shape, others, _⟩ := properties_rest r next anchor tag read
  exact ⟨taken, shape, level_others taken others⟩

theorem name_node_tokens (r : Reader) (anchor : Option String) :
    (r.nameNode anchor).2.tokens = r.tokens := by
  cases anchor <;> rfl

theorem finish_tokens (number : Option Nat) (parsed : Parsed) :
    (finish number parsed).2.tokens = parsed.2.tokens := by
  cases number <;> rfl

theorem finish_failed (number : Option Nat) (parsed : Parsed) :
    (finish number parsed).2.failed = parsed.2.failed := by
  cases number <;> rfl

end Reader

open Reader

theorem items_separated (fuel depth : Nat) (r next : Reader) (items : List Document)
    (read : readFlowItems (fuel + 1) depth false r = (items, next)) (fine : next.failed = false) :
    ∃ begun, Takes r.tokens begun.tokens ∧
      readFlowItems (fuel + 1) depth true begun = (items, next) := by
  rw [readFlowItems.eq_def] at read
  dsimp only at read
  split at read
  · cases read
    cases fine
  · rename_i begun separated
    refine ⟨begun, ?_, by rw [readFlowItems]; exact read⟩
    split at separated
    · rename_i same
      cases same
    · rename_i rest _ shape
      cases separated
      rw [shape]
      exact takes_token .flowEntry rest rfl
    · cases separated
      exact takes_refl _
    · cases separated

theorem entries_separated (fuel depth : Nat) (r next : Reader) (entries : List (Document × Document))
    (read : readFlowEntries (fuel + 1) depth false r = (entries, next)) (fine : next.failed = false) :
    ∃ begun, Takes r.tokens begun.tokens ∧
      readFlowEntries (fuel + 1) depth true begun = (entries, next) := by
  rw [readFlowEntries.eq_def] at read
  dsimp only at read
  split at read
  · cases read
    cases fine
  · rename_i begun separated
    refine ⟨begun, ?_, by rw [readFlowEntries]; exact read⟩
    split at separated
    · rename_i same
      cases same
    · rename_i rest _ shape
      cases separated
      rw [shape]
      exact takes_token .flowEntry rest rfl
    · cases separated
      exact takes_refl _
    · cases separated

structure FlowReads (fuel : Nat) : Prop where
  node : ∀ depth r document next, readNode fuel depth false false r = (document, next) →
    next.failed = false → Takes r.tokens next.tokens
  content : ∀ depth marked tag r document next,
    readContent fuel depth false false marked tag r = (document, next) →
      next.failed = false → Takes r.tokens next.tokens
  optional : ∀ depth ends r document next,
    readOptional fuel depth false false ends r = (document, next) →
      next.failed = false → Takes r.tokens next.tokens
  single : ∀ depth r key value next, readSingleEntry fuel depth r = (key, value, next) →
    next.failed = false → Takes r.tokens next.tokens
  items : ∀ depth first r items next, readFlowItems fuel depth first r = (items, next) →
    next.failed = false → Takes r.tokens next.tokens
  entries : ∀ depth first r entries next, readFlowEntries fuel depth first r = (entries, next) →
    next.failed = false → Closes r.tokens next.tokens

theorem works_before {α : Type} (behind next : Reader) (broken found : α) (onward : α × Reader)
    (fine : next.failed = false)
    (read : (if behind.failed then (broken, behind) else onward) = (found, next)) :
    behind.failed = false ∧ onward = (found, next) := by
  split at read
  · rename_i failed
    cases read
    rw [fine] at failed
    cases failed
  · rename_i works
    exact ⟨by simpa using works, read⟩

section Step

variable {fuel : Nat} (reads : FlowReads fuel)

include reads

theorem node_takes (depth : Nat) (r next : Reader) (document : Document)
    (read : readNode (fuel + 1) depth false false r = (document, next))
    (fine : next.failed = false) : Takes r.tokens next.tokens := by
  rw [readNode] at read
  split at read
  · rename_i name rest shape
    split at read
    · obtain ⟨_, rfl⟩ := Prod.mk.inj read
      rw [shape]
      exact takes_token (.alias name) rest rfl
    · cases read
      cases fine
  · split at read
    · cases read
      cases fine
    · rename_i anchor tag behind properties
      have front := properties_take r behind anchor tag properties
      extract_lets marked at read
      split at read
      rename_i number named naming
      have same : named.tokens = behind.tokens := by
        rw [← name_node_tokens behind anchor, naming]
      generalize contents : readContent fuel depth false false marked tag named = parsed at read
      have tokens := finish_tokens number parsed
      have failed := finish_failed number parsed
      rw [read] at tokens failed
      have inner := reads.content depth marked tag named parsed.1 parsed.2 contents
        (failed.symm.trans fine)
      rw [same] at inner
      rw [show next.tokens = parsed.2.tokens from tokens]
      exact front.trans inner

theorem content_takes (depth : Nat) (marked : Bool) (tag : Option String) (r next : Reader)
    (document : Document)
    (read : readContent (fuel + 1) depth false false marked tag r = (document, next))
    (fine : next.failed = false) : Takes r.tokens next.tokens := by
  have absent (read : (if marked then (scalar tag "" true, r) else r.fail) = (document, next)) :
      Takes r.tokens next.tokens := by
    split at read
    · cases read
      exact takes_refl _
    · cases read
      cases fine
  rw [readContent] at read
  split at read
  · rename_i text plain rest shape
    cases read
    rw [shape]
    exact takes_token (.scalar text plain) rest rfl
  · exact absent read
  · rename_i rest shape
    split at read
    · cases read
      cases fine
    · obtain ⟨_, same⟩ := Prod.mk.inj read
      rw [shape]
      refine (takes_token .flowSequenceStart rest rfl).trans ?_
      exact reads.items (depth - 1) true { r with tokens := rest } _ next (Prod.ext rfl same) fine
  · rename_i rest shape
    split at read
    · cases read
      cases fine
    · obtain ⟨_, same⟩ := Prod.mk.inj read
      rw [shape]
      refine Closes.nested ?_
      exact reads.entries (depth - 1) true { r with tokens := rest } _ next (Prod.ext rfl same) fine
  · exact absent read
  · exact absent read
  · cases read
    cases fine
  · exact absent read

theorem optional_takes (depth : Nat) (ends : List Token) (r next : Reader) (document : Document)
    (read : readOptional (fuel + 1) depth false false ends r = (document, next))
    (fine : next.failed = false) : Takes r.tokens next.tokens := by
  rw [readOptional] at read
  split at read
  · cases read
    cases fine
  · split at read
    · exact reads.node depth r document next read fine
    · cases read
      exact takes_refl _

theorem single_takes (depth : Nat) (r next : Reader) (key value : Document)
    (read : readSingleEntry (fuel + 1) depth r = (key, value, next))
    (fine : next.failed = false) : Takes r.tokens next.tokens := by
  rw [readSingleEntry] at read
  generalize parsed : (if r.startsNode _ then _ else _ : Parsed) = first at read
  have taken (fine : first.2.failed = false) : Takes r.tokens first.2.tokens := by
    split at parsed
    · exact reads.node depth r first.1 first.2 parsed fine
    · rename_i ends
      split at parsed
      · subst parsed
        cases fine
      · rename_i token rest shape
        subst parsed
        have known : token ∈ [Token.value, .flowEntry, .flowSequenceEnd] := by
          rw [startsNode, shape, List.head?_cons, Option.any_some, Bool.not_eq_true,
            Bool.not_eq_false'] at ends
          exact List.contains_iff_mem.mp ends
        have others : ∀ t ∈ [Token.value, .flowEntry, .flowSequenceEnd], t.isMark = false := by
          decide
        rw [shape]
        exact takes_token token rest (others token known)
  obtain ⟨document, behind⟩ := first
  dsimp only at read taken
  split at read
  · rename_i failed
    cases read
    rw [fine] at failed
    cases failed
  · rename_i works
    have before := taken (by simpa using works)
    split at read
    · rename_i rest shape
      rw [shape] at before
      generalize found : readOptional fuel depth false false _ _ = answer at read
      cases read
      exact before.trans ((takes_token .value rest rfl).trans
        (reads.optional depth _ { behind with tokens := rest } answer.1 answer.2 found fine))
    · cases read
      cases fine
    · cases read
      exact before

theorem first_items_take (depth : Nat) (r next : Reader) (items : List Document)
    (read : readFlowItems (fuel + 1) depth true r = (items, next))
    (fine : next.failed = false) : Takes r.tokens next.tokens := by
  rw [readFlowItems] at read
  split at read
  · rename_i rest shape
    cases read
    rw [shape]
    exact takes_token .flowSequenceEnd rest rfl
  · rename_i rest shape
    split at read
    · cases read
      cases fine
    · split at read
      rename_i key value behind found
      obtain ⟨works, read⟩ := works_before behind next _ _ _ fine read
      have item := reads.single _ _ _ _ _ found works
      generalize more : readFlowItems fuel depth false behind = others at read
      cases read
      rw [shape]
      exact (takes_token .key rest rfl).trans
        (item.trans (reads.items depth false behind others.1 others.2 more fine))
  · split at read
    rename_i item behind found
    obtain ⟨works, read⟩ := works_before behind next _ _ _ fine read
    have first := reads.node _ _ _ _ found works
    generalize more : readFlowItems fuel depth false behind = others at read
    cases read
    exact first.trans (reads.items depth false behind others.1 others.2 more fine)

theorem first_entries_close (depth : Nat) (r next : Reader) (entries : List (Document × Document))
    (read : readFlowEntries (fuel + 1) depth true r = (entries, next))
    (fine : next.failed = false) : Closes r.tokens next.tokens := by
  -- what comes behind an entry
  have others (entry : Document × Document) (behind : Reader)
      (before : behind.failed = false → Takes r.tokens behind.tokens)
      (read : (if behind.failed then ([entry], behind)
        else (readFlowEntries fuel depth false behind).map (entry :: ·) id) = (entries, next)) :
      Closes r.tokens next.tokens := by
    obtain ⟨works, read⟩ := works_before behind next _ _ _ fine read
    generalize more : readFlowEntries fuel depth false behind = rest at read
    cases read
    exact (before works).closes (reads.entries depth false behind rest.1 rest.2 more fine)
  rw [readFlowEntries] at read
  split at read
  · rename_i rest shape
    cases read
    rw [shape]
    exact ⟨[], rfl, level_nil⟩
  · rename_i rest shape
    split at read
    rename_i key behind found
    obtain ⟨works, read⟩ := works_before behind next _ _ _ fine read
    have opened := (takes_token .key rest rfl).trans (reads.optional _ _ _ _ _ found works)
    rw [← shape] at opened
    split at read
    rename_i value last found
    refine others (key, value) last (fun works => opened.trans ?_) read
    split at found
    · rename_i rest shape
      rw [shape]
      exact (takes_token .value rest rfl).trans (reads.optional _ _ _ _ _ found works)
    · cases found
      cases works
    · cases found
      exact takes_refl _
  · split at read
    rename_i key behind found
    exact others _ behind (reads.node _ _ _ _ found)
      (works_before behind next _ _ _ fine read).2

end Step

theorem flow_reads (fuel : Nat) : FlowReads fuel := by
  induction fuel with
  | zero =>
      -- without fuel every reader fails
      constructor
      all_goals
        intros
        rename_i read fine
        simp only [readNode, readContent, readOptional, readSingleEntry, readFlowItems,
          readFlowEntries] at read
        cases read
        cases fine
  | succ fuel reads =>
      constructor
      case node => intro depth r document next; exact node_takes reads depth r next document
      case content =>
        intro depth marked tag r document next
        exact content_takes reads depth marked tag r next document
      case optional =>
        intro depth ends r document next
        exact optional_takes reads depth ends r next document
      case single =>
        intro depth r key value next
        exact single_takes reads depth r next key value
      case items =>
        intro depth first r items next read fine
        cases first with
        | true => exact first_items_take reads depth r next items read fine
        | false =>
            obtain ⟨begun, comma, read⟩ := items_separated fuel depth r next items read fine
            exact comma.trans (first_items_take reads depth begun next items read fine)
      case entries =>
        intro depth first r entries next read fine
        cases first with
        | true => exact first_entries_close reads depth r next entries read fine
        | false =>
            obtain ⟨begun, comma, read⟩ := entries_separated fuel depth r next entries read fine
            exact comma.closes (first_entries_close reads depth begun next entries read fine)

structure IsFlowMapping (text : String) : Prop where
  starts : (Token.ofText text).1.head? = some .flowMappingStart
  accepted : (readDocument text).2 = true

theorem read_first_mapping (fuel : Nat) (rest : List Token) :
    (readFirst (fuel + 2) { tokens := .flowMappingStart :: rest }).2 =
      (readFlowEntries fuel (maxDepth - 1) true { tokens := rest }).2 := by
  rw [readFirst]
  simp only [Bool.not_false, if_true]
  rw [readNode]
  simp only [properties, nameNode, finish]
  rw [readContent]
  rfl

theorem flow_mapping_tokens (text : String) (mapping : IsFlowMapping text) :
    ∃ inner ends rest, (Token.ofText text).1 =
        .flowMappingStart :: (inner ++ .flowMappingEnd :: (ends ++ .streamEnd :: rest)) ∧
      Level inner ∧ marks ends = [] := by
  obtain ⟨starts, accepted⟩ := mapping
  obtain ⟨rest, shape⟩ := List.head?_eq_some_iff.mp starts
  rw [readDocument] at accepted
  simp only [shape, Bool.and_eq_true, Bool.not_eq_true', beq_iff_eq] at accepted
  rw [read_first_mapping] at accepted
  obtain ⟨fine, ending⟩ := accepted
  generalize read : readFlowEntries _ (maxDepth - 1) true { tokens := rest } = found at fine ending
  obtain ⟨inner, split, level⟩ := (flow_reads _).entries _ _ _ found.1 found.2 read fine
  obtain ⟨more, last⟩ := List.head?_eq_some_iff.mp ending
  refine ⟨inner, found.2.tokens.takeWhile (· == .documentEnd), more, ?_, level, ?_⟩
  · rw [shape, ← last, List.takeWhile_append_dropWhile]
    exact congrArg _ split
  · rw [marks, List.filter_eq_nil_iff]
    intro token member
    have same := List.all_eq_true.mp List.all_takeWhile token member
    rw [beq_iff_eq.mp same]
    decide

end SqlWorkflow.Yaml
