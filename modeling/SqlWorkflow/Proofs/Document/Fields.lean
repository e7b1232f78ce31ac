import SqlWorkflow.Proofs.Document.Record
import SqlWorkflow.Proofs.SortedMap

namespace SqlWorkflow

section Last

variable {κ α β : Type} [DecidableEq κ]

def lastUnder (key? : α → Option κ) (key : κ) (entries : List (α × β)) : Option β :=
  (entries.reverse.find? fun entry => key? entry.1 == some key).map Prod.snd

theorem last_under_cons (key? : α → Option κ) (key : κ) (entry : α × β)
    (entries : List (α × β)) :
    lastUnder key? key (entry :: entries) =
      (lastUnder key? key entries).or (if key? entry.1 = some key then some entry.2 else none) := by
  rw [lastUnder, lastUnder, List.reverse_cons, List.find?_append]
  cases entries.reverse.find? fun entry => key? entry.1 == some key with
  | some found => rfl
  | none =>
      rw [Option.none_or, Option.map_none, Option.none_or, List.find?_singleton]
      by_cases here : key? entry.1 = some key
      · rw [if_pos here, if_pos (beq_iff_eq.mpr here)]
        rfl
      · rw [if_neg here, if_neg (mt beq_iff_eq.mp here)]
        rfl

theorem last_under_rel {α' β' : Type} (key? : α → Option κ) (other? : α' → Option κ)
    (agree : β → β' → Prop) (entries : List (α × β)) (others : List (α' × β'))
    (same : List.Forall₂ (fun a b => key? a.1 = other? b.1 ∧ agree a.2 b.2) entries others)
    (key : κ) : Option.Rel agree (lastUnder key? key entries) (lastUnder other? key others) := by
  induction same with
  | nil => exact .none
  | cons first rest ih =>
      obtain ⟨keys, values⟩ := first
      rw [last_under_cons, last_under_cons, keys]
      generalize lastUnder key? key _ = found at ih ⊢
      generalize lastUnder other? key _ = answer at ih ⊢
      cases ih with
      | some later => exact .some later
      | none =>
          rw [Option.none_or, Option.none_or]
          split
          · exact .some values
          · exact .none

omit [DecidableEq κ] in
theorem rel_through {γ : Type} {first : α → β → Prop} {second : β → γ → Prop}
    {whole : α → γ → Prop} {a : Option α} {b : Option β} {c : Option γ}
    (left : Option.Rel first a b) (right : Option.Rel second b c)
    (through : ∀ x y z, first x y → second y z → whole x z) : Option.Rel whole a c := by
  cases left with
  | none =>
      cases right
      exact .none
  | some before =>
      cases right with
      | some behind => exact .some (through _ _ _ before behind)

theorem get_of_list [Ord κ] [Std.TransOrd κ] [Std.LawfulEqOrd κ] (entries : List (κ × β))
    (key : κ) : (SortedMap.ofList entries).get? key = lastUnder some key entries := by
  induction entries with
  | nil => rfl
  | cons entry entries ih =>
      have first : (SortedMap.ofList [entry]).get? key =
          if entry.1 = key then some entry.2 else none := by
        rw [← List.nil_append [entry], SortedMap.of_list_append, SortedMap.get_insert]
        by_cases same : key = entry.1
        · rw [if_pos same, if_pos same.symm]
        · rw [if_neg same, if_neg (Ne.symm same)]
          rfl
      rw [← List.singleton_append, SortedMap.of_list_merge, SortedMap.get_merge, ih, first,
        List.singleton_append, last_under_cons]
      simp only [Option.some.injEq]

end Last

namespace Document

variable {α β : Type} (name? : Document → Option String) {intake : Intake α}

theorem take_fields_fresh (field : String) (entries : List (Document × Document))
    (seen : List String) (record result : α) (known : field ∈ seen)
    (read : takeFields name? intake seen record entries = .ok result) :
    lastUnder name? field entries = none := by
  induction entries generalizing seen record with
  | nil => rfl
  | cons entry entries ih =>
      obtain ⟨name, middle, named, fresh, _, rest⟩ :=
        take_fields_step name? seen record result entry.1 entry.2 entries read
      have other : name? entry.1 ≠ some field := by
        rw [named]
        rintro ⟨⟩
        exact fresh known
      rw [last_under_cons, ih _ middle (List.mem_cons_of_mem name known) rest, if_neg other]
      rfl

structure Owns (intake : Intake α) (field : String) (part : α → β)
    (content : Document → Reading β) : Prop where
  own : ∀ value record result, intake field value record = some (.ok result) →
    content value = .ok (part result)
  others : ∀ name value record result, name ≠ field →
    intake name value record = some (.ok result) → part result = part record

theorem take_fields_part {field : String} {part : α → β} {content : Document → Reading β}
    (owns : Owns intake field part content) (entries : List (Document × Document))
    (seen : List String) (record result : α)
    (read : takeFields name? intake seen record entries = .ok result) :
    match lastUnder name? field entries with
    | none => part result = part record
    | some value => content value = .ok (part result) := by
  induction entries generalizing seen record with
  | nil => exact congrArg part (Except.ok.inj read).symm
  | cons entry entries ih =>
      obtain ⟨name, middle, named, _, taken, rest⟩ :=
        take_fields_step name? seen record result entry.1 entry.2 entries read
      have later := ih (name :: seen) middle rest
      rw [last_under_cons, named]
      by_cases own : name = field
      · subst own
        rw [take_fields_fresh name? name entries _ _ _ List.mem_cons_self rest] at later ⊢
        rw [if_pos rfl]
        dsimp only [Option.none_or] at later ⊢
        rw [later]
        exact owns.own _ _ _ taken
      · rw [if_neg fun same => own (Option.some.inj same), Option.or_none]
        cases found : lastUnder name? field entries with
        | none =>
            rw [found] at later
            exact later.trans (owns.others _ _ _ _ own taken)
        | some value =>
            rw [found] at later
            exact later

end Document

end SqlWorkflow
