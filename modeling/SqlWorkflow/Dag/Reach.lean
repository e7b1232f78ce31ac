-- The search takes each member out of the domain when it is first met, so it ends on every graph,
-- cycles included.
namespace SqlWorkflow

inductive Reaches {α : Type} (next : α → List α) (domain seeds : List α) : α → Prop where
  | seed {x : α} : x ∈ domain → x ∈ seeds → Reaches next domain seeds x
  | step {x y : α} : Reaches next domain seeds x → y ∈ next x → y ∈ domain →
      Reaches next domain seeds y

def gather {α : Type} [DecidableEq α] (next : α → List α) (domain : List α) :
    List α → List α
  | [] => []
  | x :: pending =>
      if _member : x ∈ domain then x :: gather next (domain.erase x) (next x ++ pending)
      else gather next domain pending
termination_by pending => (domain.length, pending.length)
decreasing_by
  · have positive := List.length_pos_of_mem _member
    have erased := List.length_erase_of_mem _member
    exact Prod.Lex.left _ _ (by omega)
  · exact Prod.Lex.right _ (by simp)

theorem reaches_cons_of_erase {α : Type} [DecidableEq α] (next : α → List α)
    (domain seeds : List α) (first x : α) (inside : first ∈ domain)
    (reached : Reaches next (domain.erase first) (next first ++ seeds) x) :
    Reaches next domain (first :: seeds) x := by
  induction reached with
  | seed member source =>
      have member := List.mem_of_mem_erase member
      rcases List.mem_append.mp source with child | other
      · exact .step (.seed inside List.mem_cons_self) child member
      · exact .seed member (List.mem_cons_of_mem first other)
  | step _ child member ih => exact .step ih child (List.mem_of_mem_erase member)

theorem reaches_erase_of_cons {α : Type} [DecidableEq α] (next : α → List α)
    (domain seeds : List α) (first x : α) (reached : Reaches next domain (first :: seeds) x)
    (different : x ≠ first) : Reaches next (domain.erase first) (next first ++ seeds) x := by
  induction reached with
  | seed member source =>
      rcases List.mem_cons.mp source with same | other
      · exact absurd same different
      · exact .seed ((List.mem_erase_of_ne different).mpr member) (List.mem_append_right _ other)
  | @step y z walked child member ih =>
      have kept := (List.mem_erase_of_ne different).mpr member
      by_cases same : y = first
      · subst same
        exact .seed kept (List.mem_append_left _ child)
      · exact .step (ih same) child kept

theorem mem_gather {α : Type} [DecidableEq α] (next : α → List α) (domain seeds : List α) (x : α) :
    x ∈ gather next domain seeds ↔ Reaches next domain seeds x := by
  fun_induction gather next domain seeds with
  | case1 domain =>
      refine ⟨fun none => absurd none List.not_mem_nil, fun reached => ?_⟩
      induction reached with
      | seed _ source => cases source
      | step _ _ _ ih => exact absurd ih List.not_mem_nil
  | case2 domain first pending inside ih =>
      constructor
      · intro found
        rcases List.mem_cons.mp found with same | later
        · subst same
          exact .seed inside List.mem_cons_self
        · exact reaches_cons_of_erase next domain pending first x inside (ih.mp later)
      · intro reached
        by_cases same : x = first
        · exact same ▸ List.mem_cons_self
        · exact List.mem_cons_of_mem first
            (ih.mpr (reaches_erase_of_cons next domain pending first x reached same))
  | case3 domain first pending outside ih =>
      rw [ih]
      clear ih
      constructor
      · intro reached
        induction reached with
        | seed member source => exact .seed member (List.mem_cons_of_mem first source)
        | step _ child member walked => exact .step walked child member
      · intro reached
        induction reached with
        | seed member source =>
            rcases List.mem_cons.mp source with same | other
            · exact absurd (same ▸ member) outside
            · exact .seed member other
        | step _ child member walked => exact .step walked child member

end SqlWorkflow
