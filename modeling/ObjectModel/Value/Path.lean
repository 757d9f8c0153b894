/-!
# Paths through a finite universe

A walk through a graph of cells keeps the path from its start to where it is, and does not go on
where the path has been before.  It ends because each step takes one more member of a finite
universe onto the path.

## Main definitions

* `unvisited` — how many members of a universe are not on a path.

## Main results

* `unvisited_cons_lt` — a step to a new member leaves fewer of them.
-/

namespace ObjectModel

/-- The number of members of `members` that are not on `path`. -/
def unvisited {α : Type} [DecidableEq α] (members path : List α) : Nat :=
  members.countP fun x => x ∉ path

private theorem countP_lt_of_imp {α : Type} {p q : α → Bool} {members : List α} {x : α}
    (himp : ∀ a, q a = true → p a = true) (hx : x ∈ members) (hp : p x = true)
    (hq : q x = false) : members.countP q < members.countP p := by
  induction members with
  | nil => cases hx
  | cons a rest ih =>
    have hle : rest.countP q ≤ rest.countP p := List.countP_mono_left fun b _ => himp b
    rcases List.mem_cons.1 hx with rfl | hx
    · rw [List.countP_cons_of_pos hp, List.countP_cons_of_neg (by simp [hq])]
      omega
    · have hlt := ih hx
      rw [List.countP_cons, List.countP_cons]
      by_cases hqa : q a = true
      · rw [if_pos hqa, if_pos (himp a hqa)]
        omega
      · rw [if_neg hqa]
        omega

theorem unvisited_cons_lt {α : Type} [DecidableEq α] {members path : List α} {x : α}
    (hx : x ∈ members) (h : x ∉ path) :
    unvisited members (x :: path) < unvisited members path :=
  countP_lt_of_imp (by simp) hx (by simpa using h) (by simp)

end ObjectModel
