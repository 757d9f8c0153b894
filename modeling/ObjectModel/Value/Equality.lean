import ObjectModel.Store
import ObjectModel.Value.Path

/-!
# Equality of values

Strings and arrays are equal by contents, faults by what they say, early returns by what they
carry, and everything else by identity.  Arrays may contain themselves, so the comparison keeps
the pairs of arrays that it is in the middle of comparing, and takes such a pair as equal when it
meets it again: if the pair differs at all, the difference shows up elsewhere.

## Main definitions

* `Store.equalFrom`, `Store.equal` — equality, inside some comparisons and on its own.

## Main results

* `Store.equalFrom_array`, `Store.equalFrom_pending` — the rules for arrays and early returns.
-/

namespace ObjectModel.Store

/-- Every pair of arrays of the store. -/
def arrayPairs (s : Store) : List (ArrayRef × ArrayRef) :=
  s.arrays.refs.flatMap fun a => s.arrays.refs.map fun b => (a, b)

theorem mem_arrayPairs (s : Store) (a b : ArrayRef) :
    (a, b) ∈ s.arrayPairs ↔ a.index < s.arrays.size ∧ b.index < s.arrays.size := by
  simp [arrayPairs, Cells.mem_refs]

/-- Whether two values are equal, given that the pairs of arrays of `path` are being compared. -/
def equalFrom (s : Store) (path : List (ArrayRef × ArrayRef)) (a b : Value) : Bool :=
  match a, b with
  | .string x, .string y => s.text x == s.text y
  | .array x, .array y =>
    if x = y then true
    else if _seen : (x, y) ∈ path then true
    else if (s.elements x).length ≠ (s.elements y).length then false
    else if _known : x.index < s.arrays.size ∧ y.index < s.arrays.size then
      ((s.elements x).zip (s.elements y)).all fun pair =>
        s.equalFrom ((x, y) :: path) pair.1 pair.2
    else true
  | .pending _ x, .pending _ y => s.equalFrom path x y
  | .fault f, .fault g => f.message == g.message
  | a, b => a.identical b
termination_by (unvisited s.arrayPairs path, sizeOf a)
decreasing_by
  · exact Prod.Lex.left _ _ (unvisited_cons_lt ((s.mem_arrayPairs x y).2 _known) _seen)
  · exact Prod.Lex.right _ (by rw [Value.pending.sizeOf_spec]; omega)

/-- Two arrays are equal when they are the same, when they are being compared already, or when
they have as many elements as each other and these are equal one by one. -/
theorem equalFrom_array (s : Store) (path : List (ArrayRef × ArrayRef)) (x y : ArrayRef) :
    s.equalFrom path (.array x) (.array y) =
      (decide (x = y) || decide ((x, y) ∈ path) ||
        ((s.elements x).length == (s.elements y).length &&
          ((s.elements x).zip (s.elements y)).all fun pair =>
            s.equalFrom ((x, y) :: path) pair.1 pair.2)) := by
  rw [equalFrom]
  by_cases hsame : x = y
  · simp [hsame]
  · by_cases hseen : (x, y) ∈ path
    · simp [hsame, hseen]
    · by_cases hlength : (s.elements x).length = (s.elements y).length
      · by_cases hknown : x.index < s.arrays.size ∧ y.index < s.arrays.size
        · simp [hsame, hseen, hlength, hknown]
        · rcases Decidable.not_and_iff_or_not.1 hknown with h | h
          · have hx := elements_of_size_le (Nat.not_lt.1 h)
            have hy : (s.elements y).length = 0 := by rw [← hlength, hx]; rfl
            simp [hsame, hseen, hknown, hx, hy]
          · simp [hsame, hseen, hlength, hknown, elements_of_size_le (Nat.not_lt.1 h)]
      · simp [hsame, hseen, hlength]

@[simp] theorem equalFrom_pending (s : Store) (path : List (ArrayRef × ArrayRef)) (m n : Nat)
    (a b : Value) : s.equalFrom path (.pending m a) (.pending n b) = s.equalFrom path a b := by
  rw [equalFrom]

/-- Whether two values are equal. -/
def equal (s : Store) (a b : Value) : Bool := s.equalFrom [] a b

end ObjectModel.Store
