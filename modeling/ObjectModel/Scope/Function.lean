import ObjectModel.Scope

/-!
# Making functions and entering them

A function is made over the scope that it can see.  Its parameters have to be pairwise distinct;
the first one that repeats an earlier one is reported.  To enter a function is to open a new scope
inside the one it was made in, with the parameters and the receiver bound.

## Main definitions

* `firstRepeated?` — the first name of a list that occurs earlier in it.
* `Store.makeFunction` — a function, or the reason why there is none.
* `Store.enter` — the scope in which a body starts.

## Main results

* `firstRepeated?_eq_none_iff` — no name is reported exactly when the names are distinct.
* `Store.makeFunction_eq_ok_iff` — a function is made exactly of distinct parameters.
-/

namespace ObjectModel

/-- The first name that is in `seen` or occurs earlier in the list. -/
def firstRepeated? (seen : List String) : List String → Option String
  | [] => none
  | name :: names => if name ∈ seen then some name else firstRepeated? (name :: seen) names

theorem firstRepeated?_eq_none_iff {seen names : List String} :
    firstRepeated? seen names = none ↔ names.Nodup ∧ ∀ name ∈ names, name ∉ seen := by
  induction names generalizing seen with
  | nil => simp [firstRepeated?]
  | cons name names ih =>
    by_cases h : name ∈ seen
    · simp [firstRepeated?, h]
    · simp only [firstRepeated?, h, if_false, ih, List.nodup_cons, List.mem_cons, not_or]
      constructor
      · rintro ⟨hnodup, hfresh⟩
        refine ⟨⟨fun hmem => (hfresh name hmem).1 rfl, hnodup⟩, ?_⟩
        rintro other (rfl | hother)
        · exact h
        · exact (hfresh other hother).2
      · rintro ⟨⟨hname, hnodup⟩, hfresh⟩
        refine ⟨hnodup, fun other hother => ⟨?_, hfresh other (.inr hother)⟩⟩
        rintro rfl
        exact hname hother

theorem firstRepeated?_nil_eq_none_iff {names : List String} :
    firstRepeated? [] names = none ↔ names.Nodup := by
  rw [firstRepeated?_eq_none_iff]
  exact and_iff_left fun _ _ => List.not_mem_nil

namespace Store

/-- Makes a function over a scope. -/
def makeFunction (s : Store) (params : List String) (body : Block) (scope : ScopeRef) :
    Except Malformed (Closure × Store) :=
  match firstRepeated? [] params with
  | some name => .error (.repeatedParameter name)
  | none => .ok (s.newClosure params body scope)

/-- What is made is a new function over the scope, and its parameters are pairwise distinct. -/
theorem makeFunction_eq_ok_iff {s : Store} {params : List String} {body : Block}
    {scope : ScopeRef} {made : Closure × Store} :
    s.makeFunction params body scope = .ok made ↔
      params.Nodup ∧ s.newClosure params body scope = made := by
  rw [← firstRepeated?_nil_eq_none_iff, makeFunction]
  split
  · next hrepeated => simp only [hrepeated, reduceCtorEq, false_and]
  · next hnone => simp only [hnone, Except.ok.injEq, true_and]

/-- Opens the scope of a call: new, inside the scope of the function, with the arguments bound to
the parameters and `self` to the receiver, which wins over a parameter of that name. -/
def enter (s : Store) (closure : Closure) (receiver? : Option Value) (args : List Value) :
    ScopeRef × Store :=
  let (scope, s) := s.newScope (some closure.scope)
  let s := s.setVars scope (closure.params.zip args)
  match receiver? with
  | some receiver => (scope, s.setVar scope "self" receiver)
  | none => (scope, s)

end Store

end ObjectModel
