import Mathlib.Data.List.Nodup
import Mathlib.Order.Bounds.Basic
import ObjectModel.Proofs.Transience

/-!
# Functions have distinct parameters

Parameters are looked at from left to right, and the names that were met are remembered.  The check
stops at the first name that was met before, so of all the names that occur more than once it
reports the one whose second occurrence comes first: of `a, b, b, a` this is `b`, although `a` comes
first.  At that moment the names that are remembered are pairwise distinct, and they are the names
to the left; this is what carries the proof from one name to the next.

Nothing else stands in the way of a function.  What is made keeps its parameters as they are, and a
function literal is evaluated by the same check.

## Main definitions

* `RepeatedAt` — the name at a position occurs at an earlier one.
* `FirstRepeat` — the name at the first such position.

## Main results

* `firstRepeated?_eq_some_iff` — the check reports this name.
* `Store.exists_makeFunction_iff`, `Store.makeFunction_eq_error_iff` — when a function is made, and
  what is reported otherwise.
* `Closure.inspect_eq_of_param` — a function shows its parameters in order.
* `Store.function_of_distinct_params` — functions and function literals by their parameters.
-/

namespace ObjectModel

variable {s : Store} {params names before after seen : List String} {name : String} {i : Nat}
  {body : Block} {scope : ScopeRef}

/-! ### Repeated names -/

/-- The name at a position occurs at an earlier position as well. -/
def RepeatedAt (names : List String) (i : Nat) : Prop :=
  i < names.length ∧ ∃ j < i, names[j]? = names[i]?

instance : Decidable (RepeatedAt names i) := inferInstanceAs (Decidable (_ ∧ _))

/-- Of all positions whose name occurs earlier, the first one has this name. -/
def FirstRepeat (names : List String) (name : String) : Prop :=
  ∃ i, IsLeast {k | RepeatedAt names k} i ∧ names[i]? = some name

/-- Names are pairwise distinct exactly if none is repeated anywhere. -/
theorem nodup_iff_not_repeatedAt : names.Nodup ↔ ∀ i, ¬ RepeatedAt names i := by
  rw [List.nodup_iff_getElem?_ne_getElem?]
  constructor
  · rintro h i ⟨hi, j, hj, heq⟩
    exact h j i hj hi heq
  · intro h j i hj hi heq
    exact h i ⟨hi, j, hj, heq⟩

/-- What follows a position does not matter there. -/
theorem RepeatedAt.of_append (h : RepeatedAt (before ++ after) i) (hi : i < before.length) :
    RepeatedAt before i := by
  obtain ⟨-, j, hj, heq⟩ := h
  rw [List.getElem?_append_left hi, List.getElem?_append_left (hj.trans hi)] at heq
  exact ⟨hi, j, hj, heq⟩

/-- There is only one first position, so only one name. -/
theorem FirstRepeat.unique {other : String} (h : FirstRepeat names name)
    (h' : FirstRepeat names other) : name = other := by
  obtain ⟨i, hi, hname⟩ := h
  obtain ⟨j, hj, hother⟩ := h'
  rw [hi.unique hj, hother] at hname
  exact (Option.some.inj hname).symm

/-- A name that occurs among distinct names before it is the first to be repeated. -/
theorem firstRepeat_append_cons (hbefore : before.Nodup) (hmem : name ∈ before) :
    FirstRepeat (before ++ name :: after) name := by
  have hhere : (before ++ name :: after)[before.length]? = some name := by simp
  refine ⟨before.length, ⟨?_, ?_⟩, hhere⟩
  · obtain ⟨j, hj⟩ := List.mem_iff_getElem?.1 hmem
    obtain ⟨hlt, -⟩ := List.getElem?_eq_some_iff.1 hj
    refine ⟨by simp, j, hlt, ?_⟩
    rw [List.getElem?_append_left hlt, hj, hhere]
  · intro k hk
    by_contra hlt
    exact nodup_iff_not_repeatedAt.1 hbefore k (hk.of_append (Nat.lt_of_not_le hlt))

/-! ### The check -/

/-- What the check reports when the names before have been met, with none among them twice.  The
induction is on the names to come, each of which joins those before it unless it is reported. -/
theorem firstRepeated?_eq_some_iff_of_seen (before : List String)
    (hseen : ∀ other, other ∈ seen ↔ other ∈ before) (hbefore : before.Nodup) :
    firstRepeated? seen names = some name ↔ FirstRepeat (before ++ names) name := by
  induction names generalizing seen before with
  | nil =>
    rw [List.append_nil]
    constructor
    · nofun
    · rintro ⟨i, hi, -⟩
      exact absurd hi.1 (nodup_iff_not_repeatedAt.1 hbefore i)
  | cons first names ih =>
    by_cases hfirst : first ∈ seen
    · have hrepeat : FirstRepeat (before ++ first :: names) first :=
        firstRepeat_append_cons hbefore ((hseen first).1 hfirst)
      rw [firstRepeated?, if_pos hfirst]
      constructor
      · rintro ⟨⟩
        exact hrepeat
      · intro hname
        exact congrArg some (hrepeat.unique hname)
    · have hseen' (other : String) : other ∈ first :: seen ↔ other ∈ before ++ [first] := by
        rw [List.mem_cons, List.mem_append, List.mem_singleton, hseen, or_comm]
      have hbefore' : (before ++ [first]).Nodup := by
        rw [← List.concat_eq_append, List.nodup_concat]
        exact ⟨fun hmem => hfirst ((hseen first).2 hmem), hbefore⟩
      rw [firstRepeated?, if_neg hfirst, ih _ hseen' hbefore', List.append_assoc]
      rfl

/-- **The check reports the name at the first position whose name occurs earlier.** -/
theorem firstRepeated?_eq_some_iff : firstRepeated? [] names = some name ↔ FirstRepeat names name :=
  firstRepeated?_eq_some_iff_of_seen [] (fun _ => Iff.rfl) List.nodup_nil

/-- There is such a name unless the names are pairwise distinct. -/
theorem exists_firstRepeat_iff : (∃ name, FirstRepeat names name) ↔ ¬ names.Nodup := by
  simp only [← firstRepeated?_eq_some_iff]
  rw [← firstRepeated?_nil_eq_none_iff, ← ne_eq, Option.ne_none_iff_exists']

/-! ### Functions -/

/-- **A function is made just of pairwise distinct parameters.** -/
theorem Store.exists_makeFunction_iff (s : Store) (params : List String) (body : Block)
    (scope : ScopeRef) :
    (∃ made, s.makeFunction params body scope = .ok made) ↔ params.Nodup := by
  constructor
  · rintro ⟨made, hmade⟩
    exact (makeFunction_eq_ok_iff.1 hmade).1
  · intro hnodup
    exact ⟨s.newClosure params body scope, makeFunction_eq_ok_iff.2 ⟨hnodup, rfl⟩⟩

/-- **Otherwise the first parameter to be repeated is reported.** -/
theorem Store.makeFunction_eq_error_iff {cause : Malformed} :
    s.makeFunction params body scope = .error cause ↔
      ∃ name, FirstRepeat params name ∧ cause = .repeatedParameter name := by
  simp only [← firstRepeated?_eq_some_iff]
  unfold makeFunction
  split
  · next name hname =>
    simp only [hname, Except.error.injEq, Option.some.injEq, exists_eq_left', eq_comm]
  · next hnone => simp only [hnone, reduceCtorEq, false_and, exists_false]

/-- The value of a function literal is the function that is made of its parts. -/
theorem Expr.eval_fn_eq_ok_iff {ctx : NativeContext} {value : Value} {t : Store} :
    Expr.eval ctx scope (.fn params body) s = some (.ok value, t) ↔
      ∃ closure, s.makeFunction params body scope = .ok (closure, t) ∧
        value = .function closure := by
  rw [Expr.eval_fn]
  split
  · next closure t' hmade =>
    simp only [hmade]
    constructor
    · rintro ⟨⟩
      exact ⟨closure, rfl, rfl⟩
    · rintro ⟨_, ⟨⟩, rfl⟩
      rfl
  · next cause hcause =>
    simp only [hcause, reduceCtorEq, false_and, exists_false, Option.some.injEq, Prod.mk.injEq]

/-- Behind the parts before it, each with a comma and a blank, stands every part of a list. -/
theorem commaSeparated_append_cons (before : List String) (part : String) (after : List String) :
    ∃ rest, commaSeparated (before ++ part :: after) =
      String.join (before.map (· ++ ", ")) ++ part ++ rest := by
  induction before with
  | nil =>
    rw [List.map_nil, String.join_nil, String.empty_append, List.nil_append, commaSeparated]
    cases after with
    | nil => exact ⟨"", by rw [String.intercalate_singleton, String.append_empty]⟩
    | cons second after =>
      exact ⟨", " ++ ", ".intercalate (second :: after),
        by rw [String.intercalate_cons_cons, String.append_assoc]⟩
  | cons first before ih =>
    obtain ⟨rest, hrest⟩ := ih
    refine ⟨rest, ?_⟩
    rw [commaSeparated] at hrest ⊢
    rw [List.cons_append, String.intercalate_cons_of_ne_nil (by simp), hrest, List.map_cons,
      String.join_cons]
    simp only [String.append_assoc]

/-- **A function shows its parameters in order**, each behind those that come before it. -/
theorem Closure.inspect_eq_of_param {closure : Closure} (h : closure.params[i]? = some name) :
    ∃ rest, closure.inspect =
      "fn(" ++ String.join ((closure.params.take i).map (· ++ ", ")) ++ name ++ rest := by
  obtain ⟨hi, rfl⟩ := List.getElem?_eq_some_iff.1 h
  obtain ⟨rest, hrest⟩ := commaSeparated_append_cons (closure.params.take i) closure.params[i]
    (closure.params.drop (i + 1))
  rw [← List.drop_eq_getElem_cons hi, List.take_append_drop] at hrest
  refine ⟨rest ++ ") \x7b\n" ++ Block.render closure.body ++ "\n\x7d", ?_⟩
  rw [inspect, hrest]
  simp only [String.append_assoc]

/-- **Functions and function literals by their parameters.**  A function is made of parameters, a
body and a scope exactly when the parameters are pairwise distinct; otherwise the parameter is
reported that stands at the first position whose name occurs earlier.  A function that is made has
its parameters in order: their number is its arity, and its text lists them.  A function literal, in
every context, is evaluated to a value exactly when its parameters are pairwise distinct, and then
the value is the function that is made of its parts.  Otherwise its evaluation ends with a fault
that names the same parameter, and nothing is changed. -/
theorem Store.function_of_distinct_params (s : Store) (params : List String) (body : Block)
    (scope : ScopeRef) :
    ((∃ made, s.makeFunction params body scope = .ok made) ↔ params.Nodup) ∧
    (∀ cause, s.makeFunction params body scope = .error cause ↔
      ∃ name, FirstRepeat params name ∧ cause = .repeatedParameter name) ∧
    (∀ closure t, s.makeFunction params body scope = .ok (closure, t) →
      closure.params = params ∧ closure.body = body ∧ closure.scope = scope ∧
      closure.arity = params.length ∧
      closure.inspect =
        "fn(" ++ ", ".intercalate params ++ ") \x7b\n" ++ Block.render body ++ "\n\x7d" ∧
      ∀ (i : Nat) (name : String), params[i]? = some name → ∃ rest, closure.inspect =
        "fn(" ++ String.join ((params.take i).map (· ++ ", ")) ++ name ++ rest) ∧
    ∀ ctx,
      ((∃ value t, Expr.eval ctx scope (.fn params body) s = some (.ok value, t)) ↔
        params.Nodup) ∧
      (∀ value t, Expr.eval ctx scope (.fn params body) s = some (.ok value, t) ↔
        ∃ closure, s.makeFunction params body scope = .ok (closure, t) ∧
          value = .function closure) ∧
      (¬ params.Nodup → ∃ name, FirstRepeat params name ∧
        s.makeFunction params body scope = .error (.repeatedParameter name) ∧
        Expr.eval ctx scope (.fn params body) s =
          some (.error (.fault (.malformed (.repeatedParameter name))), s)) := by
  refine ⟨s.exists_makeFunction_iff params body scope, fun cause => makeFunction_eq_error_iff,
    fun closure t hmade => ?_, fun ctx => ⟨?_, fun value t => Expr.eval_fn_eq_ok_iff, ?_⟩⟩
  · obtain ⟨-, heq⟩ := makeFunction_eq_ok_iff.1 hmade
    cases heq
    exact ⟨rfl, rfl, rfl, rfl, rfl, fun i name hname => Closure.inspect_eq_of_param hname⟩
  · simp only [Expr.eval_fn_eq_ok_iff]
    rw [← s.exists_makeFunction_iff params body scope]
    constructor
    · rintro ⟨-, t, closure, hmade, -⟩
      exact ⟨(closure, t), hmade⟩
    · rintro ⟨⟨closure, t⟩, hmade⟩
      exact ⟨.function closure, t, closure, hmade, rfl⟩
  · intro hrepeated
    obtain ⟨name, hname⟩ := exists_firstRepeat_iff.2 hrepeated
    have hcause : s.makeFunction params body scope = .error (.repeatedParameter name) :=
      makeFunction_eq_error_iff.2 ⟨name, hname, rfl⟩
    exact ⟨name, hname, hcause, by rw [Expr.eval_fn, hcause]⟩

/-- Of `a, b, b, a` the second name is reported, since it is met again before the first one is.
Where no name is met again the names are listed. -/
theorem function_of_distinct_params_nested :
    IsLeast {k | RepeatedAt ["a", "b", "b", "a"] k} 2 ∧
      Store.withScope.makeFunction ["a", "b", "b", "a"] [] ⟨0⟩ =
        .error (.repeatedParameter "b") ∧
      Expr.eval (.exhausted Core.initial) ⟨0⟩ (.fn ["a", "b", "b", "a"] []) .withScope =
        some (.error (.fault (.malformed (.repeatedParameter "b"))), .withScope) ∧
      (Fault.malformed (.repeatedParameter "b")).message =
        "duplicate parameter `b` in function definition" ∧
      ∃ closure t, Store.withScope.makeFunction ["b", "a"] [.retNil] ⟨0⟩ = .ok (closure, t) ∧
        closure.arity = 2 ∧ closure.inspect = "fn(b, a) \x7b\nreturn\n\x7d" := by
  have hleast : IsLeast {k | RepeatedAt ["a", "b", "b", "a"] k} 2 := by
    have hnone : ∀ k < 2, ¬ RepeatedAt ["a", "b", "b", "a"] k := by decide
    refine ⟨by decide, fun k hk => ?_⟩
    by_contra hlt
    exact hnone k (Nat.lt_of_not_le hlt) hk
  obtain ⟨-, -, -, heval⟩ :=
    Store.function_of_distinct_params .withScope ["a", "b", "b", "a"] [] ⟨0⟩
  obtain ⟨-, -, hrepeated⟩ := heval (.exhausted Core.initial)
  obtain ⟨name, hname, hcause, hends⟩ := hrepeated (by decide)
  cases hname.unique ⟨2, hleast, rfl⟩
  obtain ⟨hmakes, -, hshows, -⟩ :=
    Store.function_of_distinct_params .withScope ["b", "a"] [.retNil] ⟨0⟩
  obtain ⟨⟨closure, t⟩, hmade⟩ := hmakes.2 (by decide)
  obtain ⟨-, -, -, harity, hinspect, -⟩ := hshows closure t hmade
  refine ⟨hleast, hcause, hends, rfl, closure, t, hmade, harity, ?_⟩
  rw [hinspect]
  decide +kernel

end ObjectModel
