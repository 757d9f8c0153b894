import ObjectModel.Proofs.Bisimulation
import ObjectModel.Proofs.Frame
import ObjectModel.Proofs.Step

/-!
# Outcomes as values

Inside the evaluator an early end is an outcome; between bodies and their callers it is a value.  A
value becomes an outcome and again a value without loss: an early return is wrapped anew and carries
what it carried.  The other way round is not always so.  An outcome that has answered an event would
be read back as that event, and so as an early end.

No evaluation has such an outcome.  Whatever a name means or a native function answers is checked
for being an event where it enters an expression, and if it is one the evaluation ends early.  So
nothing is lost where a body ends and its outcome becomes a value.

## Main definitions

* `Outcome.isProper` — an outcome that answers a result or ends early.
* `Eval.ComesTo` — what holds of every answer of an evaluation.

## Main results

* `Outcome.ofValue_outcomeValue` — a proper outcome is read back from its value.
* `Store.equal_outcomeValue_ofValue` — a value is equal to that of what it stands for.
* `Expr.comesTo_result`, `Stmt.comesTo_result`, `Block.comesTo_result` — trees have results for
  answers.
* `Outcome.conversion_lossless` — nothing is lost where a body ends.
-/

namespace ObjectModel

variable {α β : Type} {s t : Store}

/-! ### There and back -/

namespace Outcome

/-- Whether an outcome that answers something answers a result, and no event in flight. -/
def isProper : Outcome → Bool
  | .ok value => !value.inFlight
  | .error _ => true

/-- A result stands for itself. -/
theorem ofValue_of_result {value : Value} (h : value.inFlight = false) :
    ofValue value = .ok value := by
  cases value with
  | pending | fault => cases h
  | _ => rfl

/-- What a value stands for is proper: an event stands for an early end. -/
theorem isProper_ofValue (value : Value) : (ofValue value).isProper = true := by
  cases value <;> rfl

/-- **A proper outcome is read back from its value.** -/
theorem ofValue_outcomeValue (s : Store) {outcome : Outcome} (h : outcome.isProper = true) :
    ofValue (s.outcomeValue outcome).1 = outcome := by
  cases outcome with
  | ok value =>
    rw [isProper, Bool.not_eq_true'] at h
    exact ofValue_of_result h
  | error abrupt => cases abrupt <;> rfl

end Outcome

namespace Store

theorem equalOutcome_self (s : Store) (outcome : Outcome) :
    s.equalOutcome outcome outcome = true := by
  cases outcome with
  | ok value => exact s.equal_self value
  | error abrupt =>
    cases abrupt with
    | ret value => exact s.equal_self value
    | fault fault => exact beq_self_eq_true fault.message

/-- Outcomes are equal to what their values stand for exactly if they are proper. -/
theorem equalOutcome_ofValue_iff (s : Store) (outcome : Outcome) :
    (s.outcomeValue outcome).2.equalOutcome (Outcome.ofValue (s.outcomeValue outcome).1) outcome =
      true ↔ outcome.isProper = true := by
  constructor
  · intro h
    cases outcome with
    | ok value =>
      -- an event stands for an early end, which is of another sort than an answer
      cases value with
      | pending | fault => cases h
      | _ => rfl
    | error => rfl
  · intro h
    rw [Outcome.ofValue_outcomeValue s h]
    exact equalOutcome_self _ outcome

/-- **Every value is equal to the value of what it stands for.**  The two are the same except for an
early return, which is wrapped anew; then they carry the same. -/
theorem equal_outcomeValue_ofValue (s : Store) (value : Value) :
    (s.outcomeValue (Outcome.ofValue value)).2.equal
      (s.outcomeValue (Outcome.ofValue value)).1 value = true := by
  cases value with
  | pending serial payload =>
    have hcarried := (s.newPending payload).2.equal_self payload
    rw [equal, Outcome.ofValue, outcomeValue, newPending, equalFrom_pending]
    exact hcarried
  | _ => exact s.equal_self _

end Store

/-! ### What evaluations come to -/

/-- Whenever the evaluation has an answer, `P` holds of it. -/
def Eval.ComesTo (evaluation : Eval α) (P : α → Prop) : Prop :=
  ∀ ⦃s t : Store⦄ ⦃x : α⦄, evaluation s = some (.ok x, t) → P x

namespace Eval.ComesTo

variable {P : α → Prop} {Q : β → Prop}

theorem pure {x : α} (h : P x) : ComesTo (Pure.pure x) P := by
  intro s t y hrun
  cases hrun
  exact h

theorem throw (abrupt : Abrupt) : ComesTo (MonadExcept.throw abrupt : Eval α) P := by
  intro s t y hrun
  cases hrun

/-- What two evaluations in a row come to is what the second of them does. -/
theorem bind {evaluation : Eval α} {next : α → Eval β} (h : evaluation.ComesTo P)
    (hnext : ∀ x, P x → (next x).ComesTo Q) : (evaluation >>= next).ComesTo Q := by
  intro s u y hrun
  obtain ⟨⟨outcome, t⟩, hfirst, hrest⟩ := Option.bind_eq_some_iff.1 hrun
  cases outcome with
  | ok x => exact hnext x (h hfirst) hrest
  | error => cases hrest

/-- The same, if nothing is known about the first. -/
theorem next {evaluation : Eval α} {next : α → Eval β} (h : ∀ x, (next x).ComesTo Q) :
    (evaluation >>= next).ComesTo Q :=
  bind (P := fun _ => True) (fun _ _ _ _ => trivial) fun x _ => h x

/-- A change of the store that only makes one sort of answer. -/
theorem change {f : Store → α × Store} (h : ∀ s, P (f s).1) :
    ComesTo (monadLift (modifyGet f : Action α)) P := by
  intro s t x hrun
  cases hrun
  exact h s

/-- What is settled is a result, or the evaluation ends. -/
theorem settle (value : Value) :
    (Eval.settle value).ComesTo fun value => value.inFlight = false := by
  intro s t x hrun
  have hvalue : Outcome.ofValue value = .ok x := congrArg Prod.fst (Option.some.inj hrun)
  have hproper := Outcome.isProper_ofValue value
  rw [hvalue, Outcome.isProper, Bool.not_eq_true'] at hproper
  exact hproper

/-- An evaluation that comes to results has proper outcomes. -/
theorem isProper {evaluation : Eval Value}
    (h : evaluation.ComesTo fun value => value.inFlight = false) {outcome : Outcome}
    (hrun : evaluation s = some (outcome, t)) : outcome.isProper = true := by
  cases outcome with
  | ok value => rw [Outcome.isProper, h hrun, Bool.not_false]
  | error => rfl

end Eval.ComesTo

open Eval (ComesTo)

variable {ctx : NativeContext} {scope : ScopeRef}

theorem evalFn_comesTo_result (params : List String) (body : Block) :
    (evalFn scope params body).ComesTo fun value => value.inFlight = false := by
  refine .next fun made => ?_
  split
  · exact .pure rfl
  · exact .throw _

/-- An expression comes to a result, whatever it is given to send messages and to call functions.
The recursion is on the assigned value; in any other place what comes from outside is settled. -/
theorem Expr.comesTo_result (e : Expr) :
    (Expr.eval ctx scope e).ComesTo fun value => value.inFlight = false := by
  cases e with
  | int | sym | bool | nil => exact .pure rfl
  | str text => exact .change fun _ => rfl
  | self => exact .next fun s => .settle _
  | ident | ivar => exact .next fun value => .settle value
  | assign target value =>
    exact .bind value.comesTo_result fun x hx => .next fun _ => .pure hx
  | send | call => exact .next fun _ => .next fun _ => .next fun answer => .settle answer
  | sendSelf => exact .next fun _ => .next fun _ => .next fun answer => .settle answer
  | fn params body => exact evalFn_comesTo_result params body

theorem Stmt.comesTo_result (statement : Stmt) :
    (Stmt.eval ctx scope statement).ComesTo fun value => value.inFlight = false := by
  cases statement with
  | expr e => exact e.comesTo_result
  | ret e => exact .next fun value => .throw _
  | retNil => exact .throw _

theorem Stmt.comesTo_result_all {last : Value} (hlast : last.inFlight = false)
    (statements : List Stmt) :
    (Stmt.evalAll ctx scope last statements).ComesTo fun value => value.inFlight = false := by
  induction statements generalizing last with
  | nil => exact .pure hlast
  | cons statement statements ih => exact .bind statement.comesTo_result fun _ hvalue => ih hvalue

/-- A block comes to the result of its last statement, or to `nil`. -/
theorem Block.comesTo_result (block : Block) :
    (Block.eval ctx scope block).ComesTo fun value => value.inFlight = false :=
  Stmt.comesTo_result_all rfl block

/-- **Nothing is lost between outcomes and values.**  Every value is equal to the value of what it
stands for, and the proper outcomes are those that are equal to what their values stand for.
Statements and blocks have no other outcomes, in every store and whatever native functions answer,
and these are read back from their values exactly.  So whoever runs a body can read the outcome of
the body from the answer. -/
theorem Outcome.conversion_lossless :
    (∀ (s : Store) (value : Value), (s.outcomeValue (ofValue value)).2.equal
      (s.outcomeValue (ofValue value)).1 value = true) ∧
    (∀ (s : Store) (outcome : Outcome),
      (s.outcomeValue outcome).2.equalOutcome (ofValue (s.outcomeValue outcome).1) outcome =
        true ↔ outcome.isProper = true) ∧
    (∀ (ctx : NativeContext) (scope : ScopeRef) (statement : Stmt) (s t : Store)
      (outcome : Outcome), (Stmt.eval ctx scope statement).run s = some (outcome, t) →
        outcome.isProper = true ∧ ofValue (t.outcomeValue outcome).1 = outcome) ∧
    (∀ (ctx : NativeContext) (scope : ScopeRef) (block : Block) (s t : Store)
      (outcome : Outcome), (Block.eval ctx scope block).run s = some (outcome, t) →
        outcome.isProper = true ∧ ofValue (t.outcomeValue outcome).1 = outcome) ∧
    ∀ (core : Core) (host : Host) (depth : Nat) (closure : Closure) (receiver? : Option Value)
      (args : List Value) (s t : Store) (answer : Value),
      evaluator core host (depth + 1) closure receiver? args s = some (answer, t) →
        ∃ u, (Block.eval ((Machine.evaluating core host depth).context (depth + 1))
          (s.enter closure receiver? args).1 closure.body).run (s.enter closure receiver? args).2 =
            some (ofValue answer, u) := by
  refine ⟨Store.equal_outcomeValue_ofValue, Store.equalOutcome_ofValue_iff,
    fun ctx scope statement s t outcome hrun => ?_, fun ctx scope block s t outcome hrun => ?_,
    fun core host depth closure receiver? args s t answer hrun => ?_⟩
  · have hproper := statement.comesTo_result.isProper hrun
    exact ⟨hproper, ofValue_outcomeValue t hproper⟩
  · have hproper := (Block.comesTo_result block).isProper hrun
    exact ⟨hproper, ofValue_outcomeValue t hproper⟩
  · rw [evaluator_succ] at hrun
    obtain ⟨⟨outcome, u⟩, hbody, hvalue⟩ := Option.bind_eq_some_iff.1 hrun
    have hproper := (Block.comesTo_result closure.body).isProper hbody
    have hanswer : (u.outcomeValue outcome).1 = answer := congrArg Prod.fst (Option.some.inj hvalue)
    rw [← hanswer, ofValue_outcomeValue u hproper]
    exact ⟨u, hbody⟩

/-- A scope in which a name is bound to a function of the host. -/
def Store.withBuiltin : Store := (Store.initial.newScope none).2.setVar ⟨0⟩ "f" (.builtin 0 "f")

/-- A host whose function answers an early return that carries another one. -/
def Host.returningTwice : Host :=
  ⟨fun _ _ _ _ => pure .nil, fun _ _ => do
    let inner ← modifyGet fun s => s.newPending .nil
    modifyGet fun s => s.newPending inner⟩

/-- What the host answers ends the block with the inner return, and is read back so. -/
theorem conversion_lossless_returningTwice :
    ∃ t, (Block.eval ((Machine.evaluating Core.initial .returningTwice 0).context 1) ⟨0⟩
        [.expr (.call (.ident "f") [])]).run Store.withBuiltin =
          some (.error (.ret (.pending 0 .nil)), t) ∧
      Outcome.ofValue (t.outcomeValue (.error (.ret (.pending 0 .nil)))).1 =
        .error (.ret (.pending 0 .nil)) := by
  have hanswer : ((Block.eval ((Machine.evaluating Core.initial .returningTwice 0).context 1) ⟨0⟩
      [.expr (.call (.ident "f") [])]).run Store.withBuiltin).map Prod.fst =
        some (.error (.ret (.pending 0 .nil))) := by
    decide +kernel
  obtain ⟨⟨outcome, t⟩, hrun, rfl⟩ := Option.map_eq_some_iff.1 hanswer
  obtain ⟨-, -, -, hblock, -⟩ := Outcome.conversion_lossless
  exact ⟨t, hrun, (hblock _ _ _ _ _ _ hrun).2⟩

end ObjectModel
