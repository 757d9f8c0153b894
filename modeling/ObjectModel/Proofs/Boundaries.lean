import ObjectModel.Proofs.Conversion
import ObjectModel.Proofs.Sound
import ObjectModel.Proofs.Stock

/-!
# Call boundaries

An early return arrives at two sorts of boundaries.  A call takes every early return off the answer
of a body; a whole program takes the outcome of its block, and with it one early return at most.
The two differ exactly for an early return that carries another one.

No program makes such a value out of ones that are not so: a return in a block is a return of a
result.  It has to come from outside, as the binding of a name or as the answer of a native
function, and then a program may answer an early return where a function would not.

## Main definitions

* `Value.isRewrapped` — an early return that carries another one.
* `Stock.unwrapped` — the values that are not rewrapped.

## Main results

* `Outcome.result_ofValue_iff` — the boundaries agree on a value exactly if it is not rewrapped.
* `Discipline.Lawful.block_arrives` — what a block can end with by the rules of a discipline.
* `Machine.boundaries_agree` — where nothing is rewrapped, programs and calls answer alike.
* `not_boundaries_agree_withRewrapped` — a program that answers an early return.
-/

namespace ObjectModel

variable {core : Core} {host : Host} {s t : Store}

/-- Whether a value is an early return that carries an early return. -/
def Value.isRewrapped : Value → Bool
  | .pending _ payload => payload.isPending
  | _ => false

/-! ### The two boundaries -/

namespace Outcome

/-- A call takes off all that a program takes off, and whatever is left. -/
theorem payload_outcomeValue (s : Store) (outcome : Outcome) :
    (s.outcomeValue outcome).1.payload = outcome.result.payload := by
  cases outcome with
  | ok value => rfl
  | error abrupt => cases abrupt <;> rfl

/-- **The boundaries agree on a value exactly if it is not rewrapped.** -/
theorem result_ofValue_iff (value : Value) :
    (ofValue value).result = value.payload ↔ value.isRewrapped = false := by
  cases value with
  | pending serial payload =>
    change payload = payload.payload ↔ payload.isPending = false
    constructor
    · intro h
      rw [h]
      exact payload.isPending_payload
    · exact fun h => (Value.payload_of_not_pending h).symm
  | _ => exact iff_of_true rfl rfl

/-- They agree on how a body ended exactly if the program would answer no early return. -/
theorem payload_outcomeValue_iff (s : Store) (outcome : Outcome) :
    (s.outcomeValue outcome).1.payload = outcome.result ↔ outcome.result.isPending = false := by
  rw [payload_outcomeValue]
  constructor
  · intro h
    rw [← h]
    exact outcome.result.isPending_payload
  · exact Value.payload_of_not_pending

end Outcome

/-! ### What blocks return -/

namespace Discipline

variable {D : Discipline} {ctx : NativeContext} {scope : ScopeRef}

/-- What a block may return by the rules: a result, or what a fit early return carries. -/
def Arriving (D : Discipline) (t : Store) (value : Value) : Prop :=
  value.inFlight = false ∨ D.Returned t value

/-- What holds of every answer of an evaluation may be added to what the rules say of it. -/
theorem Yields.and_comesTo {α : Type} {R : Store → Value → Prop} {Q : Store → α → Prop}
    {P : α → Prop} {evaluation : Eval α} (h : D.Yields R s evaluation Q)
    (hP : evaluation.ComesTo P) : D.Yields R s evaluation fun t x => Q t x ∧ P x := by
  intro outcome t hrun
  obtain ⟨hto, hends⟩ := h hrun
  cases outcome with
  | ok x => exact ⟨hto, hends, hP hrun⟩
  | error abrupt => cases abrupt <;> exact ⟨hto, hends⟩

namespace Lawful

/-- A return statement returns the result of its expression. -/
theorem stmt_arriving (hD : D.Lawful core) (hctx : D.Context core ctx) (hs : D.Inv s)
    (hscope : D.FitScope s scope) (statement : Stmt) :
    D.Yields D.Arriving s (Stmt.eval ctx scope statement) fun t value =>
      D.Fit t value ∧ value.inFlight = false := by
  have hexpr (e : Expr) : D.Yields D.Arriving s (Expr.eval ctx scope e) fun t value =>
      D.Fit t value ∧ value.inFlight = false :=
    ((hD.expr hctx hs hscope e).and_comesTo e.comesTo_result).mono fun _ _ => .inr
  cases statement with
  | expr e => exact hexpr e
  | ret e => exact .bind hD (hexpr e) fun t value hto hvalue => .ret hD hto.1 (.inl hvalue.2)
  | retNil => exact .ret hD hs (.inl rfl)

theorem stmts_arriving (hD : D.Lawful core) (hctx : D.Context core ctx) {s : Store}
    (hs : D.Inv s) (hscope : D.FitScope s scope) {last : Value} (hlast : D.Fit s last)
    (hresult : last.inFlight = false) (statements : List Stmt) :
    D.Yields D.Arriving s (Stmt.evalAll ctx scope last statements) fun t value =>
      D.Fit t value ∧ value.inFlight = false := by
  induction statements generalizing s last with
  | nil => exact .pure hD hs ⟨hlast, hresult⟩
  | cons statement statements ih =>
    refine .bind hD (hD.stmt_arriving hctx hs hscope statement) fun t value hto hvalue => ?_
    exact ih hto.1 (hD.scope_mono hto.2 hscope) hvalue.1 hvalue.2

/-- **What a block ends with** is no early return, unless it is what a fit early return carries. -/
theorem block_arrives (hD : D.Lawful core) (hctx : D.Context core ctx) (hs : D.Inv s)
    (hscope : D.FitScope s scope) (block : Block) :
    D.Keeps s (Block.eval ctx scope block).run fun t outcome =>
      (Outcome.result outcome).isPending = false ∨ D.Returned t (Outcome.result outcome) := by
  have noPending {value : Value} (h : value.inFlight = false) : value.isPending = false :=
    (Bool.or_eq_false_iff.1 h).1
  refine Keeps.mono (hD.stmts_arriving hctx hs hscope (hD.fit_nil s) rfl block) ?_
  intro t outcome hends
  match outcome, hends with
  | .ok _, ⟨_, hresult⟩ => exact .inl (noPending hresult)
  | .error (.ret _), .inl hresult => exact .inl (noPending hresult)
  | .error (.ret _), .inr hreturned => exact .inr hreturned
  | .error (.fault _), _ => exact .inl rfl

end Lawful

end Discipline

/-! ### Programs without rewrapped values -/

/-- All values that are not rewrapped, and all methods. -/
def Stock.unwrapped : Stock where
  value v := v.isRewrapped = false
  method _ _ := True
  value_of_isOrdinary := fun {v} h => by
    cases v with
    | pending => cases h
    | _ => rfl
  value_of_pending := fun {serial payload} h => by
    have hpayload : payload.isPending = false := h
    cases payload with
    | pending => cases hpayload
    | _ => rfl
  method_user := fun _ _ => trivial

/-- If nothing is rewrapped, no block ends with an early return. -/
theorem Stock.unwrapped_block {ctx : NativeContext} {scope : ScopeRef} {block : Block}
    {outcome : Outcome} (hctx : (Discipline.stocking .unwrapped).Context core ctx)
    (hs : s.Stocked .unwrapped)
    (hblock : (Block.eval ctx scope block).run s = some (outcome, t)) :
    outcome.result.isPending = false := by
  have hD := Discipline.stocking_lawful .unwrapped core
  obtain ⟨-, harrives⟩ := hD.block_arrives hctx hs trivial block hblock
  rcases harrives with h | ⟨serial, hunwrapped⟩
  · exact h
  · exact hunwrapped

/-- **Where early returns arrive.**  A program and a call take off the same early returns from a
value exactly if the value is not rewrapped, and from the outcome of a body exactly if the program
would answer no early return.  If nothing is rewrapped that a store holds, that a function is given
or that the native functions of a host answer, no program answers an early return, and a function
answers what a program with such an outcome does. -/
theorem Machine.boundaries_agree
    (hhost : (Discipline.stocking .unwrapped).HostObeys core host) :
    (∀ value, (Outcome.ofValue value).result = value.payload ↔ value.isRewrapped = false) ∧
    (∀ (s : Store) (outcome : Outcome), (s.outcomeValue outcome).1.payload = outcome.result ↔
      outcome.result.isPending = false) ∧
    (∀ (depth : Nat) (scope : ScopeRef) (block : Block) (s t : Store) (answer : Value),
      s.Stocked .unwrapped →
      runProgram core host depth scope block s = some (answer, t) → answer.isPending = false) ∧
    ∀ (depth : Nat) (closure : Closure) (receiver? : Option Value) (args : List Value)
      (s t : Store) (answer : Value), s.Stocked .unwrapped →
      (∀ receiver ∈ receiver?, receiver.isRewrapped = false) →
      (∀ arg ∈ args, arg.isRewrapped = false) →
      (evaluating core host (depth + 1)).runBody closure receiver? args s = some (answer, t) →
        ∃ (outcome : Outcome) (u : Store),
          (Block.eval ((evaluating core host depth).context (depth + 1))
            (s.enter closure receiver? args).1 closure.body).run
              (s.enter closure receiver? args).2 = some (outcome, u) ∧
          answer = outcome.result := by
  have hD := Discipline.stocking_lawful .unwrapped core
  have hctx (calls depth : Nat) := Discipline.Lawful.context (m := evaluating core host calls) hD
    hhost (hD.evaluator hhost calls) depth
  refine ⟨Outcome.result_ofValue_iff, Outcome.payload_outcomeValue_iff,
    fun depth scope block s t answer hs hrun => ?_,
    fun depth closure receiver? args s t answer hs hreceiver hargs hrun => ?_⟩
  · obtain ⟨⟨outcome, u⟩, hblock, hanswer⟩ := Option.bind_eq_some_iff.1 hrun
    cases hanswer
    exact Stock.unwrapped_block (hctx depth depth) hs hblock
  · obtain ⟨⟨value, u⟩, hbody, hanswer⟩ := Option.bind_eq_some_iff.1 hrun
    cases hanswer
    change evaluator core host (depth + 1) closure receiver? args s = _ at hbody
    rw [evaluator_succ] at hbody
    obtain ⟨⟨outcome, u⟩, hblock, hout⟩ := Option.bind_eq_some_iff.1 hbody
    have hpending :=
      Stock.unwrapped_block (hctx depth (depth + 1)) (hs.enter hreceiver hargs) hblock
    refine ⟨outcome, u, hblock, ?_⟩
    have hvalue : (u.outcomeValue outcome).1 = value := congrArg Prod.fst (Option.some.inj hout)
    rw [← hvalue]
    exact (Outcome.payload_outcomeValue_iff u outcome).2 hpending

/-- A host whose functions all answer an early return of a number. -/
def Host.returningOnce : Host :=
  ⟨fun _ _ _ _ => modifyGet fun s => s.newPending (.int 9),
    fun _ _ => modifyGet fun s => s.newPending (.int 9)⟩

theorem Host.unwrapped_returningOnce (core : Core) :
    (Discipline.stocking .unwrapped).HostObeys core returningOnce := by
  have hkeeps {s : Store} (hs : s.Stocked .unwrapped) : (Discipline.stocking .unwrapped).Keeps s
      (modifyGet fun s => s.newPending (.int 9)) (Discipline.stocking .unwrapped).Answer :=
    .change ⟨hs.of_eq rfl rfl rfl rfl, trivial⟩ (.inl rfl)
  exact ⟨fun _ hs _ _ _ => hkeeps hs, fun hs _ _ => hkeeps hs⟩

theorem Stock.unwrapped_initial : Store.initial.Stocked .unwrapped :=
  ⟨fun value hvalue => absurd hvalue (Store.not_holds_initial value), fun _ _ _ _ => trivial⟩

/-- An early return that such a function answers ends a program, which answers the number. -/
theorem boundaries_agree_returningOnce :
    (Discipline.stocking .unwrapped).HostObeys Core.initial .returningOnce ∧
      Store.withBuiltin.Stocked .unwrapped ∧
      ∃ answer t, Machine.runProgram Core.initial .returningOnce 1 ⟨0⟩
          [.expr (.call (.ident "f") []), .retNil] Store.withBuiltin = some (answer, t) ∧
        answer = .int 9 ∧ answer.isPending = false := by
  have hhost := Host.unwrapped_returningOnce Core.initial
  have hscope : (Store.initial.newScope none).2.Stocked .unwrapped :=
    Stock.unwrapped_initial.write (fun _ hvalue => .inr (Store.holds_newScope hvalue)) rfl
  have hs : Store.withBuiltin.Stocked .unwrapped := hscope.setVar rfl
  have hanswer : (Machine.runProgram Core.initial .returningOnce 1 ⟨0⟩
      [.expr (.call (.ident "f") []), .retNil] Store.withBuiltin).map Prod.fst = some (.int 9) := by
    decide +kernel
  obtain ⟨⟨answer, t⟩, hrun, rfl⟩ := Option.map_eq_some_iff.1 hanswer
  obtain ⟨-, -, hprogram, -⟩ := Machine.boundaries_agree hhost
  exact ⟨hhost, hs, _, t, hrun, rfl, hprogram _ _ _ _ _ _ hs hrun⟩

/-! ### A program that answers an early return -/

/-- A scope in which a name is bound to an early return that carries another one. -/
def Store.withRewrapped : Store :=
  let (inner, s) := (Store.initial.newScope none).2.newPending (.int 9)
  let (outer, s) := s.newPending inner
  s.setVar ⟨0⟩ "x" outer

/-- The boundaries do not agree on the bound value.  A program that only names it answers the inner
early return; a function with the same body, made in the same scope, answers the number. -/
theorem not_boundaries_agree_withRewrapped :
    Store.withRewrapped.valueOf? ⟨0⟩ "x" = some (.pending 1 (.pending 0 (.int 9))) ∧
      (Outcome.ofValue (.pending 1 (.pending 0 (.int 9)))).result ≠
        Value.payload (.pending 1 (.pending 0 (.int 9))) ∧
      (∃ answer t, Machine.runProgram Core.initial .returningOnce 1 ⟨0⟩ [.expr (.ident "x")]
        Store.withRewrapped = some (answer, t) ∧ answer.isPending = true) ∧
      ∃ answer t, (Machine.evaluating Core.initial .returningOnce 1).call
        (.function ⟨2, [], [.expr (.ident "x")], ⟨0⟩⟩) [] Store.withRewrapped = some (answer, t) ∧
        answer = .int 9 := by
  have hprogram : (Machine.runProgram Core.initial .returningOnce 1 ⟨0⟩ [.expr (.ident "x")]
      Store.withRewrapped).map Prod.fst = some (.pending 0 (.int 9)) := by decide +kernel
  have hcall : ((Machine.evaluating Core.initial .returningOnce 1).call
      (.function ⟨2, [], [.expr (.ident "x")], ⟨0⟩⟩) [] Store.withRewrapped).map Prod.fst =
        some (.int 9) := by decide +kernel
  obtain ⟨⟨answer, t⟩, hrun, rfl⟩ := Option.map_eq_some_iff.1 hprogram
  obtain ⟨⟨answer', t'⟩, hrun', rfl⟩ := Option.map_eq_some_iff.1 hcall
  exact ⟨by decide +kernel, by decide, ⟨_, t, hrun, rfl⟩, _, t', hrun', rfl⟩

end ObjectModel
