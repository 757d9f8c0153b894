import ObjectModel.Host.StandIn
import ObjectModel.Proofs.Transparency

/-!
# What evaluators are given

An evaluator pairs parameters with arguments, and drops what is left over on either side without a
word.  It may do so because the number of arguments is checked on every way to it.  A method that
is performed, a function that is called, a message that is sent and an instance that `new` makes:
each of them hands a body to the evaluator with as many arguments as it takes, or answers a fault
and leaves the evaluator alone.  And whatever early returns the evaluator answers with, the call
answers what they carry.

That something is never done is said by what does not matter.  Two evaluators that agree on all
argument lists of the right length cannot be told apart, whatever else they do with other lists.
This holds of evaluators that send messages and make calls themselves as well.  Such an evaluator
is given the ways to do so, and bodies at one depth find those of the next depth there.

## Main definitions

* `Dispatch` — the ways to run something.
* `BodyRunner.AgreesOnCounts`, `Machine.AgreesOnCounts` — to agree on lists of the right length.
* `OpenRunner`, `OpenRunner.close` — evaluators that use dispatch, and what they are closed to.

## Main results

* `Machine.AgreesOnCounts.dispatch` — lists of the wrong length do not matter.
* `evaluator_eq_close` — the evaluator of trees is such an evaluator.
* `Machine.call_boundary` — the boundary of a call, for any evaluator.
-/

namespace ObjectModel

variable {m n : Machine} {closure : Closure} {receiver? : Option Value} {args : List Value}

/-- A value is its payload in early returns. -/
theorem Value.exists_eq_wrapped (value : Value) :
    ∃ serials, value = value.payload.wrapped serials := by
  induction value with
  | pending serial value ih =>
    obtain ⟨serials, hvalue⟩ := ih
    exact ⟨serial :: serials, congrArg (Value.pending serial) hvalue⟩
  | _ => exact ⟨[], rfl⟩

/-! ### Lists of the wrong length do not matter -/

/-- The ways to run something: to send a message, to perform a method, both with natives that nest
so deep and no deeper, and to call a function. -/
structure Dispatch where
  core : Core
  send : Nat → Value → String → List Value → Action Value
  perform : Nat → Value → String → Method → List Value → Action Value
  call : Value → List Value → Action Value

/-- The ways of a machine. -/
def Machine.dispatch (m : Machine) : Dispatch where
  core := m.core
  send natives := m.send (m.context natives)
  perform natives := m.perform (m.context natives)
  call := m.call

/-- Two evaluators agree on argument lists of the right length. -/
def BodyRunner.AgreesOnCounts (runner other : BodyRunner) : Prop :=
  ∀ closure receiver? args, closure.arity = args.length →
    runner closure receiver? args = other closure receiver? args

/-- Two machines differ in nothing but in what their evaluators do with other lists. -/
structure Machine.AgreesOnCounts (m n : Machine) : Prop where
  core : m.core = n.core
  host : m.host = n.host
  runner : m.runner.AgreesOnCounts n.runner

namespace Machine.AgreesOnCounts

theorem runBody (h : m.AgreesOnCounts n) (hcount : closure.arity = args.length) :
    m.runBody closure receiver? args = n.runBody closure receiver? args := by
  rw [Machine.runBody, Machine.runBody, h.runner closure receiver? args hcount]

theorem perform (h : m.AgreesOnCounts n) : m.perform = n.perform := by
  funext ctx receiver name method args s
  cases hcount : method.arity.admits args.length with
  | true =>
    rw [perform_of_admits hcount, perform_of_admits hcount]
    -- the evaluator is given bodies of the user only, and here the number is right
    cases method with
    | native native =>
      cases native with
      | kernel => rfl
      | host entry =>
        have hhost : m.host.method = n.host.method := congrArg Host.method h.host
        exact congrFun (congrFun₂ (congrFun₂ hhost entry ctx) receiver args) s
    | user closure => exact congrFun (h.runBody (eq_of_beq hcount)) s
  | false =>
    obtain ⟨expected, harity, hne⟩ := Arity.admits_eq_false_iff.1 hcount
    rw [perform_of_miscounted harity hne, perform_of_miscounted harity hne]

theorem send (h : m.AgreesOnCounts n) : m.send = n.send := by
  funext ctx receiver name args
  unfold Machine.send
  simp only [h.core, h.perform]

theorem call (h : m.AgreesOnCounts n) : m.call = n.call := by
  funext callee args s
  unfold Machine.call
  cases callee.payload with
  | function closure =>
    by_cases hcount : closure.arity = args.length
    · simp only [if_pos hcount, h.runBody hcount]
    · simp only [if_neg hcount]
  | builtin entry => simp only [h.host]
  | _ => rfl

theorem context (h : m.AgreesOnCounts n) (natives : Nat) :
    m.context natives = n.context natives := by
  induction natives with
  | zero => rw [Machine.context, Machine.context, h.core]
  | succ natives ih => rw [Machine.context, Machine.context, h.core, h.send, h.call, ih]

/-- **Lists of the wrong length do not matter**, whichever way something is run. -/
theorem dispatch (h : m.AgreesOnCounts n) : m.dispatch = n.dispatch := by
  have hcontext : m.context = n.context := funext h.context
  rw [Machine.dispatch, Machine.dispatch, h.core, h.send, h.perform, h.call, hcontext]

end Machine.AgreesOnCounts

/-! ### Evaluators that use dispatch -/

/-- An evaluator that sends messages and makes calls in whatever ways it is given, where bodies nest
at most so deep. -/
abbrev OpenRunner := Nat → Dispatch → BodyRunner

namespace OpenRunner

/-- Closes an evaluator: what bodies at one depth run is run in the ways of the next depth. -/
def close (F : OpenRunner) (core : Core) (host : Host) : Nat → BodyRunner
  | 0 => fun _ _ _ => .exhausted
  | depth + 1 => F depth (Machine.dispatch ⟨core, host, F.close core host depth⟩)

/-- Two open evaluators agree on argument lists of the right length, if they are given the same. -/
def AgreesOnCounts (F G : OpenRunner) : Prop :=
  ∀ depth dispatch, (F depth dispatch).AgreesOnCounts (G depth dispatch)

/-- Closed, they agree as well.  What the one is given at the next depth is what the other is given
there, for the machines at that depth agree. -/
theorem AgreesOnCounts.close {F G : OpenRunner} (h : F.AgreesOnCounts G) (core : Core)
    (host : Host) (depth : Nat) :
    (F.close core host depth).AgreesOnCounts (G.close core host depth) := by
  induction depth with
  | zero =>
    intro closure receiver? args _
    rfl
  | succ depth ih =>
    have hmachines : Machine.AgreesOnCounts ⟨core, host, F.close core host depth⟩
        ⟨core, host, G.close core host depth⟩ := ⟨rfl, rfl, ih⟩
    intro closure receiver? args hcount
    -- both are given the same, so it is enough that the open evaluators agree
    rw [OpenRunner.close, OpenRunner.close, hmachines.dispatch]
    exact h depth _ closure receiver? args hcount

/-- The evaluation of program trees, in whatever ways it is given. -/
def trees : OpenRunner := fun depth dispatch closure receiver? args => do
  let scope ← modifyGet fun s => s.enter closure receiver? args
  let ctx : NativeContext := ⟨dispatch.core, dispatch.send depth, dispatch.call⟩
  let outcome ← (Block.eval ctx scope closure.body).run
  modifyGet fun s => s.outcomeValue outcome

end OpenRunner

/-- **The evaluator of program trees is closed evaluation of them.** -/
theorem evaluator_eq_close (core : Core) (host : Host) (depth : Nat) :
    evaluator core host depth = OpenRunner.trees.close core host depth := by
  induction depth with
  | zero => rfl
  | succ depth ih =>
    rw [OpenRunner.close, ← ih]
    rfl

/-- An evaluator that has no answer to a list of the wrong length. -/
def OpenRunner.exacting (F : OpenRunner) : OpenRunner :=
  fun depth dispatch closure receiver? args =>
    if closure.arity = args.length then F depth dispatch closure receiver? args else .exhausted

theorem OpenRunner.agreesOnCounts_exacting (F : OpenRunner) : F.AgreesOnCounts F.exacting := by
  intro depth dispatch closure receiver? args hcount
  rw [exacting, if_pos hcount]

/-! ### The boundary of a call -/

/-- **The boundary of a call, for any evaluator.**  If a function is given as many arguments as it
has parameters, to perform it as a method or to call it is to hand it to the evaluator once, with
the receiver or without one and with these very arguments; the answer is what the evaluator answers,
without the early returns around it, be it a fault or not.  If the number differs, the fault is of
the number of arguments and the store is left as it is.  And no evaluator is ever given a list of
the wrong length, whichever way something is run: what it would do with one makes no difference,
neither to a machine nor, if the evaluator runs things itself, to all that it is closed to. -/
theorem Machine.call_boundary (m : Machine) (closure : Closure) (args : List Value) (s : Store) :
    (closure.arity = args.length →
      (∀ ctx receiver name, m.perform ctx receiver name (.user closure) args s =
        (m.runner closure (some receiver) args s).map (Prod.map Value.payload id)) ∧
      ∀ callee, callee.payload = .function closure → m.call callee args s =
        (m.runner closure none args s).map (Prod.map Value.payload id)) ∧
    (closure.arity ≠ args.length →
      (∀ ctx receiver name, m.perform ctx receiver name (.user closure) args s =
        some (.fault (.argCount name closure.arity args.length), s)) ∧
      ∀ callee, callee.payload = .function closure → m.call callee args s =
        some (.fault (.argCount "call" closure.arity args.length), s)) ∧
    (∀ answer : Value, answer.payload.isPending = false ∧
      ∃ serials, answer = answer.payload.wrapped serials) ∧
    (∀ fault serials, ((Value.fault fault).wrapped serials).payload = .fault fault) ∧
    (∀ n : Machine, m.AgreesOnCounts n → m.dispatch = n.dispatch) ∧
    ∀ F G : OpenRunner, F.AgreesOnCounts G → ∀ core host depth,
      Machine.dispatch ⟨core, host, F.close core host depth⟩ =
        Machine.dispatch ⟨core, host, G.close core host depth⟩ := by
  refine ⟨fun hcount => ⟨fun ctx receiver name => ?_, fun callee hclosure => ?_⟩,
    fun hne => ⟨fun ctx receiver name => ?_, fun callee hclosure => ?_⟩,
    fun answer => ⟨answer.isPending_payload, answer.exists_eq_wrapped⟩,
    fun fault serials => Value.payload_wrapped (.fault fault) serials,
    fun n h => h.dispatch, fun F G h core host depth => ?_⟩
  · rw [perform_user hcount, runBody_eq_map]
  · rw [call_function hclosure hcount, runBody_eq_map]
  · have harity : (Method.user closure).arity = .exact closure.arity := rfl
    rw [perform_of_miscounted harity hne]
    rfl
  · rw [call_of_miscounted hclosure hne]
    rfl
  · have hmachines : Machine.AgreesOnCounts ⟨core, host, F.close core host depth⟩
        ⟨core, host, G.close core host depth⟩ := ⟨rfl, rfl, h.close core host depth⟩
    exact hmachines.dispatch

/-- A number in two early returns arrives as the number, nothing is handed over without an argument,
and the evaluator of trees never needs the answer that it has for such a list. -/
theorem call_boundary_returnTwice :
    (∃ t, (⟨Core.initial, .returning, .returnTwice⟩ : Machine).call
      (.function ⟨0, ["x"], [], ⟨0⟩⟩) [.int 9] Store.initial = some (.int 9, t)) ∧
    (∀ ctx, (⟨Core.initial, .returning, .returnTwice⟩ : Machine).perform ctx (.int 1) "twice"
      (.user ⟨0, ["x"], [], ⟨0⟩⟩) [] Store.initial =
        some (.fault (.argCount "twice" 1 0), Store.initial)) ∧
    ∀ depth, (Machine.evaluating Core.initial .returning depth).dispatch =
      Machine.dispatch ⟨Core.initial, .returning,
        OpenRunner.trees.exacting.close Core.initial .returning depth⟩ := by
  have hboundary (args : List Value) :=
    (⟨Core.initial, .returning, .returnTwice⟩ : Machine).call_boundary ⟨0, ["x"], [], ⟨0⟩⟩ args
      Store.initial
  obtain ⟨hone, -⟩ := hboundary [.int 9]
  obtain ⟨-, hnone, -, -, -, hclosed⟩ := hboundary []
  refine ⟨⟨_, (hone rfl).2 _ rfl⟩, fun ctx => (hnone nofun).1 ctx _ _, fun depth => ?_⟩
  rw [Machine.evaluating, evaluator_eq_close]
  exact hclosed _ _ OpenRunner.trees.agreesOnCounts_exacting _ _ depth

end ObjectModel
