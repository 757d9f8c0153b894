import Mathlib
import ObjectModel.Proofs.Frame
import ObjectModel.Proofs.Persistence

/-!
# Events and dispatch

An early return stands for what it carries.  Whatever is asked about a value for the sake of
dispatch — its class, its birth class, its text, who answers a message, what the answer is — is
asked about the payload, and the early returns around it make no difference, be there one or many.
A fault in the place of the receiver or of the callee is the answer itself.

So a method never meets an event as its receiver.  This is said twice.  A message has one of three
outcomes, and only in the last of them a method is run, on a payload that is no event.  And nothing
depends on what methods would do with an event for a receiver: two machines that differ in nothing
else send alike, however natives send messages on; and two hosts that differ in nothing else run
every program alike.

## Main definitions

* `Value.wrapped` — a value in early returns.
* `Machine.Handled` — the three outcomes of a message.
* `Host.AgreesAtRest`, `Machine.AgreesAtRest` — to agree except on events as receivers.

## Main results

* `Machine.handled_send` — a message has one of the outcomes.
* `Machine.AgreesAtRest.context`, `Machine.runProgram_congr` — events as receivers make no
  difference.
* `Store.pending_transparent` — early returns and faults in dispatch.
-/

namespace ObjectModel

variable {s : Store} {core : Core} {value receiver : Value} {name : String} {args : List Value}

/-- The value in early returns, the outermost of which comes first. -/
def Value.wrapped (value : Value) (serials : List Nat) : Value := serials.foldr .pending value

@[simp] theorem Value.payload_wrapped (value : Value) (serials : List Nat) :
    (value.wrapped serials).payload = value.payload := by
  induction serials with
  | nil => rfl
  | cons serial serials ih => exact ih

/-- A payload is no event exactly when it is no fault. -/
theorem Value.inFlight_payload_eq_false_iff :
    value.payload.inFlight = false ↔ ∀ fault, value.payload ≠ .fault fault := by
  have hpending := value.isPending_payload
  generalize value.payload = payload at hpending
  constructor
  · rintro hrest fault rfl
    cases hrest
  · intro hfault
    cases payload with
    | pending => cases hpending
    | fault fault => exact absurd rfl (hfault fault)
    | _ => rfl

/-! ### Classes, texts and lookups -/

namespace Store

theorem birthClass?_payload (s : Store) (core : Core) (value : Value) :
    s.birthClass? core value.payload = s.birthClass? core value := by
  induction value with
  | pending serial value ih => exact ih
  | _ => rfl

theorem classOf?_payload (s : Store) (core : Core) (value : Value) :
    s.classOf? core value.payload = s.classOf? core value := by
  rw [classOf?_eq, classOf?_eq, Value.payload_payload]

theorem inspect_payload (s : Store) (value : Value) : s.inspect value.payload = s.inspect value := by
  induction value with
  | pending serial value ih =>
    rw [Value.payload_pending, ih, inspect, inspect, inspectFrom_pending]
  | _ => rfl

/-- The values without a class are functions and faults. -/
theorem classOf?_eq_none_iff (core : Core) (hlive : s.Live value) :
    s.classOf? core value = none ↔ value.payload.isClassless = true := by
  rw [classOf?_eq]
  constructor
  · intro hclass
    obtain ⟨-, hnone⟩ := Option.or_eq_none_iff.1 hclass
    cases hclassless : value.payload.isClassless with
    | true => rfl
    | false =>
      obtain ⟨birth, hbirth⟩ :=
        exists_birthClass? core (live_payload.2 hlive) value.isPending_payload hclassless
      rw [hnone] at hbirth
      cases hbirth
  · intro hclassless
    generalize value.payload = payload at hclassless
    cases payload with
    | function | builtin | fault => rfl
    | _ => cases hclassless

/-- A lookup succeeds for a value as it does for the payload. -/
theorem methodFor_payload_eq_ok_iff {found : Found} :
    s.methodFor core value.payload name = .ok found ↔ s.methodFor core value name = .ok found := by
  rw [methodFor_ok_iff, methodFor_ok_iff, classOf?_payload]

theorem understands_payload : s.understands core value.payload name =
    s.understands core value name := by
  rw [Bool.eq_iff_iff, understands_iff, understands_iff, classOf?_payload]

end Store

namespace Machine

variable {m n : Machine} {ctx : NativeContext}

theorem send_payload : m.send ctx receiver.payload name args = m.send ctx receiver name args := by
  rw [send, send, Value.payload_payload]

theorem call_payload (m : Machine) (callee : Value) (args : List Value) :
    m.call callee.payload args = m.call callee args := by
  rw [call, call, Value.payload_payload]

/-- A message that nothing answers to leaves the store as it is. -/
theorem send_of_unanswered {fault : Fault} (hreceiver : ∀ fault, receiver.payload ≠ .fault fault)
    (hlookup : s.methodFor m.core receiver.payload name = .error fault) :
    m.send ctx receiver name args s = some (.fault fault, s) := by
  unfold Machine.send
  generalize receiver.payload = payload at hreceiver hlookup
  cases payload with
  | fault fault => exact absurd rfl (hreceiver fault)
  | _ =>
    simp only [Action.get_bind, hlookup]
    rfl

/-! ### The outcomes of a message -/

/-- What comes of a message that is sent in the store.  Unless a method is run, the store is left as
it is. -/
inductive Handled (m : Machine) (ctx : NativeContext) (receiver : Value) (name : String)
    (args : List Value) (s : Store) : Option (Value × Store) → Prop
  /-- A fault answers for itself. -/
  | fault {fault : Fault} (h : receiver.payload = .fault fault) :
      Handled m ctx receiver name args s (some (.fault fault, s))
  /-- Nothing answers to the name. -/
  | unanswered {fault : Fault} (hrest : receiver.payload.inFlight = false)
      (h : s.methodFor m.core receiver.payload name = .error fault) :
      Handled m ctx receiver name args s (some (.fault fault, s))
  /-- A method is run on the payload, which is no event. -/
  | performed {found : Store.Found} (hrest : receiver.payload.inFlight = false)
      (h : s.methodFor m.core receiver.payload name = .ok found) :
      Handled m ctx receiver name args s (m.perform ctx receiver.payload name found.method args s)

/-- **A message has one of three outcomes.** -/
theorem handled_send (m : Machine) (ctx : NativeContext) (receiver : Value) (name : String)
    (args : List Value) (s : Store) :
    m.Handled ctx receiver name args s (m.send ctx receiver name args s) := by
  by_cases hfault : ∃ fault, receiver.payload = .fault fault
  · obtain ⟨fault, hfault⟩ := hfault
    rw [← send_payload, hfault, send_fault]
    exact .fault hfault
  · have hreceiver : ∀ fault, receiver.payload ≠ .fault fault := not_exists.1 hfault
    have hrest := Value.inFlight_payload_eq_false_iff.2 hreceiver
    cases hlookup : s.methodFor m.core receiver.payload name with
    | ok found =>
      rw [send_of_found hreceiver hlookup]
      exact .performed hrest hlookup
    | error fault =>
      rw [send_of_unanswered hreceiver hlookup]
      exact .unanswered hrest hlookup

end Machine

/-! ### What is done with events does not matter -/

/-- Two hosts agree on every receiver that is no event. -/
structure Host.AgreesAtRest (host other : Host) : Prop where
  builtin : host.builtin = other.builtin
  method : ∀ entry ctx receiver args, receiver.inFlight = false →
    host.method entry ctx receiver args = other.method entry ctx receiver args

/-- Two machines agree on every receiver that is no event. -/
structure Machine.AgreesAtRest (m n : Machine) : Prop where
  core : m.core = n.core
  host : m.host.AgreesAtRest n.host
  runner : ∀ closure receiver? args, (∀ receiver ∈ receiver?, receiver.inFlight = false) →
    m.runner closure receiver? args = n.runner closure receiver? args

namespace Machine.AgreesAtRest

variable {m n : Machine}

theorem runBody (h : m.AgreesAtRest n) {closure : Closure} {receiver? : Option Value}
    (hrest : ∀ receiver ∈ receiver?, receiver.inFlight = false) :
    m.runBody closure receiver? args = n.runBody closure receiver? args := by
  rw [Machine.runBody, Machine.runBody, h.runner closure receiver? args hrest]

theorem perform (h : m.AgreesAtRest n) {ctx : NativeContext} {method : Method}
    (hrest : receiver.inFlight = false) :
    m.perform ctx receiver name method args = n.perform ctx receiver name method args := by
  have hrun : perform.run m ctx receiver method args = perform.run n ctx receiver method args := by
    cases method with
    | native native =>
      cases native with
      | kernel => rfl
      | host entry => exact h.host.method entry ctx receiver args hrest
    | user closure =>
      refine h.runBody ?_
      rintro _ ⟨⟩
      exact hrest
  rw [Machine.perform, Machine.perform, hrun]

theorem send (h : m.AgreesAtRest n) : m.send = n.send := by
  funext ctx receiver name args s
  have hhandled := m.handled_send ctx receiver name args s
  generalize m.send ctx receiver name args s = outcome at hhandled
  cases hhandled with
  | fault hfault =>
    rw [← send_payload, hfault, send_fault]
    rfl
  | unanswered hrest hlookup =>
    rw [h.core] at hlookup
    rw [send_of_unanswered (Value.inFlight_payload_eq_false_iff.1 hrest) hlookup]
  | performed hrest hlookup =>
    rw [h.core] at hlookup
    rw [send_of_found (Value.inFlight_payload_eq_false_iff.1 hrest) hlookup, h.perform hrest]

theorem call (h : m.AgreesAtRest n) : m.call = n.call := by
  funext callee args
  unfold Machine.call
  cases callee.payload with
  | function closure =>
    have hbody : m.runBody closure none args = n.runBody closure none args :=
      h.runBody (by rintro _ ⟨⟩)
    simp only [hbody]
  | builtin entry => simp only [h.host.builtin]
  | _ => rfl

/-- Machines that agree give natives the same to work with, however deep these nest. -/
theorem context (h : m.AgreesAtRest n) (depth : Nat) : m.context depth = n.context depth := by
  induction depth with
  | zero => rw [Machine.context, Machine.context, h.core]
  | succ depth ih => rw [Machine.context, Machine.context, h.core, h.send, h.call, ih]

end Machine.AgreesAtRest

section

variable {host other : Host} {calls : Nat}

theorem Host.AgreesAtRest.evaluating (h : host.AgreesAtRest other)
    (hrunner : evaluator core host calls = evaluator core other calls) :
    (Machine.evaluating core host calls).AgreesAtRest (Machine.evaluating core other calls) :=
  ⟨rfl, h, fun closure receiver? args _ => congrFun₃ hrunner closure receiver? args⟩

/-- Hosts that agree have bodies evaluated alike. -/
theorem evaluator_congr (h : host.AgreesAtRest other) (core : Core) (calls : Nat) :
    evaluator core host calls = evaluator core other calls := by
  induction calls with
  | zero => rfl
  | succ calls ih =>
    funext closure receiver? args s
    rw [evaluator_succ, evaluator_succ, (h.evaluating ih).context]

/-- **Hosts that differ only on events as receivers run every program alike.** -/
theorem Machine.runProgram_congr (h : host.AgreesAtRest other) (core : Core) (depth : Nat)
    (scope : ScopeRef) (block : Block) :
    Machine.runProgram core host depth scope block =
      Machine.runProgram core other depth scope block := by
  rw [runProgram, runProgram, (h.evaluating (evaluator_congr h core depth)).context]

end

open Store

/-- **Early returns are transparent to dispatch, and faults answer for themselves.**  In every store,
a value in early returns has the class, the birth class and the text of the value itself, and the
same methods; it has no class exactly when the payload is a function or a fault.  In every machine it
is sent messages and called as the value itself is, with the same answer and the same effect.  A
message has one of its three outcomes, so that no method is run on an event; and machines that differ
on nothing but events as receivers send it alike.  A fault in early returns is the answer to every
message and call, and nothing is changed. -/
theorem Store.pending_transparent (s : Store) (core : Core) (value : Value) (serials : List Nat) :
    (s.classOf? core (value.wrapped serials) = s.classOf? core value ∧
      s.birthClass? core (value.wrapped serials) = s.birthClass? core value ∧
      s.inspect (value.wrapped serials) = s.inspect value) ∧
    (s.Live value →
      (s.classOf? core (value.wrapped serials) = none ↔ value.payload.isClassless = true)) ∧
    (∀ name, s.understands core (value.wrapped serials) name = s.understands core value name ∧
      ∀ found, s.methodFor core (value.wrapped serials) name = .ok found ↔
        s.methodFor core value name = .ok found) ∧
    (∀ (m : Machine) ctx name args,
      m.send ctx (value.wrapped serials) name args = m.send ctx value name args ∧
        m.call (value.wrapped serials) args = m.call value args) ∧
    (∀ (m : Machine) ctx name args,
      m.Handled ctx (value.wrapped serials) name args s
        (m.send ctx (value.wrapped serials) name args s)) ∧
    (∀ m n : Machine, m.AgreesAtRest n → ∀ depth name args,
      (m.context depth).send (value.wrapped serials) name args =
        (n.context depth).send (value.wrapped serials) name args) ∧
    ∀ fault, value.payload = .fault fault → ∀ (m : Machine) ctx name args,
      m.send ctx (value.wrapped serials) name args s = some (.fault fault, s) ∧
        m.call (value.wrapped serials) args s = some (.fault fault, s) := by
  have hpayload := value.payload_wrapped serials
  refine ⟨⟨?_, ?_, ?_⟩, fun hlive => ?_, fun name => ⟨?_, fun found => ?_⟩,
    fun m ctx name args => ⟨?_, ?_⟩, fun m ctx name args => m.handled_send _ _ _ _ _,
    fun m n h depth name args => by rw [h.context], fun fault hfault m ctx name args => ⟨?_, ?_⟩⟩
  · rw [← classOf?_payload, hpayload, classOf?_payload]
  · rw [← birthClass?_payload, hpayload, birthClass?_payload]
  · rw [← inspect_payload, hpayload, inspect_payload]
  · rw [← classOf?_payload, hpayload, classOf?_payload, classOf?_eq_none_iff core hlive]
  · rw [← understands_payload, hpayload, understands_payload]
  · rw [← methodFor_payload_eq_ok_iff, hpayload, methodFor_payload_eq_ok_iff]
  · rw [← Machine.send_payload, hpayload, Machine.send_payload]
  · rw [← Machine.call_payload, hpayload, Machine.call_payload]
  · rw [← Machine.send_payload, hpayload, hfault, Machine.send_fault]
    rfl
  · rw [← Machine.call_payload, hpayload, hfault, Machine.call_fault]
    rfl

/-- A bare object, and a method of the host for all objects. -/
def Store.withItself : Store :=
  withObject.defineMethod Core.initial.object "itself" (.native (.host 0 "itself" .any))

/-- A host whose methods answer with their receiver. -/
def Host.returning : Host := ⟨fun _ _ receiver _ => pure receiver, fun _ _ => pure .nil⟩

/-- A host whose methods do so, but answer `nil` to an event. -/
def Host.wary : Host :=
  ⟨fun _ _ receiver _ => pure (if receiver.inFlight then .nil else receiver),
    fun _ _ => pure .nil⟩

/-- An object in two early returns answers as the object does, and a fault for itself. -/
theorem pending_transparent_withItself :
    withItself.Live (.object ⟨0⟩) ∧
      withItself.classOf? Core.initial ((Value.object ⟨0⟩).wrapped [1, 0]) ≠ none ∧
      (∀ ctx, (Machine.evaluating Core.initial .returning 1).send ctx
        ((Value.object ⟨0⟩).wrapped [1, 0]) "itself" [] withItself =
          some (.object ⟨0⟩, withItself)) ∧
      (((Machine.evaluating Core.initial .returning 1).context 2).send
        ((Value.object ⟨0⟩).wrapped [1, 0]) "itself" [] =
          ((Machine.evaluating Core.initial .wary 1).context 2).send
            ((Value.object ⟨0⟩).wrapped [1, 0]) "itself" []) ∧
      ∀ ctx, (Machine.evaluating Core.initial .returning 1).send ctx
        ((Value.fault (.argCount "size" 0 1)).wrapped [0]) "itself" [] withItself =
          some (.fault (.argCount "size" 0 1), withItself) := by
  have hlive : withItself.Live (.object ⟨0⟩) := Nat.one_pos
  have hfound : withItself.methodFor Core.initial (.object ⟨0⟩) "itself" =
      .ok ⟨Core.initial.object, .native (.host 0 "itself" .any)⟩ := by
    cbv
  have hagrees : Host.returning.AgreesAtRest .wary :=
    ⟨rfl, fun entry ctx receiver args hrest => by simp [Host.returning, Host.wary, hrest]⟩
  obtain ⟨-, hclass, -, hsend, -, hcongr, -⟩ :=
    withItself.pending_transparent Core.initial (.object ⟨0⟩) [1, 0]
  obtain ⟨-, -, -, -, -, -, hfault⟩ :=
    withItself.pending_transparent Core.initial (.fault (.argCount "size" 0 1)) [0]
  refine ⟨hlive, fun hnone => ?_, fun ctx => ?_, ?_, fun ctx => ?_⟩
  · cases (hclass hlive).1 hnone
  · rw [(hsend _ ctx "itself" []).1, Machine.send_of_found (by rintro _ ⟨⟩) hfound]
    rfl
  · exact hcongr _ _ (hagrees.evaluating (evaluator_congr hagrees _ 1)) 2 "itself" []
  · exact (hfault _ rfl _ ctx "itself" []).1

end ObjectModel
