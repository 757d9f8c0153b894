import ObjectModel.Proofs.Construction
import ObjectModel.Proofs.Graph
import ObjectModel.Proofs.Ownership

/-!
# Refusals

An operation may fail because of what it is asked for: the receiver has no class or no such method,
the number of arguments is wrong, a class has no name or no instances, a value cannot carry methods
of its own or be called.  Each of these reasons can be seen in the store as it is when the operation
begins, and it is looked for before anything is written and before any body is run.  So whoever is
refused finds the store as it was.

The one operation that writes first is `new`, which allocates an instance before it looks for the
method that initialises it.  If that message is refused there is one object more than before, and
nothing leads to it.

A failure that is no refusal comes out of a body, or of a native function of the host.

## Main definitions

* `Request`, `Request.run` — something to be done, and what is reported of it.
* `Request.Becomes` — one request is dealt with by another one.
* `Refused` — a request that is refused, with the reason.
* `Delegates` — a request for which something else is run.
* `Store.AddsUnreached` — one thing is added to a store, and nothing leads to it.

## Main results

* `Refused.run_eq` — a request that is refused is reported, and leaves the store alone.
* `Request.accounted` — a failure is a refusal, or comes from something that was run.
* `Store.Sound.addsUnreached_newObject` — nothing leads to an object that has just been allocated.
* `Refused.run_new` — `new` is refused if the initialisation of the new object is.
* `Reachable.refused_untouched` — operations that fail leave the state intact.
-/

namespace ObjectModel

open Store

variable {core : Core} {s t : Store} {m : Machine} {ctx : NativeContext}

/-! ### Requests -/

/-- Something that is asked of the object system. -/
inductive Request where
  | eigenclass (value : Value)
  | defineOnObject (value : Value) (name : String) (method : Method)
  | makeClass (name : String) (superclass : ClassRef)
  | makeModule (name : String)
  | makeFunction (params : List String) (body : Block) (scope : ScopeRef)
  | allocate (c : ClassRef)
  | send (receiver : Value) (name : String) (args : List Value)
  /-- The run of a method that has been found. -/
  | perform (receiver : Value) (name : String) (method : Method) (args : List Value)
  | call (callee : Value) (args : List Value)
  /-- The run of a kernel method, whatever the number of arguments. -/
  | kernel (method : KernelMethod) (receiver : Value) (args : List Value)

/-- A failure, in either of its tiers. -/
inductive Refusal where
  | malformed (cause : Malformed)
  | fault (fault : Fault)

namespace Refusal

/-- What is reported of an operation that may fail. -/
def reported {ε α : Type} (refusal : ε → Refusal) (operation : Store → Except ε (α × Store)) :
    Action (Option Refusal) := do
  match ← Action.attempt operation with
  | .ok _ => return none
  | .error e => return some (refusal e)

/-- What is reported of an action that answers a value: the value, if it is a fault. -/
def answered (action : Action Value) : Action (Option Refusal) :=
  return (← action).fault?.map fault

section

variable {ε α : Type} {refusal : ε → Refusal} {operation : Store → Except ε (α × Store)}
  {action : Action Value} {cause : Fault} {r : Refusal}

theorem reported_of_error {e : ε} (h : operation s = .error e) :
    reported refusal operation s = some (some (refusal e), s) := by
  have hattempt : Action.attempt operation s = some (.error e, s) := by
    rw [Action.attempt, h]
  rw [reported, Action.bind_eq hattempt]
  rfl

/-- Only an error is reported as a failure, and then nothing has been written. -/
theorem of_reported (h : reported refusal operation s = some (some r, t)) :
    ∃ e, operation s = .error e ∧ r = refusal e ∧ t = s := by
  cases hoperation : operation s with
  | error e =>
    rw [reported_of_error hoperation] at h
    cases h
    exact ⟨e, rfl, rfl, rfl⟩
  | ok made =>
    obtain ⟨x, u⟩ := made
    have hattempt : Action.attempt operation s = some (.ok x, u) := by
      rw [Action.attempt, hoperation]
    rw [reported, Action.bind_eq hattempt] at h
    cases h

theorem answered_of_fault (h : action s = some (.fault cause, t)) :
    answered action s = some (some (fault cause), t) := by
  change (action s).bind _ = _
  rw [h]
  rfl

theorem answered_congr {action' : Action Value} (h : action s = action' s) :
    answered action s = answered action' s := by
  change (action s).bind _ = (action' s).bind _
  rw [h]

/-- Only a fault is reported as a failure. -/
theorem of_answered (h : answered action s = some (some r, t)) :
    ∃ cause, action s = some (.fault cause, t) ∧ r = fault cause := by
  obtain ⟨⟨value, u⟩, haction, heq⟩ := Option.bind_eq_some_iff.1 h
  cases value with
  | fault cause =>
    cases heq
    exact ⟨cause, haction, rfl⟩
  | _ => cases heq

end

end Refusal

namespace Request

open Refusal

/-- Does what is asked for, and reports the failure, if it is one. -/
def run (m : Machine) (ctx : NativeContext) : Request → Action (Option Refusal)
  | eigenclass value => reported fault fun s => s.ensureEigenclass m.core value
  | defineOnObject value name method =>
    reported fault fun s => (s.defineOnObject m.core value name method).map ((), ·)
  | makeClass name superclass => reported malformed fun s => s.makeClass name superclass
  | makeModule name => reported malformed fun s => s.makeModule name
  | makeFunction params body scope => reported malformed fun s => s.makeFunction params body scope
  | allocate c => reported fault fun s => s.allocate c
  | send receiver name args => answered (m.send ctx receiver name args)
  | perform receiver name method args => answered (m.perform ctx receiver name method args)
  | call callee args => answered (m.call callee args)
  | kernel method receiver args => answered (method.run ctx receiver args)

/-- A request is dealt with by another one, and the failure of that is its own. -/
inductive Becomes (core : Core) (s : Store) : Request → Request → Prop
  /-- A message is the run of the method that is found for it. -/
  | send {receiver : Value} {name : String} {args : List Value} {found : Found}
      (hreceiver : ∀ fault, receiver.payload ≠ .fault fault)
      (hfound : s.methodFor core receiver.payload name = .ok found) :
      Becomes core s (.send receiver name args) (.perform receiver.payload name found.method args)
  | perform {receiver : Value} {name : String} {home : ClassRef} {method : KernelMethod}
      {args : List Value} (hcount : method.arity.admits args.length = true) :
      Becomes core s (.perform receiver name (.native (.kernel home method)) args)
        (.kernel method receiver args)
  | singletonClass {receiver : Value} {args : List Value} :
      Becomes core s (.kernel .singletonClass receiver args) (.eigenclass receiver)

theorem Becomes.run_eq {q q' : Request} (h : Becomes core s q q') (hm : m.core = core)
    (hctx : ctx.core = core) : q.run m ctx s = q'.run m ctx s := by
  cases h with
  | send hreceiver hfound =>
    rw [← hm] at hfound
    exact answered_congr (Machine.send_of_found hreceiver hfound)
  | @perform receiver name home method args hcount =>
    have hperform : m.perform ctx receiver name (.native (.kernel home method)) args =
        Machine.perform.run m ctx receiver (.native (.kernel home method)) args :=
      Machine.perform_of_admits hcount
    rw [run, hperform]
    rfl
  | @singletonClass receiver args =>
    rw [run, run, hm]
    cases hmade : s.ensureEigenclass core receiver with
    | error cause =>
      have hattempt : Action.attempt (fun s => s.ensureEigenclass ctx.core receiver) s =
          some (.error cause, s) := by
        rw [Action.attempt, hctx, hmade]
      rw [reported_of_error hmade]
      apply answered_of_fault
      simp only [KernelMethod.run]
      rw [Action.bind_eq hattempt]
      rfl
    | ok made =>
      obtain ⟨e, t⟩ := made
      have hattempt : Action.attempt (fun s => s.ensureEigenclass core receiver) s =
          some (.ok e, t) := by
        rw [Action.attempt, hmade]
      have hrun : KernelMethod.singletonClass.run ctx receiver args s = some (.cls e, t) :=
        KernelMethod.run_singletonClass (hctx ▸ hmade)
      rw [answered, Action.bind_eq hrun, reported, Action.bind_eq hattempt]
      rfl

end Request

/-! ### What is refused -/

/-- What is no function, and no fault either, cannot be called. -/
theorem Machine.call_of_notCallable {callee : Value} {args : List Value}
    (hfunction : ∀ closure, callee.payload ≠ .function closure)
    (hbuiltin : ∀ entry name, callee.payload ≠ .builtin entry name)
    (hfault : ∀ cause, callee.payload ≠ .fault cause) :
    m.call callee args s =
      some (.fault (.notAFunction (s.inspect callee.payload) (s.tagOf callee.payload)), s) := by
  unfold Machine.call
  generalize callee.payload = payload at hfunction hbuiltin hfault
  cases payload with
  | function closure => exact absurd rfl (hfunction closure)
  | builtin entry name => exact absurd rfl (hbuiltin entry name)
  | fault cause => exact absurd rfl (hfault cause)
  | _ => rfl

/-- Whether a receiver answers a message is asked by the name of the message. -/
theorem Kernel.answersTo_of_unnamed {receiver argument : Value}
    (hsymbol : ∀ name, argument ≠ .symbol name) (hstring : ∀ ref, argument ≠ .string ref) :
    Kernel.answersTo core receiver argument s =
      some (.fault (.argType "respond_to?" "Symbol" (s.tagOf argument)), s) := by
  cases argument with
  | symbol name => exact absurd rfl (hsymbol name)
  | string ref => exact absurd rfl (hstring ref)
  | _ => rfl

/-- A request is refused, for a reason that can be seen in the store. -/
inductive Refused (core : Core) (s : Store) : Request → Refusal → Prop
  /-- The value has no place for an eigenclass, or no class. -/
  | eigenclass {value : Value} (h : value.carrier? = none ∨ s.classOf? core value = none) :
      Refused core s (.eigenclass value)
        (.fault (.notACarrier (s.inspect value) (s.tagOf value)))
  | defineOnObject {value : Value} {name : String} {method : Method} {r : Refusal}
      (h : Refused core s (.eigenclass value) r) :
      Refused core s (.defineOnObject value name method) r
  | namelessClass {name : String} {superclass : ClassRef} (hname : name.isEmpty = true) :
      Refused core s (.makeClass name superclass) (.malformed .missingName)
  | unfitSuperclass {name : String} {superclass : ClassRef} (hname : name.isEmpty = false)
      (hkind : (s.classes.read superclass).kind ≠ .plain) :
      Refused core s (.makeClass name superclass)
        (.malformed (.unfitSuperclass (s.className superclass) (s.classes.read superclass).kind))
  | namelessModule {name : String} (hname : name.isEmpty = true) :
      Refused core s (.makeModule name) (.malformed .missingName)
  | repeatedParameter {params : List String} {name : String} {body : Block} {scope : ScopeRef}
      (h : firstRepeated? [] params = some name) :
      Refused core s (.makeFunction params body scope) (.malformed (.repeatedParameter name))
  | noAllocator {c : ClassRef} (hlayout : (s.classes.read c).layout? = none) :
      Refused core s (.allocate c) (.fault (.noAllocator (s.className c)))
  /-- A fault answers every message with itself. -/
  | faultyReceiver {receiver : Value} {name : String} {args : List Value} {cause : Fault}
      (hreceiver : receiver.payload = .fault cause) :
      Refused core s (.send receiver name args) (.fault cause)
  | classless {receiver : Value} {name : String} {args : List Value}
      (hreceiver : ∀ cause, receiver.payload ≠ .fault cause)
      (hclass : s.classOf? core receiver.payload = none) :
      Refused core s (.send receiver name args)
        (.fault (.noClass name (s.tagOf receiver.payload)))
  | undefined {receiver : Value} {name : String} {args : List Value} {c : ClassRef}
      (hreceiver : ∀ cause, receiver.payload ≠ .fault cause)
      (hclass : s.classOf? core receiver.payload = some c) (hnone : s.resolve? c name = none) :
      Refused core s (.send receiver name args)
        (.fault (.noMethod name (s.inspect receiver.payload)
          (s.className ((s.birthClass? core receiver.payload).getD c))))
  | miscounted {receiver : Value} {name : String} {method : Method} {args : List Value}
      {expected : Nat} (harity : method.arity = .exact expected) (hne : expected ≠ args.length) :
      Refused core s (.perform receiver name method args)
        (.fault (.argCount name expected args.length))
  | miscountedCall {callee : Value} {closure : Closure} {args : List Value}
      (hcallee : callee.payload = .function closure) (hne : closure.arity ≠ args.length) :
      Refused core s (.call callee args) (.fault (.argCount "call" closure.arity args.length))
  | faultyCallee {callee : Value} {args : List Value} {cause : Fault}
      (hcallee : callee.payload = .fault cause) : Refused core s (.call callee args) (.fault cause)
  | notCallable {callee : Value} {args : List Value}
      (hfunction : ∀ closure, callee.payload ≠ .function closure)
      (hbuiltin : ∀ entry name, callee.payload ≠ .builtin entry name)
      (hfault : ∀ cause, callee.payload ≠ .fault cause) :
      Refused core s (.call callee args)
        (.fault (.notAFunction (s.inspect callee.payload) (s.tagOf callee.payload)))
  /-- The receiver has not the form that the kernel method is for. -/
  | receiver {method : KernelMethod} {receiver : Value} {args : List Value}
      (h : method.accepts receiver = false) :
      Refused core s (.kernel method receiver args) (.fault (method.refusal s receiver))
  | messageName {receiver : Value} {args : List Value}
      (hsymbol : ∀ name, Kernel.firstArg args ≠ .symbol name)
      (hstring : ∀ ref, Kernel.firstArg args ≠ .string ref) :
      Refused core s (.kernel .respondTo receiver args)
        (.fault (.argType "respond_to?" "Symbol" (s.tagOf (Kernel.firstArg args))))
  | exceptionMessage {c : ClassRef} {argument : Value}
      (hlayout : (s.classes.read c).layout? = some .exception) (htext : s.text? argument = none) :
      Refused core s (.kernel .new (.cls c) [argument])
        (.fault (.argType "new" "String" (s.tagOf argument)))
  | exceptionArguments {c : ClassRef} {args : List Value}
      (hlayout : (s.classes.read c).layout? = some .exception) (hlength : 2 ≤ args.length) :
      Refused core s (.kernel .new (.cls c) args) (.fault (.argCount "new" 1 args.length))
  | noInstance {c : ClassRef} {args : List Value} {r : Refusal}
      (h : Refused core s (.allocate c) r) : Refused core s (.kernel .new (.cls c) args) r
  | passed {q q' : Request} {r : Refusal} (hbecomes : q.Becomes core s q')
      (h : Refused core s q' r) : Refused core s q r

namespace Refused

open Refusal

variable {q : Request} {r : Refusal}

theorem ensureEigenclass_eq_error {value : Value}
    (h : value.carrier? = none ∨ s.classOf? core value = none) :
    s.ensureEigenclass core value = .error (.notACarrier (s.inspect value) (s.tagOf value)) := by
  unfold ensureEigenclass
  split
  · next carrier c hcarrier hclass =>
    rcases h with hnone | hnone
    · rw [hnone] at hcarrier
      cases hcarrier
    · rw [hnone] at hclass
      cases hclass
  · rfl

/-- **A request that is refused is reported, and leaves the store alone**, whatever evaluates the
bodies, whatever the functions of the host do, and whatever native methods are given. -/
theorem run_eq (h : Refused core s q r) (hm : m.core = core) (hctx : ctx.core = core) :
    q.run m ctx s = some (some r, s) := by
  induction h with
  | eigenclass h =>
    rw [← hm] at h
    exact reported_of_error (ensureEigenclass_eq_error h)
  | @defineOnObject value name method r h ih =>
    obtain ⟨cause, herror, rfl, -⟩ := of_reported ih
    apply reported_of_error
    rw [Store.defineOnObject, herror]
    rfl
  | namelessClass hname =>
    apply reported_of_error
    simp only [Store.makeClass, hname, if_true]
  | unfitSuperclass hname hkind =>
    apply reported_of_error
    simp only [Store.makeClass, hname]
    rw [if_neg Bool.false_ne_true, if_pos hkind]
    rfl
  | namelessModule hname =>
    apply reported_of_error
    simp only [Store.makeModule, hname, if_true]
  | repeatedParameter h =>
    apply reported_of_error
    rw [Store.makeFunction, h]
  | noAllocator hlayout =>
    apply reported_of_error
    exact allocate_eq_error_iff.2 ⟨hlayout, rfl⟩
  | faultyReceiver hreceiver =>
    apply answered_of_fault
    rw [← Machine.send_payload, hreceiver]
    rfl
  | classless hreceiver hclass =>
    apply answered_of_fault
    apply Machine.send_of_unanswered hreceiver
    rw [methodFor, hm, hclass]
  | undefined hreceiver hclass hnone =>
    apply answered_of_fault
    apply Machine.send_of_unanswered hreceiver
    rw [methodFor, hm, hclass]
    simp only [hnone]
  | miscounted harity hne =>
    apply answered_of_fault
    rw [Machine.perform_of_miscounted harity hne]
    rfl
  | miscountedCall hcallee hne =>
    apply answered_of_fault
    rw [Machine.call_of_miscounted hcallee hne]
    rfl
  | faultyCallee hcallee =>
    apply answered_of_fault
    rw [← Machine.call_payload, hcallee]
    rfl
  | notCallable hfunction hbuiltin hfault =>
    apply answered_of_fault
    exact Machine.call_of_notCallable hfunction hbuiltin hfault
  | receiver h =>
    apply answered_of_fault
    exact KernelMethod.run_of_not_accepts h ctx _ s
  | messageName hsymbol hstring =>
    apply answered_of_fault
    exact Kernel.answersTo_of_unnamed hsymbol hstring
  | exceptionMessage hlayout htext =>
    apply answered_of_fault
    exact Kernel.instantiate_exception_of_not_text hlayout htext
  | exceptionArguments hlayout hlength =>
    apply answered_of_fault
    exact Kernel.instantiate_exception_of_length hlayout hlength
  | noInstance h ih =>
    obtain ⟨cause, herror, rfl, -⟩ := of_reported ih
    obtain ⟨hlayout, rfl⟩ := allocate_eq_error_iff.1 herror
    apply answered_of_fault
    exact Kernel.instantiate_of_layoutless hlayout
  | passed hbecomes _ ih => rw [hbecomes.run_eq hm hctx, ih]

end Refused

/-- A kernel method that is for the receiver answers at once and with no fault, unless it reads
the name of a message, makes an eigenclass or makes an instance. -/
theorem KernelMethod.run_of_accepts {method : KernelMethod} {receiver : Value}
    (ctx : NativeContext) (args : List Value) (s : Store)
    (haccepts : method.accepts receiver = true) (hname : method ≠ .respondTo)
    (heigenclass : method ≠ .singletonClass) (hnew : method ≠ .new) :
    ∃ value t, method.run ctx receiver args s = some (value, t) ∧ value.isFault = false := by
  cases method with
  | setUp | equal | identical | inspect | singletonMethods => exact ⟨_, _, rfl, rfl⟩
  | respondTo => exact absurd rfl hname
  | singletonClass => exact absurd rfl heigenclass
  | new => exact absurd rfl hnew
  | classOf =>
    simp only [run, Action.get_bind]
    cases s.birthClass? ctx.core receiver with
    | none => exact ⟨_, _, rfl, rfl⟩
    | some c => exact ⟨_, _, rfl, rfl⟩
  | message =>
    cases receiver with
    | exception ref => exact ⟨_, _, rfl, rfl⟩
    | _ => cases haccepts
  | instanceMethods =>
    cases receiver with
    | cls c => exact ⟨_, _, rfl, rfl⟩
    | _ => cases haccepts
  | moduleName =>
    cases receiver with
    | cls c =>
      simp only [run, Kernel.nameOf, Action.get_bind]
      by_cases hkind : (s.classes.read c).kind = .eigenclass
      · rw [if_pos hkind]
        exact ⟨_, _, rfl, rfl⟩
      · rw [if_neg hkind]
        exact ⟨_, _, rfl, rfl⟩
    | _ => cases haccepts
  | superclass =>
    cases receiver with
    | cls c =>
      simp only [run, Action.get_bind]
      cases s.superclass? c with
      | none => exact ⟨_, _, rfl, rfl⟩
      | some parent => exact ⟨_, _, rfl, rfl⟩
    | _ => cases haccepts

/-! ### What is run instead -/

/-- A request has something else run: a body, a native function of the host, or the method that
initialises an instance. -/
inductive Delegates (core : Core) (s : Store) : Request → Prop
  | userMethod {receiver : Value} {name : String} {closure : Closure} {args : List Value}
      (hcount : closure.arity = args.length) :
      Delegates core s (.perform receiver name (.user closure) args)
  | hostMethod {receiver : Value} {name : String} {entry : Nat} {hostName : String} {arity : Arity}
      {args : List Value} (hcount : arity.admits args.length = true) :
      Delegates core s (.perform receiver name (.native (.host entry hostName arity)) args)
  | function {callee : Value} {closure : Closure} {args : List Value}
      (hcallee : callee.payload = .function closure) (hcount : closure.arity = args.length) :
      Delegates core s (.call callee args)
  | builtin {callee : Value} {entry : Nat} {name : String} {args : List Value}
      (hcallee : callee.payload = .builtin entry name) : Delegates core s (.call callee args)
  | new {c : ClassRef} {args : List Value} {tag : Tag}
      (hlayout : (s.classes.read c).layout?.bind Layout.objectTag? = some tag) :
      Delegates core s (.kernel .new (.cls c) args)
  | passed {q q' : Request} (hbecomes : q.Becomes core s q') (h : Delegates core s q') :
      Delegates core s q

namespace Request

open Refusal

variable {r : Refusal}

/-- A failure is accounted for: it is a refusal that has left the store alone, or the request has
had something else run. -/
def Accounted (core : Core) (s : Store) (q : Request) (r : Refusal) (t : Store) : Prop :=
  (Refused core s q r ∧ t = s) ∨ Delegates core s q

theorem Accounted.of_becomes {q q' : Request} (hbecomes : q.Becomes core s q')
    (h : q'.Accounted core s r t) : q.Accounted core s r t := by
  rcases h with ⟨hrefused, rfl⟩ | hdelegates
  · exact .inl ⟨.passed hbecomes hrefused, rfl⟩
  · exact .inr (.passed hbecomes hdelegates)

/-- If there is a reason to refuse a request, its failure is the refusal. -/
theorem accounted_of_refused {q : Request} {reason : Refusal} (hrefused : Refused core s q reason)
    (hm : m.core = core) (hctx : ctx.core = core) (h : q.run m ctx s = some (some r, t)) :
    q.Accounted core s r t := by
  rw [hrefused.run_eq hm hctx] at h
  cases h
  exact .inl ⟨hrefused, rfl⟩

theorem refused_eigenclass {value : Value} (hm : m.core = core)
    (h : (eigenclass value).run m ctx s = some (some r, t)) :
    Refused core s (eigenclass value) r ∧ t = s := by
  obtain ⟨cause, herror, rfl, rfl⟩ := of_reported h
  rw [hm] at herror
  unfold ensureEigenclass at herror
  split at herror
  · split at herror <;> cases herror
  · next hnone =>
    cases herror
    refine ⟨.eigenclass ?_, rfl⟩
    cases hcarrier : value.carrier? with
    | none => exact .inl rfl
    | some carrier =>
      cases hclass : t.classOf? core value with
      | none => exact .inr rfl
      | some c => exact absurd hclass (hnone carrier c hcarrier)

theorem refused_defineOnObject {value : Value} {name : String} {method : Method}
    (hm : m.core = core) (h : (defineOnObject value name method).run m ctx s = some (some r, t)) :
    Refused core s (defineOnObject value name method) r ∧ t = s := by
  obtain ⟨cause, herror, rfl, rfl⟩ := of_reported h
  cases hmade : t.ensureEigenclass m.core value with
  | ok made =>
    rw [Store.defineOnObject, hmade] at herror
    cases herror
  | error cause' =>
    rw [Store.defineOnObject, hmade] at herror
    cases herror
    have heigenclass : (eigenclass value).run m ctx t = some (some (.fault cause), t) :=
      reported_of_error hmade
    exact ⟨.defineOnObject (refused_eigenclass hm heigenclass).1, rfl⟩

/-- A class is refused for its name or for its superclass. -/
theorem accounted_makeClass {name : String} {superclass : ClassRef} (hm : m.core = core)
    (hctx : ctx.core = core) (h : (makeClass name superclass).run m ctx s = some (some r, t)) :
    (makeClass name superclass).Accounted core s r t := by
  cases hname : name.isEmpty with
  | true => exact accounted_of_refused (.namelessClass hname) hm hctx h
  | false =>
    by_cases hplain : (s.classes.read superclass).kind = .plain
    · obtain ⟨cause, herror, rfl, rfl⟩ := of_reported h
      rw [makeClass_of_plain hname hplain] at herror
      cases herror
    · exact accounted_of_refused (.unfitSuperclass hname hplain) hm hctx h

theorem accounted_makeModule {name : String} (hm : m.core = core) (hctx : ctx.core = core)
    (h : (makeModule name).run m ctx s = some (some r, t)) :
    (makeModule name).Accounted core s r t := by
  cases hname : name.isEmpty with
  | true => exact accounted_of_refused (.namelessModule hname) hm hctx h
  | false =>
    obtain ⟨cause, herror, rfl, rfl⟩ := of_reported h
    simp only [Store.makeModule, hname] at herror
    cases herror

theorem accounted_makeFunction {params : List String} {body : Block} {scope : ScopeRef}
    (hm : m.core = core) (hctx : ctx.core = core)
    (h : (makeFunction params body scope).run m ctx s = some (some r, t)) :
    (makeFunction params body scope).Accounted core s r t := by
  cases hrepeated : firstRepeated? [] params with
  | some name => exact accounted_of_refused (.repeatedParameter hrepeated) hm hctx h
  | none =>
    obtain ⟨cause, herror, rfl, rfl⟩ := of_reported h
    rw [Store.makeFunction, hrepeated] at herror
    cases herror

/-- What `new` does with a class fails on its own account only, unless it allocates an object. -/
theorem accounted_new {c : ClassRef} {args : List Value} (hm : m.core = core)
    (hctx : ctx.core = core) (h : (kernel .new (.cls c) args).run m ctx s = some (some r, t)) :
    (kernel .new (.cls c) args).Accounted core s r t := by
  cases hlayout : (s.classes.read c).layout? with
  | none => exact accounted_of_refused (.noInstance (.noAllocator hlayout)) hm hctx h
  | some layout =>
    cases layout with
    | object | basicObject =>
      exact .inr (.new (congrArg (·.bind Layout.objectTag?) hlayout))
    | exception =>
      match args with
      | [] =>
        obtain ⟨cause, hrun, rfl⟩ := of_answered h
        change Kernel.instantiate ctx (.cls c) [] s = _ at hrun
        rw [Kernel.instantiate_exception hlayout] at hrun
        cases hrun
      | [argument] =>
        cases htext : s.text? argument with
        | some text =>
          obtain ⟨cause, hrun, rfl⟩ := of_answered h
          change Kernel.instantiate ctx (.cls c) [argument] s = _ at hrun
          rw [Kernel.instantiate_exception_of_text hlayout htext] at hrun
          cases hrun
        | none => exact accounted_of_refused (.exceptionMessage hlayout htext) hm hctx h
      | first :: second :: args =>
        have hlength : 2 ≤ (first :: second :: args).length := by simp
        exact accounted_of_refused (.exceptionArguments hlayout hlength) hm hctx h

/-- So does every kernel method. -/
theorem accounted_kernel {method : KernelMethod} {receiver : Value} {args : List Value}
    (hm : m.core = core) (hctx : ctx.core = core)
    (h : (kernel method receiver args).run m ctx s = some (some r, t)) :
    (kernel method receiver args).Accounted core s r t := by
  cases haccepts : method.accepts receiver with
  | false => exact accounted_of_refused (.receiver haccepts) hm hctx h
  | true =>
    cases method with
    | singletonClass =>
      rw [Becomes.singletonClass.run_eq hm hctx] at h
      exact .of_becomes .singletonClass (.inl (refused_eigenclass hm h))
    | new =>
      cases receiver with
      | cls c => exact accounted_new hm hctx h
      | _ => cases haccepts
    | respondTo =>
      by_cases hsymbol : ∃ name, Kernel.firstArg args = .symbol name
      · obtain ⟨cause, hrun, rfl⟩ := of_answered h
        obtain ⟨name, hname⟩ := hsymbol
        change Kernel.answersTo ctx.core receiver (Kernel.firstArg args) s = _ at hrun
        rw [hname] at hrun
        cases hrun
      · by_cases hstring : ∃ ref, Kernel.firstArg args = .string ref
        · obtain ⟨cause, hrun, rfl⟩ := of_answered h
          obtain ⟨ref, href⟩ := hstring
          change Kernel.answersTo ctx.core receiver (Kernel.firstArg args) s = _ at hrun
          rw [href] at hrun
          cases hrun
        · refine accounted_of_refused (.messageName ?_ ?_) hm hctx h
          · intro name hname
            exact hsymbol ⟨name, hname⟩
          · intro ref href
            exact hstring ⟨ref, href⟩
    | _ =>
      obtain ⟨value, u, hvalue, hfault⟩ :=
        KernelMethod.run_of_accepts ctx args s haccepts nofun nofun nofun
      obtain ⟨cause, hrun, rfl⟩ := of_answered h
      rw [hvalue] at hrun
      cases hrun
      cases hfault

theorem accounted_perform {receiver : Value} {name : String} {method : Method}
    {args : List Value} (hm : m.core = core) (hctx : ctx.core = core)
    (h : (perform receiver name method args).run m ctx s = some (some r, t)) :
    (perform receiver name method args).Accounted core s r t := by
  cases hcount : method.arity.admits args.length with
  | false =>
    obtain ⟨expected, harity, hne⟩ := Arity.admits_eq_false_iff.1 hcount
    exact accounted_of_refused (.miscounted harity hne) hm hctx h
  | true =>
    cases method with
    | user closure => exact .inr (.userMethod (eq_of_beq hcount))
    | native native =>
      cases native with
      | host entry hostName arity => exact .inr (.hostMethod hcount)
      | kernel home method =>
        have hbecomes : Becomes core s (perform receiver name (.native (.kernel home method)) args)
            (kernel method receiver args) := .perform hcount
        rw [hbecomes.run_eq hm hctx] at h
        exact (accounted_kernel hm hctx h).of_becomes hbecomes

theorem accounted_send {receiver : Value} {name : String} {args : List Value}
    (hm : m.core = core) (hctx : ctx.core = core)
    (h : (send receiver name args).run m ctx s = some (some r, t)) :
    (send receiver name args).Accounted core s r t := by
  by_cases hfaulty : ∃ cause, receiver.payload = .fault cause
  · obtain ⟨cause, hreceiver⟩ := hfaulty
    exact accounted_of_refused (.faultyReceiver hreceiver) hm hctx h
  · have hreceiver : ∀ cause, receiver.payload ≠ .fault cause :=
      fun cause hcause => hfaulty ⟨cause, hcause⟩
    cases hclass : s.classOf? core receiver.payload with
    | none => exact accounted_of_refused (.classless hreceiver hclass) hm hctx h
    | some c =>
      cases hresolve : s.resolve? c name with
      | none => exact accounted_of_refused (.undefined hreceiver hclass hresolve) hm hctx h
      | some found =>
        have hbecomes : Becomes core s (send receiver name args)
            (perform receiver.payload name found.method args) :=
          .send hreceiver (methodFor_ok_iff.2 ⟨c, hclass, hresolve⟩)
        rw [hbecomes.run_eq hm hctx] at h
        exact (accounted_perform hm hctx h).of_becomes hbecomes

theorem accounted_call {callee : Value} {args : List Value} (hm : m.core = core)
    (hctx : ctx.core = core) (h : (call callee args).run m ctx s = some (some r, t)) :
    (call callee args).Accounted core s r t := by
  cases hcallee : callee.payload with
  | function closure =>
    by_cases hcount : closure.arity = args.length
    · exact .inr (.function hcallee hcount)
    · exact accounted_of_refused (.miscountedCall hcallee hcount) hm hctx h
  | builtin entry name => exact .inr (.builtin hcallee)
  | fault cause => exact accounted_of_refused (.faultyCallee hcallee) hm hctx h
  | _ =>
    refine accounted_of_refused (.notCallable ?_ ?_ ?_) hm hctx h
    · intro closure heq
      rw [hcallee] at heq
      cases heq
    · intro entry name heq
      rw [hcallee] at heq
      cases heq
    · intro cause heq
      rw [hcallee] at heq
      cases heq

/-- **A failure is a refusal, or comes from something that was run.** -/
theorem accounted {q : Request} (hm : m.core = core) (hctx : ctx.core = core)
    (h : q.run m ctx s = some (some r, t)) : q.Accounted core s r t := by
  cases q with
  | eigenclass value => exact .inl (refused_eigenclass hm h)
  | defineOnObject value name method => exact .inl (refused_defineOnObject hm h)
  | makeClass name superclass => exact accounted_makeClass hm hctx h
  | makeModule name => exact accounted_makeModule hm hctx h
  | makeFunction params body scope => exact accounted_makeFunction hm hctx h
  | allocate c =>
    obtain ⟨cause, herror, rfl, rfl⟩ := of_reported h
    obtain ⟨hlayout, rfl⟩ := allocate_eq_error_iff.1 herror
    exact .inl ⟨.noAllocator hlayout, rfl⟩
  | send receiver name args => exact accounted_send hm hctx h
  | perform receiver name method args => exact accounted_perform hm hctx h
  | call callee args => exact accounted_call hm hctx h
  | kernel method receiver args => exact accounted_kernel hm hctx h

end Request

/-! ### An instance that is not initialised -/

/-- A value that refers to an object stands for it. -/
theorem Value.payload_of_node? {value : Value} {carrier : Carrier}
    (h : value.node? = some (.object carrier)) : value.payload = carrier.toValue := by
  induction value with
  | pending serial payload ih => exact ih h
  | string | array | object | exception | cls =>
    cases h
    rfl
  | _ => cases h

namespace Store

/-- One thing is added to a store; everything else is as it was, and nothing leads there. -/
structure AddsUnreached (s : Store) (core : Core) (added : Node) (t : Store) : Prop where
  fresh : ¬ s.Has added
  kept : ∀ node, node ≠ added → s.Unchanged t node
  unreached : ∀ node, node ≠ added → ¬ t.Links core node added

variable {strict : Bool} {c : ClassRef} {tag : Tag}

/-- Links lead to objects that are in the store. -/
theorem Sound.index_lt_of_link (hs : s.Sound strict core) {node : Node} {ref : ObjectRef}
    (h : s.Link core node (.object (.object ref))) : ref.index < s.objects.size := by
  have hheld {value : Value} (hvalue : s.Holds value)
      (hnode : value.node? = some (.object (.object ref))) : ref.index < s.objects.size := by
    have hlive := live_payload.2 (hs.held_live hvalue)
    rw [Value.payload_of_node? hnode] at hlive
    exact hlive
  cases h with
  | element h hnode => exact hheld (.element h) hnode
  | ivar h hnode => exact hheld (.ivar h) hnode
  | binding h hnode => exact hheld (.binding h) hnode
  | @method _ _ method _ _ hnode =>
    -- a method refers to a function or to the host
    cases method with
    | user => cases hnode
    | native native => cases native <;> cases hnode

/-- **Nothing leads to an object that has just been allocated**, and nothing else is changed. -/
theorem Sound.addsUnreached_newObject (hs : s.Sound strict core) (c : ClassRef) (tag : Tag) :
    s.AddsUnreached core (.object (.object s.objects.next)) (s.newObject c tag).2 := by
  have htouches : s.Touches core (s.newObject c tag).2 (.object (.object s.objects.next))
      fun node => node = .object (.cls c) := s.touches_newObject c tag
  refine ⟨Nat.lt_irrefl _, htouches.other, ?_⟩
  intro node hne hlinks
  have hall (other : Node) (h : (s.newObject c tag).2.Links core node other) :
      other ≠ .object (.object s.objects.next) := by
    induction h with
    | refl => exact hne
    | tail _ hlink ih =>
      -- the last link was there before, and leads to what was there
      have hold := hlink.of_unchanged (htouches.other ih)
      rintro rfl
      exact Nat.lt_irrefl _ (hs.index_lt_of_link hold)
  exact hall _ hlinks rfl

/-- A new object refuses its initialisation if the method takes another number of arguments. -/
theorem Sound.refused_initialize (hs : s.Sound strict core) {initializer : Found}
    {args : List Value} {expected : Nat} (hresolve : s.resolve? c "initialize" = some initializer)
    (harity : initializer.method.arity = .exact expected) (hne : expected ≠ args.length) :
    Refused core (s.newObject c tag).2 (.send (s.newObject c tag).1 "initialize" args)
      (.fault (.argCount "initialize" expected args.length)) := by
  have hreceiver : ∀ cause, (s.newObject c tag).1.payload ≠ .fault cause := nofun
  have hfound := hs.methodFor_newObject tag hresolve
  exact .passed (.send hreceiver hfound) (.miscounted harity hne)

end Store

/-- A request that other requests deal with is what the last of them is. -/
theorem Request.run_eq_of_becomes {q q' : Request}
    (h : Relation.ReflTransGen (Request.Becomes core s) q q') (hm : m.core = core)
    (hctx : ctx.core = core) : q.run m ctx s = q'.run m ctx s := by
  induction h with
  | refl => rfl
  | tail _ hbecomes ih => rw [ih, hbecomes.run_eq hm hctx]

/-- If the initialisation of a new object is refused, `new` is, and the object is there. -/
theorem Refused.run_new {c : ClassRef} {tag : Tag} {args : List Value} {r : Refusal}
    (hlayout : (s.classes.read c).layout?.bind Layout.objectTag? = some tag)
    (h : Refused core (s.newObject c tag).2
      (.send (s.newObject c tag).1 "initialize" args) r) (hm : m.core = core) (depth : Nat) :
    (Request.kernel .new (.cls c) args).run m (m.context (depth + 1)) s =
      some (some r, (s.newObject c tag).2) := by
  have hne : ¬ (s.classes.read c).layout? = some .exception := by
    intro hexception
    rw [hexception] at hlayout
    cases hlayout
  have hcontext : (m.context depth).core = core := by
    cases depth <;> exact hm
  obtain ⟨cause, hsend, rfl⟩ := Refusal.of_answered (h.run_eq hm hcontext)
  have hinitialize : (m.context (depth + 1)).send (s.newObject c tag).1 "initialize" args
      (s.newObject c tag).2 = some (.fault cause, (s.newObject c tag).2) := hsend
  apply Refusal.answered_of_fault
  change Kernel.instantiate (m.context (depth + 1)) (.cls c) args s = _
  have hmade : s.allocate c = .ok ((s.newObject c tag).1, (s.newObject c tag).2) :=
    allocate_of_objectTag? hlayout
  exact (Kernel.instantiate_of_allocate hne hmade).trans (Action.bind_eq hinitialize)

/-- **Operations that fail leave the state intact.**  In every reachable store, a request that is
refused is reported with the reason, and the store is exactly what it was.  No body is run for it
and no function of the host: the same is reported whatever the machine runs bodies with, whatever
its host does and whatever native methods are given.  Every failure is of this sort, unless the
request has a body run, or a function of the host, or has an object initialised.  If the
initialisation of an object that `new` has allocated is refused, as it is if `initialize` takes
another number of arguments, `new` is refused for the same reason, however it has been reached; then
the object is there, everything else is as it was, and nothing leads to the object. -/
theorem Reachable.refused_untouched {strict : Bool} (h : Reachable strict s) :
    (∀ q r, Refused Core.initial s q r → ∀ m ctx, m.core = Core.initial →
      ctx.core = Core.initial → q.run m ctx s = some (some r, s)) ∧
    (∀ q r m ctx t, m.core = Core.initial → ctx.core = Core.initial →
      q.run m ctx s = some (some r, t) →
        (Refused Core.initial s q r ∧ t = s) ∨ Delegates Core.initial s q) ∧
    ∀ c tag args, (s.classes.read c).layout?.bind Layout.objectTag? = some tag →
      s.AddsUnreached Core.initial (.object (.object s.objects.next)) (s.newObject c tag).2 ∧
      (∀ initializer expected, s.resolve? c "initialize" = some initializer →
        initializer.method.arity = .exact expected → expected ≠ args.length →
          Refused Core.initial (s.newObject c tag).2
            (.send (s.newObject c tag).1 "initialize" args)
              (.fault (.argCount "initialize" expected args.length))) ∧
      ∀ q, Relation.ReflTransGen (Request.Becomes Core.initial s) q (.kernel .new (.cls c) args) →
        ∀ r, Refused Core.initial (s.newObject c tag).2
          (.send (s.newObject c tag).1 "initialize" args) r →
            ∀ m depth, m.core = Core.initial →
              q.run m (m.context (depth + 1)) s = some (some r, (s.newObject c tag).2) := by
  refine ⟨?_, ?_, ?_⟩
  · intro q r hrefused m ctx hm hctx
    exact hrefused.run_eq hm hctx
  · intro q r m ctx t hm hctx hrun
    exact Request.accounted hm hctx hrun
  · intro c tag args hlayout
    refine ⟨h.sound.addsUnreached_newObject c tag, ?_, ?_⟩
    · intro initializer expected hresolve harity hne
      exact h.sound.refused_initialize hresolve harity hne
    · intro q hbecomes r hrefused m depth hm
      rw [Request.run_eq_of_becomes hbecomes hm hm]
      exact hrefused.run_new hlayout hm depth

/-- In a new store, a number has no eigenclass, and `new` does not initialise an object with an
argument, though it has been allocated. -/
theorem refused_untouched_initial :
    Reachable true Store.initial ∧ ∀ m ctx depth, m.core = Core.initial →
      ctx.core = Core.initial →
        (Request.eigenclass (.int 1)).run m ctx Store.initial =
          some (some (.fault (.notACarrier "1" .integer)), Store.initial) ∧
        (Request.send (.cls Core.initial.object) "new" [.nil]).run m (m.context (depth + 1))
            Store.initial =
          some (some (.fault (.argCount "initialize" 0 1)),
            (Store.initial.newObject Core.initial.object .object).2) := by
  have h : Reachable true Store.initial := .refl
  have hnew : Store.initial.methodFor Core.initial (.cls Core.initial.object) "new" =
      .ok ⟨Core.initial.cls, .native (.kernel Core.initial.cls .new)⟩ :=
    methodFor_ok_iff.2 ⟨Core.initial.cls, by decide +kernel, by decide +kernel⟩
  have hlayout : (Store.initial.classes.read Core.initial.object).layout?.bind
      Layout.objectTag? = some .object := by decide +kernel
  have hgiven : Store.initial.resolve? Core.initial.object "initialize" =
      some ⟨Core.initial.basicObject, .native (.kernel Core.initial.basicObject .setUp)⟩ := by
    decide +kernel
  obtain ⟨hrefused, -, hobject⟩ := h.refused_untouched
  obtain ⟨-, hcounted, hinitialized⟩ := hobject Core.initial.object .object [.nil] hlayout
  have hsend : Request.Becomes Core.initial Store.initial
      (.send (.cls Core.initial.object) "new" [.nil])
      (.perform (.cls Core.initial.object) "new" (.native (.kernel Core.initial.cls .new))
        [.nil]) := by
    have hreceiver : ∀ cause, (Value.cls Core.initial.object).payload ≠ .fault cause := nofun
    exact .send hreceiver hnew
  have hbecomes : Relation.ReflTransGen (Request.Becomes Core.initial Store.initial)
      (.send (.cls Core.initial.object) "new" [.nil])
      (.kernel .new (.cls Core.initial.object) [.nil]) :=
    (Relation.ReflTransGen.single hsend).tail (.perform rfl)
  refine ⟨h, fun m ctx depth hm hctx => ⟨?_, ?_⟩⟩
  · have hinspect : Store.initial.inspect (.int 1) = "1" := by
      rw [inspect, inspectFrom]
      decide +kernel
    rw [hrefused _ _ (.eigenclass (.inl rfl)) m ctx hm hctx, hinspect]
    rfl
  · exact hinitialized _ hbecomes _ (hcounted _ 0 hgiven rfl (by decide)) m depth hm

end ObjectModel
