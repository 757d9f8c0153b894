import ObjectModel.Proofs.Descent
import ObjectModel.Proofs.Inheritance
import ObjectModel.Proofs.Stock
import ObjectModel.Proofs.Transparency

/-!
# What native methods run on

Some native methods of the kernel are about classes and one is about exceptions.  Each of them looks
whether its receiver is one, and has a fault ready if it is not.  As long as the host adds nothing
of its own, no message gets so far.  Anybody may make a class below `Module`, `Class` or
`Exception`, but layouts are inherited: what descends from `Module` cannot be allocated at all, and
what descends from `Exception` has only exceptions for instances.  So the class of a value tells its
form as far as these methods go.

Nor does a native method run without an argument that it reads, since the number of arguments is
checked before.

## Main definitions

* `KernelMethod.accepts` — the receivers that a kernel method is for.
* `Stock.domestic`, `DomesticOperation`, `Domestic` — operations without functions of the host, and
  the stores that they lead to.
* `Machine.Served`, `Store.Suits` — what comes of a message that finds a native method, and the
  stores where it finds one for such a receiver.

## Main results

* `Steps.form_of_mem` — what descends from `Module` or from `Exception` has the form for it.
* `Domestic.keeps` — what holds of every store that such operations lead to.
* `Domestic.natives_accept` — no native method is reached with the wrong kind of receiver.
-/

namespace ObjectModel

open Store

/-! ### Receivers of kernel methods -/

namespace KernelMethod

/-- Whether a value has the form that a kernel method is for. -/
def accepts : KernelMethod → Value → Bool
  | moduleName, value | instanceMethods, value | new, value | superclass, value =>
    value.cls?.isSome
  | message, value => value.exception?.isSome
  | _, _ => true

/-- What a kernel method answers to a receiver that it is not for. -/
def refusal (method : KernelMethod) (s : Store) (receiver : Value) : Fault :=
  match method with
  | message => .argType "message" "Exception" (s.tagOf receiver)
  | _ => .classExpected (s.inspect receiver)

/-- Whether a kernel method reads its first argument whatever the number of arguments is. -/
def readsArgument : KernelMethod → Bool
  | equal | identical | respondTo => true
  | _ => false

/-- The receivers that a method is not for are those that it refuses. -/
theorem run_of_not_accepts {method : KernelMethod} {receiver : Value}
    (h : method.accepts receiver = false) (ctx : NativeContext) (args : List Value) (s : Store) :
    method.run ctx receiver args s = some (.fault (method.refusal s receiver), s) := by
  cases method with
  | moduleName | instanceMethods | new | superclass =>
    cases receiver with
    | cls => cases h
    | _ => rfl
  | message =>
    cases receiver with
    | exception => cases h
    | _ => rfl
  | _ => cases h

/-- A method that reads its first argument takes exactly one. -/
theorem eq_singleton_of_readsArgument {method : KernelMethod} (h : method.readsArgument = true)
    {args : List Value} (hcount : method.arity.admits args.length = true) :
    ∃ argument, args = [argument] := by
  have hone : 1 = args.length := by
    cases method with
    | equal | identical | respondTo => exact eq_of_beq hcount
    | _ => cases h
  exact List.length_eq_one_iff.1 hone.symm

end KernelMethod

/-! ### Classes and forms -/

/-- The classes of values that are neither allocated nor classes themselves. -/
def Core.immediate (core : Core) : List ClassRef :=
  [core.integer, core.string, core.symbol, core.array, core.trueClass, core.falseClass,
    core.nilClass]

variable {strict : Bool} {core : Core} {s t : Store}

/-- What a value inherits from a plain class it inherits by its birth class. -/
theorem Store.Sound.mem_lineage_birthClass? {value : Value} {c d : ClassRef}
    (hs : s.Sound strict core) (hc : s.classOf? core value = some c)
    (hd : (s.classes.read d).kind = .plain) (hmem : d ∈ s.lineage c) :
    ∃ birth, s.birthClass? core value.payload = some birth ∧ d ∈ s.lineage birth := by
  rw [classOf?_eq] at hc
  cases hown : s.eigenclass? value.payload with
  | none =>
    rw [hown, Option.none_or] at hc
    exact ⟨c, hc, hmem⟩
  | some e =>
    rw [hown, Option.some_or] at hc
    cases hc
    obtain ⟨carrier, hcarrier, hcarried⟩ := eigenclass?_eq_some_iff.1 hown
    obtain ⟨birth, hbirth, -⟩ := hs.eigenclass_superclass hcarried
    rw [hs.lineage_of_carried hcarried hbirth] at hmem
    rcases List.mem_cons.1 hmem with rfl | hmem
    · -- an eigenclass is not plain
      rw [hs.eigenclass_kind hcarried] at hd
      cases hd
    · exact ⟨birth, hcarrier ▸ hbirth, hmem⟩

section

variable (h : Steps true Core.initial Store.initial s)

include h

theorem Steps.not_mem_of_immediate {b : ClassRef} (hb : b ∈ Core.initial.immediate) :
    Core.initial.module ∉ s.lineage b ∧ Core.initial.exception ∉ s.lineage b := by
  have hall : ∀ b ∈ Core.initial.immediate, b ∈ Core.initial.classes ∧
      Core.initial.module ∉ Store.initial.lineage b ∧
      Core.initial.exception ∉ Store.initial.lineage b := by decide +kernel
  obtain ⟨hcore, hlineage⟩ := hall b hb
  rw [h.lineage_core hcore]
  exact hlineage

/-- **The class of a value tells its form.**  What descends from `Module` is a class, and what
descends from `Exception` is an exception. -/
theorem Steps.form_of_mem {value : Value} {birth : ClassRef}
    (hbirth : s.birthClass? Core.initial value = some birth) (hpending : value.isPending = false) :
    (Core.initial.module ∈ s.lineage birth → value.cls?.isSome = true) ∧
      (Core.initial.exception ∈ s.lineage birth → value.exception?.isSome = true) := by
  have hs := h.sound_of_initial
  have hplain := hs.birthClass?_plain hbirth
  have himmediate (hb : birth ∈ Core.initial.immediate) :
      (Core.initial.module ∈ s.lineage birth → value.cls?.isSome = true) ∧
        (Core.initial.exception ∈ s.lineage birth → value.exception?.isSome = true) :=
    ⟨fun hmem => absurd hmem (h.not_mem_of_immediate hb).1,
      fun hmem => absurd hmem (h.not_mem_of_immediate hb).2⟩
  cases value with
  | object ref =>
    obtain ⟨cell, hcell, rfl⟩ := Option.map_eq_some_iff.1 hbirth
    -- the layout of its class is one of objects
    have hlayout := hs.object_layout hcell
    refine ⟨fun hmem => ?_, fun hmem => ?_⟩
    · rw [h.layout?_of_module_mem hplain hmem] at hlayout
      cases hlayout
    · rw [h.layout?_of_exception_mem hplain hmem] at hlayout
      cases hlayout
  | exception ref =>
    obtain ⟨cell, hcell, rfl⟩ := Option.map_eq_some_iff.1 hbirth
    have hlayout := hs.exception_layout rfl hcell
    refine ⟨fun hmem => ?_, fun _ => rfl⟩
    rw [h.layout?_of_module_mem hplain hmem] at hlayout
    cases hlayout
  | cls c =>
    obtain ⟨cell, -, rfl⟩ := Option.map_eq_some_iff.1 hbirth
    refine ⟨fun _ => rfl, fun hmem => ?_⟩
    have hall : ∀ b ∈ [Core.initial.module, Core.initial.cls], b ∈ Core.initial.classes ∧
        Core.initial.exception ∉ Store.initial.lineage b := by decide +kernel
    have hmeta : Core.initial.metaclass cell ∈ [Core.initial.module, Core.initial.cls] := by
      rw [Core.metaclass]
      split <;> simp only [List.mem_cons, true_or, or_true]
    obtain ⟨hcore, hnot⟩ := hall _ hmeta
    rw [h.lineage_core hcore] at hmem
    exact absurd hmem hnot
  | pending => cases hpending
  | function | builtin | fault => cases hbirth
  | bool b => cases b <;> cases hbirth <;> exact himmediate (by simp [Core.immediate])
  | _ =>
    cases hbirth
    exact himmediate (by simp [Core.immediate])

/-- A kernel method that is found where it was installed is for its receiver. -/
theorem Steps.accepts_of_found {value : Value} {name : String} {found : Found}
    {method : KernelMethod} (hinstalled : (found.owner, method) ∈ Kernel.methods Core.initial)
    (hfound : s.methodFor Core.initial value name = .ok found) :
    method.accepts value.payload = true := by
  have hs := h.sound_of_initial
  obtain ⟨c, hc, hresolve⟩ := methodFor_ok_iff.1 hfound
  obtain ⟨before, after, hsplit, -, -⟩ := resolve?_eq_some_iff.1 hresolve
  have hmem : found.owner ∈ s.lineage c := by
    rw [hsplit]
    exact List.mem_append_right _ List.mem_cons_self
  have hall : ∀ entry ∈ Kernel.methods Core.initial, entry.1 ∈ Core.initial.classes ∧
      (entry.2 ∈ [.moduleName, .instanceMethods, .new, .superclass] →
        Core.initial.module ∈ Store.initial.lineage entry.1) ∧
      (entry.2 = .message → Core.initial.exception ∈ Store.initial.lineage entry.1) := by
    decide +kernel
  obtain ⟨hcore, hmodule, hexception⟩ := hall _ hinstalled
  obtain ⟨birth, hbirth, hbelow⟩ := hs.mem_lineage_birthClass? hc (hs.core_plain hcore) hmem
  -- what the owner descends from, the receiver does too
  have hup : Store.initial.lineage found.owner ⊆ s.lineage birth := by
    rw [← h.lineage_core hcore]
    exact (lineage_suffix hbelow).subset
  obtain ⟨hclass, hexc⟩ := h.form_of_mem hbirth value.isPending_payload
  cases method with
  | moduleName | instanceMethods | new | superclass => exact hclass (hup (hmodule (by simp)))
  | message => exact hexc (hup (hexception rfl))
  | _ => rfl

end

/-! ### Operations without functions of the host -/

/-- Whether a value is a function of the host, or an early return that carries one. -/
def Value.isForeign : Value → Bool
  | .builtin _ _ => true
  | .pending _ payload => payload.isForeign
  | _ => false

/-- Whether a method is one of the user, or one of the kernel on the class where it belongs. -/
def Method.isAtHome (core : Core) (c : ClassRef) : Method → Bool
  | .user _ => true
  | .native (.kernel home method) => home == c && (Kernel.methods core).contains (c, method)
  | .native (.host _ _ _) => false

/-- All values but functions of the host, all methods of users, and the methods of the kernel on the
classes where they belong. -/
def Stock.domestic : Stock where
  value v := v.isForeign = false
  method c method := method.isAtHome Core.initial c = true
  value_of_isOrdinary := fun {v} h => by
    cases v with
    | builtin | pending => cases h
    | _ => rfl
  value_of_pending := id
  method_user := fun _ _ => rfl

/-- Only steps are taken, and nothing of the host takes part in them. -/
def Discipline.domestic : Discipline := (stepwise true).both (stocking .domestic)

theorem Discipline.domestic_lawful : domestic.Lawful Core.initial :=
  (stepwise_lawful true).both (stocking_lawful .domestic Core.initial)

/-- The rule finds no use for the functions of a host, whatever they do. -/
theorem Discipline.domestic_host (host : Host) : domestic.HostObeys Core.initial host where
  method := fun _ _ hmethod _ _ => by
    obtain ⟨-, c, hhome⟩ := hmethod
    cases hhome
  builtin := fun _ hbuiltin _ => by cases hbuiltin.2

/-- What can be done with a store without functions of a host: a step that stores none of them and
defines methods of users only, a method of a user for one object, and a message, a call or a program
that is given none of them. -/
inductive DomesticOperation : Store → Store → Prop
  | step {s t : Store} (h : Step true Core.initial s t)
      (hheld : ∀ value, t.Holds value → s.Holds value ∨ value.isForeign = false)
      (hdefined : ∀ c name native, t.localMethod? c name = some (.native native) →
        s.localMethod? c name = some (.native native)) : DomesticOperation s t
  | defineOnObject {s t : Store} {value : Value} {name : String} {closure : Closure}
      (hvalue : s.Live value) (hclosure : s.Live (.function closure))
      (h : s.defineOnObject Core.initial value name (.user closure) = .ok t) :
      DomesticOperation s t
  | send {s t : Store} {host : Host} {calls natives : Nat} {receiver answer : Value}
      {name : String} {args : List Value}
      (hreceiver : s.Live receiver ∧ receiver.isForeign = false)
      (hargs : ∀ arg ∈ args, s.Live arg ∧ arg.isForeign = false)
      (h : (Machine.evaluating Core.initial host calls).send
        ((Machine.evaluating Core.initial host calls).context natives) receiver name args s =
          some (answer, t)) : DomesticOperation s t
  | call {s t : Store} {host : Host} {calls : Nat} {callee answer : Value} {args : List Value}
      (hcallee : s.Live callee ∧ callee.isForeign = false)
      (hargs : ∀ arg ∈ args, s.Live arg ∧ arg.isForeign = false)
      (h : (Machine.evaluating Core.initial host calls).call callee args s = some (answer, t)) :
      DomesticOperation s t
  | runProgram {s t : Store} {host : Host} {depth : Nat} {scope : ScopeRef} {block : Block}
      {answer : Value} (hscope : scope.index < s.scopes.size)
      (h : Machine.runProgram Core.initial host depth scope block s = some (answer, t)) :
      DomesticOperation s t

/-- To make a class is one of them. -/
theorem DomesticOperation.makeClass {name : String} {superclass c : ClassRef}
    (h : s.makeClass name superclass = .ok (c, t)) : DomesticOperation s t := by
  obtain ⟨-, -, rfl⟩ := makeClass_eq_ok h
  exact .step (.makeClass h) (fun _ hvalue => .inl (hvalue.of_eq rfl rfl rfl))
    fun _ _ _ hmethod => localMethod?_of_addClass rfl hmethod

/-- A store that such operations lead to from the built-in hierarchy. -/
def Domestic : Store → Prop := Relation.ReflTransGen DomesticOperation Store.initial

namespace Store

/-- The built-in hierarchy comes with the methods of the kernel where they belong. -/
theorem stocked_domestic_initial : Store.initial.Stocked .domestic where
  held := fun value hvalue => absurd hvalue (not_holds_initial value)
  defined := fun c name method hmethod => by
    have hall : ∀ i < 12, ∀ entry ∈ (Store.initial.classes.read ⟨i⟩).methods.entries,
        entry.2.isAtHome Core.initial ⟨i⟩ = true := by decide +kernel
    have hc : c.index < 12 := size_classes_initial ▸ index_lt_of_localMethod? hmethod
    exact hall c.index hc _ (NameTable.mem_entries hmethod)

end Store

/-- **Every such operation keeps to the rule.** -/
theorem DomesticOperation.keeps (h : DomesticOperation s t) (hs : Discipline.domestic.Inv s) :
    Discipline.domestic.Inv t := by
  have hD := Discipline.domestic_lawful
  cases h with
  | step h hheld hdefined =>
    refine ⟨hs.1.tail h, hs.2.change (fun value hvalue => (hheld value hvalue).symm) ?_⟩
    intro c name method hmethod
    cases method with
    | user closure => exact .inl rfl
    | native native => exact .inr (hdefined c name native hmethod)
  | @defineOnObject _ _ closure hvalue hclosure h =>
    have hmethod : s.LiveMethod (.user closure) := hclosure
    exact ⟨hs.1.trans (steps_defineOnObject hvalue hmethod h), hs.2.defineOnObject h⟩
  | @send host calls natives _ _ _ _ hreceiver hargs h =>
    have hhost := Discipline.domestic_host host
    have hrunner := hD.evaluator hhost calls
    have hctx := Discipline.Lawful.context (m := Machine.evaluating Core.initial host calls) hD
      hhost hrunner natives
    exact (hD.send (m := Machine.evaluating Core.initial host calls) hhost hrunner hctx hs
      hreceiver hargs h).1.1
  | @call host calls _ _ _ hcallee hargs h =>
    have hhost := Discipline.domestic_host host
    exact (hD.call (m := Machine.evaluating Core.initial host calls) hhost
      (hD.evaluator hhost calls) hs hcallee hargs h).1.1
  | @runProgram host _ _ _ _ hscope h =>
    exact (hD.runProgram (Discipline.domestic_host host) _ hs ⟨hscope, trivial⟩ _ h).1.1

theorem Domestic.keeps (h : Domestic s) : Discipline.domestic.Inv s := by
  induction h with
  | refl => exact ⟨.refl, stocked_domestic_initial⟩
  | tail _ hoperation ih => exact hoperation.keeps ih

/-! ### What messages find -/

/-- What comes of a message for which a kernel method is found.  It is run on the receiver, without
the early returns around it, and with the argument that it reads, or else the number of arguments is
wrong. -/
inductive Machine.Served (m : Machine) (ctx : NativeContext) (receiver : Value) (name : String)
    (args : List Value) (s : Store) (method : KernelMethod) : Option (Value × Store) → Prop
  | run (hcount : method.arity.admits args.length = true)
      (hargument : method.readsArgument = true → ∃ argument, args = [argument]) :
      Served m ctx receiver name args s method (method.run ctx receiver.payload args s)
  | miscounted {expected : Nat} (hcount : method.arity = .exact expected)
      (hne : expected ≠ args.length) :
      Served m ctx receiver name args s method
        (some (.fault (.argCount name expected args.length), s))

theorem Machine.served_perform (m : Machine) (ctx : NativeContext) (receiver : Value)
    (name : String) (args : List Value) (s : Store) (home : ClassRef) (method : KernelMethod) :
    m.Served ctx receiver name args s method
      (m.perform ctx receiver.payload name (.native (.kernel home method)) args s) := by
  have hmethod : (Method.native (.kernel home method)).arity = method.arity := rfl
  cases hcount : method.arity.admits args.length with
  | true =>
    rw [Machine.perform_of_admits (hmethod ▸ hcount)]
    exact .run hcount fun hreads => KernelMethod.eq_singleton_of_readsArgument hreads hcount
  | false =>
    obtain ⟨expected, harity, hne⟩ := Arity.admits_eq_false_iff.1 hcount
    rw [Machine.perform_of_miscounted (hmethod.trans harity) hne]
    exact .miscounted harity hne

/-- Whatever native method a message finds is one of the kernel on the class where it belongs; it is
for such a receiver, and it is run on it. -/
def Store.Suits (core : Core) (s : Store) : Prop :=
  ∀ ⦃m : Machine⦄ ⦃receiver : Value⦄ ⦃name : String⦄ ⦃found : Found⦄ ⦃native : Native⦄,
    m.core = core → s.methodFor core receiver name = .ok found → found.method = .native native →
      ∃ method, native = .kernel found.owner method ∧
        (found.owner, method) ∈ Kernel.methods core ∧ method.accepts receiver.payload = true ∧
        ∀ ctx args, m.Served ctx receiver name args s method (m.send ctx receiver name args s)

theorem Discipline.suits (hs : domestic.Inv s) : s.Suits Core.initial := by
  intro m receiver name found native hcore hfound hnative
  obtain ⟨c, -, hresolve⟩ := methodFor_ok_iff.1 hfound
  obtain ⟨-, -, -, -, hlocal⟩ := resolve?_eq_some_iff.1 hresolve
  have hhome : found.method.isAtHome Core.initial found.owner = true := hs.2.defined hlocal
  rw [hnative] at hhome
  cases native with
  | host => cases hhome
  | kernel home method =>
    obtain ⟨heq, hcontains⟩ := Bool.and_eq_true_iff.1 hhome
    obtain rfl := eq_of_beq heq
    have hinstalled := List.contains_iff_mem.1 hcontains
    refine ⟨method, rfl, hinstalled, hs.1.accepts_of_found hinstalled hfound, fun ctx args => ?_⟩
    have hlookup := methodFor_payload_eq_ok_iff.2 hfound
    have hreceiver : ∀ fault, receiver.payload ≠ .fault fault := by
      intro fault hfault
      rw [hfault] at hlookup
      cases hlookup
    rw [Machine.send_of_found hreceiver (hcore ▸ hlookup), hnative]
    exact m.served_perform ctx receiver name args s found.owner method

/-- **No native method is reached with the wrong kind of receiver.**  In every store that operations
without functions of the host lead to, and in every store in the course of a program that is run
there, a message that finds a native method finds one of the kernel, on the class where it was
installed; the receiver has the form that the method is for, and the method is run on it with the
argument that it reads, or not at all.  So the answers that these methods have ready for other
receivers are never given to a message. -/
theorem Domestic.natives_accept (h : Domestic s) :
    s.Suits Core.initial ∧
    (∀ (host : Host) (depth : Nat) (scope : ScopeRef) (block : Block) (f : Frame),
      scope.index < s.scopes.size →
      Frame.During Core.initial host (.program depth scope block s) f →
        f.store.Suits Core.initial) ∧
    ∀ (method : KernelMethod) (ctx : NativeContext) (receiver : Value) (args : List Value)
      (u : Store), method.accepts receiver = false →
        method.run ctx receiver args u = some (.fault (method.refusal u receiver), u) := by
  refine ⟨Discipline.suits h.keeps, fun host depth scope block f hscope hduring => ?_,
    fun method ctx receiver args u hrefused => KernelMethod.run_of_not_accepts hrefused ctx args u⟩
  have hD := Discipline.domestic_lawful
  have hbegin : (Frame.program depth scope block s).Admitted .domestic :=
    ⟨h.keeps, ⟨hscope, trivial⟩, hD.fit_nil s⟩
  exact Discipline.suits (hduring.admitted hD (Discipline.domestic_host host) hbegin).1

/-- The built-in hierarchy and a class below `Module`. -/
def Store.withPart : Store :=
  (Store.initial.addClass ⟨"Part", .plain, .cls, none, some Core.initial.module, ∅⟩).2

theorem domestic_withPart : Domestic Store.withPart := by
  have hkind : (Store.initial.classes.read Core.initial.module).kind = .plain := by decide +kernel
  have hlayout : (Store.initial.classes.read Core.initial.module).layout? = none := by
    decide +kernel
  have hname : "Part".isEmpty = false := rfl
  have hmade := makeClass_of_plain hname hkind
  rw [hlayout] at hmade
  exact .single (.makeClass hmade)

/-- The class below `Module` is a class like any other, and `name` is run on it. -/
theorem natives_accept_withPart :
    Domestic Store.withPart ∧
      Store.withPart.methodFor Core.initial (.cls ⟨12⟩) "name" =
        .ok ⟨Core.initial.module, .native (.kernel Core.initial.module .moduleName)⟩ ∧
      KernelMethod.moduleName.accepts (.cls ⟨12⟩) = true := by
  have h := domestic_withPart
  have hfound : Store.withPart.methodFor Core.initial (.cls ⟨12⟩) "name" =
      .ok ⟨Core.initial.module, .native (.kernel Core.initial.module .moduleName)⟩ :=
    methodFor_ok_iff.2 ⟨Core.initial.cls, by decide +kernel, by decide +kernel⟩
  obtain ⟨hsuits, -⟩ := h.natives_accept
  obtain ⟨method, heq, -, haccepts, -⟩ :=
    hsuits (m := ⟨Core.initial, .returning, fun _ _ _ => .exhausted⟩) rfl hfound rfl
  obtain ⟨-, rfl⟩ := Native.kernel.inj heq
  exact ⟨h, hfound, haccepts⟩

end ObjectModel
