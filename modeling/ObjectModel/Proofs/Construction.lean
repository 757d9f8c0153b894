import ObjectModel.Proofs.Allocation
import ObjectModel.Proofs.Instances
import ObjectModel.Proofs.Invocation

/-!
# Construction

What `new` does depends on the layout of the class alone.  A class of exceptions makes an exception
of the message that it is given, and sends no message.  A class without a layout has a fault for
an answer.  Any other class allocates an instance and sends it `initialize`, once, and what comes of
that decides between a fault and the instance.  There is always a method for this message: plain
classes descend from `BasicObject`, which was given one at the beginning, and nobody takes methods
away.

Only the answer itself is asked whether it is a fault.  What a body of the user answers has been
taken out of its early returns by then, so no fault is overlooked in it.  What a native method
answers has not, and a fault in an early return gives way to the instance.

## Main definitions

* `Store.NewInstance` — an instance that was not there before.

## Main results

* `Reachable.exists_initializer` — every plain class has a method for `initialize`.
* `Machine.send_new_of_allocate` — what `new` does with an instance that it has allocated.
* `Reachable.new_constructs` — what `new` answers.
* `Reachable.new_reports_faults`, `new_hides_fault` — which faults of `initialize` are answered.
-/

namespace ObjectModel

open Store

variable {strict : Bool} {core : Core} {s t u : Store} {c home : ClassRef} {made : Value}
  {m : Machine} {ctx : NativeContext} {args : List Value} {found : Found}

/-! ### New instances -/

/-- A value is an instance of a class in the store `t`, with the tag of its layout, and it is no
value of the store `s`. -/
structure Store.NewInstance (s : Store) (core : Core) (c : ClassRef) (made : Value) (t : Store) :
    Prop where
  live : t.Live made
  birth : t.birthClass? core made = some c
  tag : (s.classes.read c).layout?.map Layout.tag = some (t.tagOf made)
  fresh : ∀ value, s.Live value → made.identical value = false

namespace Store

/-- What is not in the store is the same as nothing in it. -/
theorem not_identical_of_not_live {value : Value} (hmade : ¬ s.Live made) (hlive : s.Live value) :
    made.identical value = false := by
  refine Bool.eq_false_iff.2 fun hsame => ?_
  obtain ⟨-, rfl⟩ := Value.identical_iff.1 hsame
  exact hmade hlive

theorem newInstance_newObject {tag : Tag}
    (hlayout : (s.classes.read c).layout?.bind Layout.objectTag? = some tag) :
    s.NewInstance core c (s.newObject c tag).1 (s.newObject c tag).2 where
  live := Cells.next_lt_size_add _ _
  birth := birthClass?_of_allocate (allocate_of_objectTag? hlayout)
  tag := by
    obtain ⟨layout, hsome, htag⟩ := Option.bind_eq_some_iff.1 hlayout
    have hread := s.objects.read_add_next ⟨c, tag, ∅⟩
    rw [hsome, Option.map_some, Layout.tag_of_objectTag? htag]
    exact congrArg (fun cell : ObjectCell => some cell.tag) hread.symm
  fresh := fun _ => not_identical_of_not_live (Nat.lt_irrefl _)

theorem newInstance_newException (hlayout : (s.classes.read c).layout? = some .exception)
    (message : String) :
    s.NewInstance core c (s.newException c message).1 (s.newException c message).2 where
  live := Cells.next_lt_size_add _ _
  birth := congrArg (Option.map ExceptionCell.cls) (Cells.get?_add_next _ _)
  tag := by
    rw [hlayout]
    rfl
  fresh := fun _ => not_identical_of_not_live (Nat.lt_irrefl _)

/-- It is one in every later store. -/
theorem NewInstance.grows (h : s.NewInstance core c made t) (hgrows : t.Grows u) :
    s.NewInstance core c made u where
  live := hgrows.live h.live
  birth := hgrows.birthClass? h.birth
  tag := by rw [hgrows.tagOf h.live, h.tag]
  fresh := h.fresh

/-- A new object has no eigenclass yet, so it has the methods of its class. -/
theorem Sound.methodFor_newObject (hs : s.Sound strict core) (tag : Tag) {name : String}
    (hfound : s.resolve? c name = some found) :
    (s.newObject c tag).2.methodFor core (s.newObject c tag).1 name = .ok found := by
  have hbirth : (s.newObject c tag).2.birthClass? core (s.newObject c tag).1 = some c :=
    congrArg (Option.map ObjectCell.cls) (Cells.get?_add_next _ _)
  -- what carries an eigenclass is in the store already
  have hbare : s.carried? (.object s.objects.next) = none := by
    cases hcarried : s.carried? (.object s.objects.next) with
    | none => rfl
    | some e => exact absurd (hs.carrier_live hcarried) (Nat.lt_irrefl _)
  have hclass : (s.newObject c tag).2.classOf? core (s.newObject c tag).1 = some c :=
    (classOf?_of_not_carried (s := (s.newObject c tag).2) hbare).trans hbirth
  have hsuperclass (d : ClassRef) : (s.newObject c tag).2.superclass? d = s.superclass? d := rfl
  have hlineage : (s.newObject c tag).2.lineage c = s.lineage c := lineage_congr hsuperclass c
  have hresolve : (s.newObject c tag).2.resolve? c name = s.resolve? c name :=
    resolve?_congr hlineage fun _ _ => rfl
  exact methodFor_ok_iff.2 ⟨c, hclass, hresolve.trans hfound⟩

end Store

/-- **Every plain class has a method for `initialize`**: it is found in `BasicObject` at the
latest. -/
theorem Reachable.exists_initializer (h : Reachable strict s)
    (hc : (s.classes.read c).kind = .plain) :
    ∃ found, s.resolve? c "initialize" = some found := by
  have hlast := h.sound.getLast?_lineage h.steps.shaped_initial hc
  have hgiven :
      (Store.initial.localMethod? Core.initial.basicObject "initialize").isSome = true := by
    decide +kernel
  have hkept := (Steps.grows h.steps).localMethod? hgiven
  exact Option.isSome_iff_exists.1
    (resolve?_isSome_iff.2 ⟨_, List.mem_of_getLast? hlast, hkept⟩)

/-! ### What `new` does -/

namespace Kernel

section

variable (hlayout : (s.classes.read c).layout? = some .exception)

include hlayout

/-- Without an argument the message of an exception is the name of its class. -/
theorem instantiate_exception : instantiate ctx (.cls c) [] s =
    some (s.newException c (s.className c)) := by
  simp only [instantiate]
  rw [Action.get_bind, if_pos hlayout]
  rfl

theorem instantiate_exception_of_text {argument : Value} {text : String}
    (htext : s.text? argument = some text) :
    instantiate ctx (.cls c) [argument] s = some (s.newException c text) := by
  simp only [instantiate]
  rw [Action.get_bind, if_pos hlayout]
  simp only [htext]
  rfl

theorem instantiate_exception_of_not_text {argument : Value} (htext : s.text? argument = none) :
    instantiate ctx (.cls c) [argument] s =
      some (.fault (.argType "new" "String" (s.tagOf argument)), s) := by
  simp only [instantiate]
  rw [Action.get_bind, if_pos hlayout]
  simp only [htext]
  rfl

theorem instantiate_exception_of_length (hlength : 2 ≤ args.length) :
    instantiate ctx (.cls c) args s = some (.fault (.argCount "new" 1 args.length), s) := by
  cases args with
  | nil => cases hlength
  | cons first args =>
    cases args with
    | nil => exact absurd hlength (Nat.lt_irrefl 1)
    | cons second args =>
      simp only [instantiate]
      rw [Action.get_bind, if_pos hlayout]
      rfl

end

theorem instantiate_of_layoutless (hlayout : (s.classes.read c).layout? = none) :
    instantiate ctx (.cls c) args s = some (.fault (.noAllocator (s.className c)), s) := by
  have hnone : ¬ (s.classes.read c).layout? = some .exception := by
    rw [hlayout]
    nofun
  have hrefused : Action.attempt (fun s => s.allocate c) s =
      some (.error (.noAllocator (s.className c)), s) := by
    rw [Action.attempt, allocate_eq_error_iff.2 ⟨hlayout, rfl⟩]
  simp only [instantiate]
  rw [Action.get_bind, if_neg hnone, Action.bind_eq hrefused]
  rfl

end Kernel

namespace Machine

/-- A class that finds the native `new` is instantiated by it. -/
theorem send_new (hnew : s.methodFor m.core (.cls c) "new" = .ok found)
    (hnative : found.method = .native (.kernel home .new)) :
    m.send ctx (.cls c) "new" args s = Kernel.instantiate ctx (.cls c) args s := by
  have hreceiver : ∀ fault, (Value.cls c).payload ≠ .fault fault := nofun
  rw [send_of_found hreceiver hnew, hnative, perform_of_admits rfl]
  rfl

/-- **An instance that has been allocated is initialised once**, with the arguments of `new`.  The
answer is that of `initialize` if this is a fault, and else the instance. -/
theorem send_new_of_allocate {ref : ObjectRef} {initializer : Found}
    (hnew : s.methodFor m.core (.cls c) "new" = .ok found)
    (hnative : found.method = .native (.kernel home .new))
    (hlayout : ¬ (s.classes.read c).layout? = some .exception)
    (hmade : s.allocate c = .ok (.object ref, t))
    (hinitializer : t.methodFor m.core (.object ref) "initialize" = .ok initializer) (depth : Nat) :
    m.send (m.context (depth + 1)) (.cls c) "new" args s =
      (m.perform (m.context depth) (.object ref) "initialize" initializer.method args t).map
        (Prod.map (fun answer => if answer.isFault then answer else .object ref) id) := by
  have hreceiver : ∀ fault, (Value.object ref).payload ≠ .fault fault := nofun
  have hsend : (m.context (depth + 1)).send (.object ref) "initialize" args t =
      m.perform (m.context depth) (.object ref) "initialize" initializer.method args t :=
    send_of_found hreceiver hinitializer
  rw [send_new hnew hnative, Kernel.instantiate_of_allocate hlayout hmade, ← hsend]
  -- nothing is done after the message but to look at its answer
  change ((m.context (depth + 1)).send (.object ref) "initialize" args t).bind _ = _
  cases (m.context (depth + 1)).send (.object ref) "initialize" args t <;> rfl

end Machine

/-- What is allocated for an object, the method that initialises it, and what `new` makes of its
answer. -/
theorem Reachable.initialized_once (h : Reachable strict s) (hcore : m.core = Core.initial)
    (hnew : s.methodFor Core.initial (.cls c) "new" = .ok found)
    (hnative : found.method = .native (.kernel home .new)) {tag : Tag}
    (hlayout : (s.classes.read c).layout?.bind Layout.objectTag? = some tag) :
    ∃ made t initializer, s.allocate c = .ok (made, t) ∧
      s.NewInstance Core.initial c made t ∧ s.resolve? c "initialize" = some initializer ∧
      t.methodFor Core.initial made "initialize" = .ok initializer ∧
      ∀ depth args, m.send (m.context (depth + 1)) (.cls c) "new" args s =
        (m.perform (m.context depth) made "initialize" initializer.method args t).map
          (Prod.map (fun answer => if answer.isFault then answer else made) id) := by
  obtain ⟨layout, hsome, htag⟩ := Option.bind_eq_some_iff.1 hlayout
  have hne : ¬ (s.classes.read c).layout? = some .exception := by
    rw [hsome]
    rintro ⟨⟩
    cases htag
  have hmade : s.allocate c = .ok (s.newObject c tag) := allocate_of_objectTag? hlayout
  obtain ⟨initializer, hresolve⟩ := h.exists_initializer (h.sound.layout_plain hsome)
  have hinitializer : (s.newObject c tag).2.methodFor Core.initial (s.newObject c tag).1
      "initialize" = .ok initializer := h.sound.methodFor_newObject tag hresolve
  refine ⟨_, _, initializer, hmade, newInstance_newObject hlayout, hresolve, hinitializer,
    fun depth args => ?_⟩
  rw [← hcore] at hnew hinitializer
  exact Machine.send_new_of_allocate hnew hnative hne hmade hinitializer depth

/-- A method that initialises an instance only adds to the store, if the machine uses nothing but
operations. -/
theorem Reachable.grows_of_initialized (h : Reachable strict s) (hm : m.Stepwise strict)
    (hmade : s.allocate c = .ok (made, t)) (hlive : t.Live made)
    (hresolve : s.resolve? c "initialize" = some found) (hargs : ∀ arg ∈ args, s.Live arg)
    {depth : Nat} {answer : Value}
    (hperform : m.perform (m.context depth) made "initialize" found.method args t =
      some (answer, u)) : t.Grows u := by
  have hstep : Step strict Core.initial s t := .allocate hmade
  obtain ⟨-, -, -, -, hlocal⟩ := resolve?_eq_some_iff.1 hresolve
  have hmethod := hstep.grows.liveMethod (h.sound.method_live hlocal)
  have hoperation : Operation strict t u :=
    .perform hm hlive hmethod (fun arg harg => hstep.grows.live (hargs arg harg)) hperform
  have ht : Reachable strict t := h.tail (.step hstep)
  exact Steps.grows (hoperation.steps ht.steps)

/-- **What `new` answers.**  In every reachable store, for every class that finds the native `new`,
and for every machine: a class of exceptions makes an exception of the text that it is given, or of
its own name without an argument, and has a fault for other arguments; all this without a message,
since it is the same for all that native methods are given.  A class without a layout has a fault,
and the store is left as it is.  Any other class allocates an instance, finds a method for
`initialize` in its lineage and performs it once on the instance, with the arguments of `new`; a
fault that it answers is the answer, and if it answers anything else the instance is.  The instance
is new, and whatever is done by operations in the meantime, it stays one of the class and keeps the
tag of its layout. -/
theorem Reachable.new_constructs (h : Reachable strict s) (hcore : m.core = Core.initial)
    (hnew : s.methodFor Core.initial (.cls c) "new" = .ok found)
    (hnative : found.method = .native (.kernel home .new)) :
    ((s.classes.read c).layout? = some .exception →
      (∀ message, s.NewInstance Core.initial c (s.newException c message).1
        (s.newException c message).2) ∧
      ∀ ctx,
        m.send ctx (.cls c) "new" [] s = some (s.newException c (s.className c)) ∧
        (∀ argument text, s.text? argument = some text →
          m.send ctx (.cls c) "new" [argument] s = some (s.newException c text)) ∧
        (∀ argument, s.text? argument = none →
          m.send ctx (.cls c) "new" [argument] s =
            some (.fault (.argType "new" "String" (s.tagOf argument)), s)) ∧
        ∀ args, 2 ≤ args.length → m.send ctx (.cls c) "new" args s =
          some (.fault (.argCount "new" 1 args.length), s)) ∧
    ((s.classes.read c).layout? = none → ∀ ctx args,
      m.send ctx (.cls c) "new" args s = some (.fault (.noAllocator (s.className c)), s)) ∧
    ∀ tag, (s.classes.read c).layout?.bind Layout.objectTag? = some tag →
      ∃ made t initializer, s.allocate c = .ok (made, t) ∧
        s.resolve? c "initialize" = some initializer ∧
        t.methodFor Core.initial made "initialize" = .ok initializer ∧
        (∀ depth args, m.send (m.context (depth + 1)) (.cls c) "new" args s =
          (m.perform (m.context depth) made "initialize" initializer.method args t).map
            (Prod.map (fun answer => if answer.isFault then answer else made) id)) ∧
        (∀ home depth, initializer.method = .native (.kernel home .setUp) →
          m.send (m.context (depth + 1)) (.cls c) "new" [] s = some (made, t)) ∧
        s.NewInstance Core.initial c made t ∧
        (m.Stepwise strict → ∀ depth args answer u, (∀ arg ∈ args, s.Live arg) →
          m.send (m.context (depth + 1)) (.cls c) "new" args s = some (answer, u) →
            s.NewInstance Core.initial c made u) := by
  have hinstantiate (ctx : NativeContext) (args : List Value) :
      m.send ctx (.cls c) "new" args s = Kernel.instantiate ctx (.cls c) args s := by
    rw [← hcore] at hnew
    exact Machine.send_new hnew hnative
  refine ⟨fun hlayout => ⟨newInstance_newException hlayout, fun ctx => ?_⟩,
    fun hlayout ctx args => ?_, fun tag hlayout => ?_⟩
  · simp only [hinstantiate]
    exact ⟨Kernel.instantiate_exception hlayout,
      fun _ _ => Kernel.instantiate_exception_of_text hlayout,
      fun _ => Kernel.instantiate_exception_of_not_text hlayout,
      fun _ => Kernel.instantiate_exception_of_length hlayout⟩
  · rw [hinstantiate, Kernel.instantiate_of_layoutless hlayout]
  · obtain ⟨made, t, initializer, hmade, hinstance, hresolve, hinitializer, honce⟩ :=
      h.initialized_once hcore hnew hnative hlayout
    refine ⟨made, t, initializer, hmade, hresolve, hinitializer, honce,
      fun home depth hsetUp => ?_, hinstance, fun hm depth args answer u hargs hanswer => ?_⟩
    · rw [honce, hsetUp]
      rfl
    · rw [honce] at hanswer
      obtain ⟨⟨value, _⟩, hperformed, ⟨⟩⟩ := Option.map_eq_some_iff.1 hanswer
      have hgrows := h.grows_of_initialized hm hmade hinstance.live hresolve hargs hperformed
      exact hinstance.grows hgrows

/-- `Object` itself finds the `initialize` of `BasicObject`, and a new bare object is answered. -/
theorem new_constructs_initial :
    Reachable true Store.initial ∧
      Store.initial.methodFor Core.initial (.cls Core.initial.object) "new" =
        .ok ⟨Core.initial.cls, .native (.kernel Core.initial.cls .new)⟩ ∧
      ∃ made t, Store.initial.allocate Core.initial.object = .ok (made, t) ∧
        ∀ depth, (Machine.evaluating Core.initial .returning 1).send
          ((Machine.evaluating Core.initial .returning 1).context (depth + 1))
          (.cls Core.initial.object) "new" [] Store.initial = some (made, t) := by
  have h : Reachable true Store.initial := .refl
  have hnew : Store.initial.methodFor Core.initial (.cls Core.initial.object) "new" =
      .ok ⟨Core.initial.cls, .native (.kernel Core.initial.cls .new)⟩ :=
    methodFor_ok_iff.2 ⟨Core.initial.cls, by decide +kernel, by decide +kernel⟩
  have hlayout : (Store.initial.classes.read Core.initial.object).layout?.bind
      Layout.objectTag? = some .object := by decide +kernel
  have hgiven : Store.initial.resolve? Core.initial.object "initialize" =
      some ⟨Core.initial.basicObject, .native (.kernel Core.initial.basicObject .setUp)⟩ := by
    decide +kernel
  obtain ⟨-, -, hobject⟩ :=
    h.new_constructs (m := Machine.evaluating Core.initial .returning 1) rfl hnew rfl
  obtain ⟨made, t, initializer, hmade, hresolve, -, -, hsetUp, -⟩ := hobject .object hlayout
  cases hgiven.symm.trans hresolve
  exact ⟨h, hnew, made, t, hmade, fun depth => hsetUp _ depth rfl⟩

/-! ### Faults of `initialize` -/

/-- **Faults of `initialize` and the answer of `new`.**  If the number of arguments is wrong, `new`
answers the fault.  If a body of the user comes to a fault, in whatever early returns, `new` answers
the fault.  If a native method does, `new` answers the fault as long as there is no early return
around it, and the instance if there is one. -/
theorem Reachable.new_reports_faults (h : Reachable strict s) (hcore : m.core = Core.initial)
    (hnew : s.methodFor Core.initial (.cls c) "new" = .ok found)
    (hnative : found.method = .native (.kernel home .new)) {tag : Tag}
    (hlayout : (s.classes.read c).layout?.bind Layout.objectTag? = some tag) :
    ∃ made t initializer, s.allocate c = .ok (made, t) ∧
      s.resolve? c "initialize" = some initializer ∧
      ∀ depth args,
        (∀ expected, initializer.method.arity = .exact expected → expected ≠ args.length →
          m.send (m.context (depth + 1)) (.cls c) "new" args s =
            some (.fault (.argCount "initialize" expected args.length), t)) ∧
        (∀ closure answer fault u, initializer.method = .user closure →
          closure.arity = args.length →
          m.runner closure (some made) args t = some (answer, u) →
          answer.payload = .fault fault →
            m.send (m.context (depth + 1)) (.cls c) "new" args s = some (.fault fault, u)) ∧
        ∀ native answer fault u, initializer.method = .native native →
          native.arity.admits args.length = true →
          m.runNative (m.context depth) native made args t = some (answer, u) →
          answer.payload = .fault fault →
            m.send (m.context (depth + 1)) (.cls c) "new" args s =
              some (if answer.isPending then made else .fault fault, u) := by
  obtain ⟨made, t, initializer, hmade, -, hresolve, -, honce⟩ :=
    h.initialized_once hcore hnew hnative hlayout
  refine ⟨made, t, initializer, hmade, hresolve, fun depth args => ⟨?_, ?_, ?_⟩⟩
  · intro expected harity hne
    rw [honce, Machine.perform_of_miscounted harity hne]
    rfl
  · intro closure answer fault u huser hcount hrun hfault
    rw [honce, huser, Machine.perform_user hcount, Machine.runBody_eq_map, hrun]
    simp only [Option.map_some, Prod.map, hfault]
    rfl
  · intro native answer fault u hmethod hcount hrun hfault
    have hadmits : (Method.native native).arity.admits args.length = true := hcount
    have hperform : m.perform (m.context depth) made "initialize" (.native native) args t =
        some (answer, u) := by
      rw [Machine.perform_of_admits hadmits]
      exact hrun
    rw [honce, hmethod, hperform]
    -- an early return is no fault, whatever it carries
    cases answer with
    | pending serial payload => rfl
    | fault =>
      cases hfault
      rfl
    | _ => cases hfault

/-- The built-in hierarchy with a scope, and a method that initialises every object. -/
def Store.withInitializer (method : Method) : Store :=
  (Store.initial.newScope none).2.defineMethod Core.initial.object "initialize" method

theorem reachable_withInitializer {method : Method}
    (hmethod : (Store.initial.newScope none).2.LiveMethod method) :
    Reachable strict (withInitializer method) := by
  have hscope : Operation strict Store.initial (Store.initial.newScope none).2 :=
    .step (.newScope nofun)
  exact (Relation.ReflTransGen.single hscope).tail (.step (.defineMethod hmethod))

/-- Comes to a fault in an early return. -/
def Action.complaint : Action Value := modifyGet fun s => s.newPending (.fault (.raised "boom"))

/-- A machine in which all that is native and all bodies come to that. -/
def Machine.complaining : Machine :=
  ⟨Core.initial, ⟨fun _ _ _ _ => .complaint, fun _ _ => .complaint⟩, fun _ _ _ => .complaint⟩

theorem Machine.stepwise_complaining (strict : Bool) : complaining.Stepwise strict := by
  have hD := Discipline.stepwise_lawful strict
  have hcomplaint {s : Store} (hs : (Discipline.stepwise strict).Inv s) :
      (Discipline.stepwise strict).Keeps s .complaint (Discipline.stepwise strict).Answer :=
    .change (hD.newPending hs trivial) (.inl trivial)
  refine ⟨rfl, ⟨fun _ hs _ _ _ => hcomplaint hs, fun hs _ _ => hcomplaint hs⟩, ?_⟩
  intro s closure receiver? args hs _ _ _
  exact .change (hD.newPending hs trivial) (.inl trivial)

/-- The fault of a body that initialises objects is answered. -/
theorem new_reports_faults_complaining :
    Reachable true (withInitializer (.user ⟨0, [], [], ⟨0⟩⟩)) ∧
      ∃ u, Machine.complaining.send (Machine.complaining.context 1) (.cls Core.initial.object)
        "new" [] (withInitializer (.user ⟨0, [], [], ⟨0⟩⟩)) =
          some (.fault (.raised "boom"), u) := by
  have hscope : (Store.initial.newScope none).2.LiveMethod (.user ⟨0, [], [], ⟨0⟩⟩) := Nat.one_pos
  have h : Reachable true (withInitializer (.user ⟨0, [], [], ⟨0⟩⟩)) :=
    reachable_withInitializer hscope
  have hnew : (withInitializer (.user ⟨0, [], [], ⟨0⟩⟩)).methodFor Core.initial
      (.cls Core.initial.object) "new" =
        .ok ⟨Core.initial.cls, .native (.kernel Core.initial.cls .new)⟩ :=
    methodFor_ok_iff.2 ⟨Core.initial.cls, by decide +kernel, by decide +kernel⟩
  have hlayout : ((withInitializer (.user ⟨0, [], [], ⟨0⟩⟩)).classes.read
      Core.initial.object).layout?.bind Layout.objectTag? = some .object := by decide +kernel
  have hgiven : (withInitializer (.user ⟨0, [], [], ⟨0⟩⟩)).resolve? Core.initial.object
      "initialize" = some ⟨Core.initial.object, .user ⟨0, [], [], ⟨0⟩⟩⟩ := by decide +kernel
  obtain ⟨made, t, initializer, -, hresolve, hfaults⟩ :=
    h.new_reports_faults (m := Machine.complaining) rfl hnew rfl hlayout
  cases hgiven.symm.trans hresolve
  obtain ⟨-, huser, -⟩ := hfaults 0 []
  exact ⟨h, _, huser _ _ _ _ rfl rfl rfl rfl⟩

/-- **A fault of `initialize` that `new` does not answer.**  A native method for it comes to a fault
in an early return, in a reachable store and by nothing but operations, and the instance is
answered. -/
theorem new_hides_fault :
    Reachable true (withInitializer (.native (.host 0 "initialize" .any))) ∧
      Machine.complaining.Stepwise true ∧
      (withInitializer (.native (.host 0 "initialize" .any))).methodFor Core.initial
        (.cls Core.initial.object) "new" =
          .ok ⟨Core.initial.cls, .native (.kernel Core.initial.cls .new)⟩ ∧
      (∃ answer u, (withInitializer (.native (.host 0 "initialize" .any))).allocate
          Core.initial.object = .ok (.object ⟨0⟩, u) ∧
        (Machine.complaining.send (Machine.complaining.context 0) (.object ⟨0⟩) "initialize" []
          u).map Prod.fst = some answer ∧ answer.payload = .fault (.raised "boom")) ∧
      (Machine.complaining.send (Machine.complaining.context 1) (.cls Core.initial.object)
        "new" [] (withInitializer (.native (.host 0 "initialize" .any)))).map Prod.fst =
          some (.object ⟨0⟩) := by
  have hnew : (withInitializer (.native (.host 0 "initialize" .any))).methodFor Core.initial
      (.cls Core.initial.object) "new" =
        .ok ⟨Core.initial.cls, .native (.kernel Core.initial.cls .new)⟩ :=
    methodFor_ok_iff.2 ⟨Core.initial.cls, by decide +kernel, by decide +kernel⟩
  have hlayout : ((withInitializer (.native (.host 0 "initialize" .any))).classes.read
      Core.initial.object).layout?.bind Layout.objectTag? = some .object := by decide +kernel
  exact ⟨reachable_withInitializer trivial, Machine.stepwise_complaining true, hnew,
    ⟨.pending 0 (.fault (.raised "boom")), _, allocate_of_objectTag? hlayout, by decide +kernel,
      rfl⟩, by decide +kernel⟩

end ObjectModel
