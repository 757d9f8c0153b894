import ObjectModel.Proofs.Evaluation
import ObjectModel.Proofs.Sound

/-!
# Reachable stores

Whoever uses the object system starts with the built-in hierarchy and goes on with its operations:
making classes, instances, scopes and functions, defining methods, sending messages, calling
functions, running bodies and programs.  A machine may have native functions of its own, and an
evaluator of its own, as long as these in turn do nothing but use the operations.

Whatever is done in this way is a sequence of steps, so everything that steps preserve holds of
every store that can be reached.

## Main definitions

* `Discipline.stepwise` — the rule that only steps are taken, on values that are in the store.
* `Operation`, `Reachable` — an operation, and the stores that operations lead to.

## Main results

* `Discipline.stepwise_lawful` — every operation on the store keeps to the rule.
* `Operation.steps` — every operation is a sequence of steps.
* `Reachable.sound` — every reachable store is sound.
-/

namespace ObjectModel

variable {strict : Bool} {core : Core} {s t : Store}

/-! ### Steps as a discipline -/

/-- Only steps are taken, from a store that steps lead to, and all that takes part in them is in
the store. -/
def Discipline.stepwise (strict : Bool) : Discipline where
  Inv s := Steps strict Core.initial Store.initial s
  Leads := Steps strict Core.initial
  Fit := Store.Live
  FitMethod := Store.LiveMethod
  FitScope s scope := scope.index < s.scopes.size

/-- A store that steps lead to from the built-in hierarchy is sound. -/
theorem Steps.sound_of_initial (h : Steps strict Core.initial Store.initial s) :
    s.Sound strict Core.initial :=
  h.sound (Store.sound_initial strict)

/-- A core class that has a name is one of the core classes. -/
theorem Core.mem_classes_of_find? {name : String} {c : ClassRef} (h : core.find? name = some c) :
    c ∈ core.classes := by
  obtain ⟨before, after, hsplit, -⟩ := List.lookup_eq_some_iff.1 h
  rw [Core.classes, hsplit]
  simp

namespace Store

/-- Binding names in a scope takes a step for each of them. -/
theorem steps_setVars {scope : ScopeRef} {bindings : List (String × Value)}
    (h : ∀ binding ∈ bindings, s.Live binding.2) :
    Steps strict core s (s.setVars scope bindings) := by
  induction bindings generalizing s with
  | nil => exact .refl
  | cons binding bindings ih =>
    have hstep : Step strict core s (s.setVar scope binding.1 binding.2) :=
      .setVar (h binding List.mem_cons_self)
    refine .head hstep (ih fun other hother => ?_)
    exact hstep.grows.live (h other (List.mem_cons_of_mem _ hother))

/-- To enter a function is to add a scope and to bind names in it. -/
theorem steps_enter {closure : Closure} {receiver? : Option Value} {args : List Value}
    (hclosure : closure.scope.index < s.scopes.size)
    (hreceiver : ∀ receiver ∈ receiver?, s.Live receiver) (hargs : ∀ arg ∈ args, s.Live arg) :
    Steps strict core s (s.enter closure receiver? args).2 ∧
      (s.enter closure receiver? args).1.index <
        (s.enter closure receiver? args).2.scopes.size := by
  have hscope : Step strict core s (s.newScope (some closure.scope)).2 := by
    refine .newScope ?_
    rintro _ ⟨⟩
    exact hclosure
  have hnext : s.scopes.next.index < (s.newScope (some closure.scope)).2.scopes.size :=
    s.scopes.next_lt_size_add _
  -- what is bound was in the store before the scope was added, and still is
  have hbind : Steps strict core (s.newScope (some closure.scope)).2
      ((s.newScope (some closure.scope)).2.setVars s.scopes.next (closure.params.zip args)) := by
    refine steps_setVars fun binding hbinding => hscope.grows.live (hargs _ ?_)
    exact (List.of_mem_zip hbinding).2
  have hbound := Nat.lt_of_lt_of_le hnext hbind.grows.scopes.size_le
  cases receiver? with
  | none => exact ⟨hbind.head hscope, hbound⟩
  | some receiver =>
    have hlive := hbind.grows.live (hscope.grows.live (hreceiver receiver rfl))
    have hself : Step strict core _ (Store.setVar _ s.scopes.next "self" receiver) :=
      .setVar hlive
    exact ⟨(hbind.head hscope).tail hself, Nat.lt_of_lt_of_le hbound hself.grows.scopes.size_le⟩

end Store

/-- A single step keeps to the rule. -/
theorem Step.stepwise (h : Step strict Core.initial s t)
    (hs : Steps strict Core.initial Store.initial s) : (Discipline.stepwise strict).To s t :=
  ⟨hs.tail h, .single h⟩

/-- Every operation that a run is made of takes steps only. -/
theorem Discipline.stepwise_lawful (strict : Bool) :
    (stepwise strict).Lawful Core.initial where
  refl := fun _ => .refl
  trans := fun h h' => h.trans h'
  fit_mono := fun h hv => (Steps.grows h).live hv
  method_mono := fun h hm => (Steps.grows h).liveMethod hm
  scope_mono := fun h hscope => Nat.lt_of_lt_of_le hscope (Steps.grows h).scopes.size_le
  fit_nil := fun _ => trivial
  fit_bool := fun _ _ => trivial
  fit_int := fun _ _ => trivial
  fit_symbol := fun _ _ => trivial
  fit_payload := id
  fit_function := id
  fit_core := fun hs hc => (Steps.sound_of_initial hs).core_lt (Core.mem_classes_of_find? hc)
  fit_birth := fun hs _ hc => (Steps.sound_of_initial hs).birthClass?_lt hc
  fit_superclass := fun hs hc hparent =>
    Nat.lt_trans ((Steps.sound_of_initial hs).layered hparent) hc
  fit_found := fun hs _ hfound => by
    obtain ⟨c, -, hresolve⟩ := Store.methodFor_ok_iff.1 hfound
    obtain ⟨-, -, -, -, hmethod⟩ := Store.resolve?_eq_some_iff.1 hresolve
    exact (Steps.sound_of_initial hs).method_live hmethod
  fit_variable := fun hs _ hvalue =>
    (Steps.sound_of_initial hs).held_live (Store.holds_of_valueOf? hvalue)
  fit_ivar := fun hs _ hvalue => (Steps.sound_of_initial hs).held_live (.ivar hvalue)
  newString := fun text hs => ⟨Step.newString.stepwise hs, Cells.next_lt_size_add _ _⟩
  newArray := fun hs helements =>
    ⟨(Step.newArray helements).stepwise hs, Cells.next_lt_size_add _ _⟩
  newException := fun message hs hc hlayout =>
    ⟨(Step.newException hc fun _ => hlayout).stepwise hs, Cells.next_lt_size_add _ _⟩
  newPending := fun hs _ => Step.newPending.stepwise hs
  allocate := fun hs _ hmade => by
    refine ⟨(Step.allocate hmade).stepwise hs, ?_⟩
    rcases Store.allocate_eq_ok hmade with ⟨tag, -, heq⟩ | ⟨-, heq⟩
    · cases heq
      exact Cells.next_lt_size_add _ _
    · cases heq
      exact Cells.next_lt_size_add _ _
  ensureEigenclass := fun hs hvalue hmade => by
    have hstep : Step strict Core.initial _ _ := .ensureEigenclass hvalue hmade
    refine ⟨hstep.stepwise hs, ?_⟩
    -- an old eigenclass is in a sound store, a new one has just been added
    rcases Store.ensureEigenclass_eq_ok hmade with
      ⟨hcarried, rfl⟩ | ⟨carrier, birth, rfl, hcarried, hbirth, rfl, rfl⟩
    · obtain ⟨carrier, -, hcarried⟩ := Option.bind_eq_some_iff.1 hcarried
      exact (Steps.sound_of_initial hs).eigenclass_lt hcarried
    · exact Cells.next_lt_size_add _ _
  makeFunction := fun hs hscope hmade => by
    refine ⟨(Step.makeFunction hmade).stepwise hs, ?_⟩
    obtain ⟨rfl, rfl⟩ := Store.makeFunction_eq_ok hmade
    exact hscope
  assign := fun hs _ hvalue => (Step.setVar hvalue).stepwise hs
  setIvar := fun hs _ hvalue => (Step.setIvar hvalue).stepwise hs
  enter := fun hs hclosure hreceiver hargs => by
    obtain ⟨hsteps, hscope⟩ := Store.steps_enter hclosure hreceiver hargs
    exact ⟨⟨hs.trans hsteps, hsteps⟩, hscope⟩

/-! ### Operations -/

/-- A machine whose native functions and whose evaluator do nothing but use the operations. -/
structure Machine.Stepwise (strict : Bool) (m : Machine) : Prop where
  core_eq : m.core = Core.initial
  host : (Discipline.stepwise strict).HostObeys Core.initial m.host
  runner : (Discipline.stepwise strict).RunnerObeys m.runner

/-- What can be done with a store: a step, the definition of a method for one object, a message, a
call, the run of a method, of a body or of a whole program. -/
inductive Operation (strict : Bool) : Store → Store → Prop
  | step {s t : Store} (h : Step strict Core.initial s t) : Operation strict s t
  | defineOnObject {s t : Store} {value : Value} {name : String} {method : Method}
      (hvalue : s.Live value) (hmethod : s.LiveMethod method)
      (h : s.defineOnObject Core.initial value name method = .ok t) : Operation strict s t
  | send {s t : Store} {m : Machine} {depth : Nat} {receiver answer : Value} {name : String}
      {args : List Value} (hm : m.Stepwise strict) (hreceiver : s.Live receiver)
      (hargs : ∀ arg ∈ args, s.Live arg)
      (h : m.send (m.context depth) receiver name args s = some (answer, t)) :
      Operation strict s t
  | call {s t : Store} {m : Machine} {callee answer : Value} {args : List Value}
      (hm : m.Stepwise strict) (hcallee : s.Live callee) (hargs : ∀ arg ∈ args, s.Live arg)
      (h : m.call callee args s = some (answer, t)) : Operation strict s t
  | perform {s t : Store} {m : Machine} {depth : Nat} {receiver answer : Value} {name : String}
      {method : Method} {args : List Value} (hm : m.Stepwise strict)
      (hreceiver : s.Live receiver) (hmethod : s.LiveMethod method)
      (hargs : ∀ arg ∈ args, s.Live arg)
      (h : m.perform (m.context depth) receiver name method args s = some (answer, t)) :
      Operation strict s t
  | invoke {s t : Store} {m : Machine} {closure : Closure} {receiver? : Option Value}
      {args : List Value} {answer : Value} (hm : m.Stepwise strict)
      (hclosure : s.Live (.function closure)) (hreceiver : ∀ receiver ∈ receiver?, s.Live receiver)
      (hargs : ∀ arg ∈ args, s.Live arg)
      (h : m.runner closure receiver? args s = some (answer, t)) : Operation strict s t
  | runProgram {s t : Store} {host : Host} {depth : Nat} {scope : ScopeRef} {block : Block}
      {answer : Value} (hhost : (Discipline.stepwise strict).HostObeys Core.initial host)
      (hscope : scope.index < s.scopes.size)
      (h : Machine.runProgram Core.initial host depth scope block s = some (answer, t)) :
      Operation strict s t

/-- A store that operations lead to from the built-in hierarchy. -/
def Reachable (strict : Bool) : Store → Prop :=
  Relation.ReflTransGen (Operation strict) Store.initial

/-- A method for one object is a step for its eigenclass and one for its method. -/
theorem Store.steps_defineOnObject {value : Value} {name : String} {method : Method}
    (hvalue : s.Live value) (hmethod : s.LiveMethod method)
    (h : s.defineOnObject core value name method = .ok t) : Steps strict core s t := by
  cases hmade : s.ensureEigenclass core value with
  | error fault =>
    rw [defineOnObject, hmade] at h
    cases h
  | ok made =>
    obtain ⟨e, u⟩ := made
    rw [defineOnObject, hmade] at h
    cases h
    have hstep : Step strict core s u := .ensureEigenclass hvalue hmade
    exact .tail (.single hstep) (.defineMethod (hstep.grows.liveMethod hmethod))

namespace Machine.Stepwise

variable {m : Machine}

theorem lawful (hm : m.Stepwise strict) : (Discipline.stepwise strict).Lawful m.core := by
  rw [hm.core_eq]
  exact Discipline.stepwise_lawful strict

theorem hostObeys (hm : m.Stepwise strict) :
    (Discipline.stepwise strict).HostObeys m.core m.host := by
  rw [hm.core_eq]
  exact hm.host

theorem context (hm : m.Stepwise strict) (depth : Nat) :
    (Discipline.stepwise strict).Context m.core (m.context depth) :=
  hm.lawful.context hm.hostObeys hm.runner depth

end Machine.Stepwise

/-- **Every operation is a sequence of steps.** -/
theorem Operation.steps (h : Operation strict s t)
    (hs : Steps strict Core.initial Store.initial s) : Steps strict Core.initial s t := by
  cases h with
  | step h => exact .single h
  | defineOnObject hvalue hmethod h => exact Store.steps_defineOnObject hvalue hmethod h
  | @send m depth _ _ _ _ hm hreceiver hargs h =>
    have hctx := hm.context depth
    exact (hm.lawful.send hm.hostObeys hm.runner hctx hs hreceiver hargs h).1.2
  | call hm hcallee hargs h =>
    exact (hm.lawful.call hm.hostObeys hm.runner hs hcallee hargs h).1.2
  | @perform m depth _ _ _ _ _ hm hreceiver hmethod hargs h =>
    have hctx := hm.context depth
    exact (hm.lawful.perform hm.hostObeys hm.runner hctx hs hreceiver hmethod hargs h).1.2
  | invoke hm hclosure hreceiver hargs h =>
    exact (hm.runner hs hclosure hreceiver hargs h).1.2
  | runProgram hhost hscope h =>
    have hD := Discipline.stepwise_lawful strict
    exact (hD.runProgram hhost _ hs hscope _ h).1.2

namespace Reachable

/-- What operations lead to, steps lead to. -/
theorem steps (h : Reachable strict s) : Steps strict Core.initial Store.initial s := by
  induction h with
  | refl => exact .refl
  | tail _ hoperation ih => exact ih.trans (hoperation.steps ih)

theorem sound (h : Reachable strict s) : s.Sound strict Core.initial := h.steps.sound_of_initial

end Reachable

/-- The built-in hierarchy and one bare object, the smallest store with an instance in it. -/
def Store.withObject : Store := (Store.initial.newObject Core.initial.object .object).2

theorem reachable_withObject (strict : Bool) : Reachable strict Store.withObject := by
  have hlayout : (Store.initial.classes.read Core.initial.object).layout?.bind
      Layout.objectTag? = some .object := by decide +kernel
  exact .single (.step (.allocate (Store.allocate_of_objectTag? hlayout)))

/-- The bare object with a method of its own, under a name that `Object` has as well. -/
def Store.withOverride : Store :=
  match withObject.defineOnObject Core.initial (.object ⟨0⟩) "inspect"
      (.native (.kernel Core.initial.object .classOf)) with
  | .ok s => s
  | .error _ => withObject

theorem reachable_withOverride (strict : Bool) : Reachable strict Store.withOverride := by
  have h := reachable_withObject strict
  unfold Store.withOverride
  split
  · next s hdefined =>
    have hlive : Store.withObject.Live (.object ⟨0⟩) := Nat.one_pos
    have hmethod : Store.withObject.LiveMethod
        (.native (.kernel Core.initial.object .classOf)) := trivial
    exact h.tail (.defineOnObject hlive hmethod hdefined)
  · exact h

/-- The method is in the eigenclass of the object, and `Object` has another one. -/
theorem Store.localMethod?_withOverride :
    withOverride.localMethod? ⟨12⟩ "inspect" =
        some (.native (.kernel Core.initial.object .classOf)) ∧
      withOverride.localMethod? Core.initial.object "inspect" =
        some (.native (.kernel Core.initial.object .inspect)) := by
  decide +kernel

end ObjectModel
