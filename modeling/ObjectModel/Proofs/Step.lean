import Mathlib.Logic.Relation
import ObjectModel.Class.Bootstrap
import ObjectModel.Proofs.Growth
import ObjectModel.Scope.Function

/-!
# Steps

The operations by which a store changes, one at a time, and what a single one of them can do.  An
operation is given values that are in the store.  Exceptions can be made of any class; a `strict`
step makes them only of classes that have exceptions for instances, as the built-in methods do.

What a step does is said once for each part of the store; whatever holds of every store that steps
lead to is derived from that.

## Main definitions

* `Core.initial`, `Store.initial` — the built-in hierarchy, and the store with nothing else in it.
* `Store.Arises` — how a class-object comes into being.
* `Step`, `Effect` — one operation, and what it does in terms of writes.
* `Steps` — any number of operations.

## Main results

* `Step.effect` — what each operation does.
* `Step.grows` — a step goes up in the order of stores.
* `Step.arises`, `Step.carried_cases`, `Step.object_cases`, `Step.exception_cases`,
  `Step.method_cases`, `Step.holds_cases`, `Step.parentScope?_cases` — where what is in the store
  after a step comes from.
-/

namespace ObjectModel

/-- The built-in classes of a new store. -/
def Core.initial : Core := (Store.bootstrap ∅).1

/-- The store with the built-in hierarchy and nothing else. -/
def Store.initial : Store := (Store.bootstrap ∅).2

/-- The tag of the objects that are allocated for a layout; exceptions are not objects. -/
def Layout.objectTag? : Layout → Option Tag
  | basicObject => some .basicObject
  | object => some .object
  | exception => none

namespace Store

/-! ### What the operations answer -/

theorem makeClass_eq_ok {s t : Store} {name : String} {superclass c : ClassRef}
    (h : s.makeClass name superclass = .ok (c, t)) :
    (s.classes.read superclass).kind = .plain ∧ c = s.classes.next ∧
      t = (s.addClass ⟨name, .plain, .cls, (s.classes.read superclass).layout?,
        some superclass, ∅⟩).2 := by
  simp only [makeClass] at h
  split at h
  · cases h
  · split at h
    · cases h
    · next hkind =>
      cases h
      exact ⟨Decidable.not_not.1 hkind, rfl, rfl⟩

/-- Below a plain class any name that is not empty makes a class, with the layout of that class. -/
theorem makeClass_of_plain {s : Store} {name : String} {superclass : ClassRef}
    (hname : name.isEmpty = false) (hplain : (s.classes.read superclass).kind = .plain) :
    s.makeClass name superclass = .ok (s.addClass ⟨name, .plain, .cls,
      (s.classes.read superclass).layout?, some superclass, ∅⟩) := by
  simp [makeClass, hname, hplain]

theorem makeModule_eq_ok {s t : Store} {name : String} {c : ClassRef}
    (h : s.makeModule name = .ok (c, t)) :
    c = s.classes.next ∧ t = (s.addClass ⟨name, .module, .module, none, none, ∅⟩).2 := by
  unfold makeModule at h
  split at h
  · cases h
  · cases h
    exact ⟨rfl, rfl⟩

theorem makeFunction_eq_ok {s t : Store} {params : List String} {body : Block}
    {scope : ScopeRef} {closure : Closure}
    (h : s.makeFunction params body scope = .ok (closure, t)) :
    closure = (s.newClosure params body scope).1 ∧ t = (s.newClosure params body scope).2 := by
  obtain ⟨-, heq⟩ := makeFunction_eq_ok_iff.1 h
  cases heq
  exact ⟨rfl, rfl⟩

/-- An instance is an object with the tag of the layout, or an exception. -/
theorem allocate_eq_ok {s t : Store} {c : ClassRef} {value : Value}
    (h : s.allocate c = .ok (value, t)) :
    (∃ tag, (s.classes.read c).layout?.bind Layout.objectTag? = some tag ∧
      (value, t) = s.newObject c tag) ∨
    ((s.classes.read c).layout? = some .exception ∧
      (value, t) = s.newException c (s.className c)) := by
  unfold allocate at h
  split at h
  · next hlayout =>
    exact .inl ⟨.object, by rw [hlayout]; rfl, (Except.ok.inj h).symm⟩
  · next hlayout =>
    exact .inl ⟨.basicObject, by rw [hlayout]; rfl, (Except.ok.inj h).symm⟩
  · next hlayout => exact .inr ⟨hlayout, (Except.ok.inj h).symm⟩
  · cases h

theorem allocate_of_objectTag? {s : Store} {c : ClassRef} {tag : Tag}
    (h : (s.classes.read c).layout?.bind Layout.objectTag? = some tag) :
    s.allocate c = .ok (s.newObject c tag) := by
  obtain ⟨layout, hlayout, htag⟩ := Option.bind_eq_some_iff.1 h
  rw [allocate, hlayout]
  cases layout <;> cases htag <;> rfl

theorem allocate_of_exception {s : Store} {c : ClassRef}
    (h : (s.classes.read c).layout? = some .exception) :
    s.allocate c = .ok (s.newException c (s.className c)) := by
  rw [allocate, h]

/-- Only a class that is in the store has a layout. -/
theorem index_lt_of_layout? {s : Store} {c : ClassRef} {layout : Layout}
    (h : (s.classes.read c).layout? = some layout) : c.index < s.classes.size := by
  refine Nat.lt_of_not_le fun hle => ?_
  rw [Cells.read, (s.classes.get?_eq_none c).2 hle] at h
  cases h

/-- Only a class that is in the store has a superclass. -/
theorem index_lt_of_superclass? {s : Store} {c parent : ClassRef}
    (h : s.superclass? c = some parent) : c.index < s.classes.size := by
  refine Nat.lt_of_not_le fun hle => ?_
  rw [superclass?, Cells.read, (s.classes.get?_eq_none c).2 hle] at h
  cases h

/-- Only a class that is in the store has methods. -/
theorem index_lt_of_localMethod? {s : Store} {c : ClassRef} {name : String} {method : Method}
    (h : s.localMethod? c name = some method) : c.index < s.classes.size := by
  refine Nat.lt_of_not_le fun hle => ?_
  rw [localMethod?, Cells.read, (s.classes.get?_eq_none c).2 hle] at h
  cases h

/-- A new class has no methods. -/
theorem localMethod?_of_addClass {s : Store} {cell : ClassCell} (hcell : cell.methods = ∅)
    {c : ClassRef} {name : String} {method : Method}
    (h : (s.addClass cell).2.localMethod? c name = some method) :
    s.localMethod? c name = some method := by
  have hread : (s.addClass cell).2.classes.read c = _ := s.classes.read_add cell c
  rw [localMethod?, hread] at h
  split at h
  · rw [hcell, NameTable.get?_empty] at h
    cases h
  · exact h

/-- What a table has after a definition it had before, or it is what has been defined. -/
theorem localMethod?_of_defineMethod {s : Store} {c d : ClassRef} {name key : String}
    {new method : Method} (h : (s.defineMethod c name new).localMethod? d key = some method) :
    method = new ∨ s.localMethod? d key = some method := by
  rcases Nat.lt_or_ge c.index s.classes.size with hin | hout
  · rw [s.localMethod?_defineMethod name new hin] at h
    split at h
    · exact .inl (Option.some.inj h).symm
    · exact .inr h
  · rw [defineMethod, Cells.modify_of_size_le _ _ hout] at h
    exact .inr h

/-- An object without an eigenclass is looked up in its birth class. -/
theorem classOf?_of_not_carried {s : Store} {core : Core} {carrier : Carrier}
    (h : s.carried? carrier = none) :
    s.classOf? core carrier.toValue = s.birthClass? core carrier.toValue := by
  rw [classOf?_eq, Carrier.payload_toValue, eigenclass?_toValue, h, Option.none_or]

/-- An eigenclass is the one that is there, or a new one below the birth class. -/
theorem ensureEigenclass_eq_ok {s t : Store} {core : Core} {value : Value} {e : ClassRef}
    (h : s.ensureEigenclass core value = .ok (e, t)) :
    (s.eigenclass? value = some e ∧ t = s) ∨
    ∃ carrier birth, value = carrier.toValue ∧ s.carried? carrier = none ∧
      s.birthClass? core value = some birth ∧ e = s.classes.next ∧
      t = (s.makeEigenclass (s.inspect value) birth).2.attach carrier e := by
  unfold ensureEigenclass at h
  split at h
  · next carrier current hcarrier hcurrent =>
    obtain rfl := Value.carrier?_eq_some.1 hcarrier
    split at h
    · next eigenclass hcarried =>
      cases h
      exact .inl ⟨by rw [eigenclass?_toValue, hcarried], rfl⟩
    · next hcarried =>
      cases h
      rw [classOf?_of_not_carried hcarried] at hcurrent
      exact .inr ⟨carrier, current, rfl, hcarried, hcurrent, rfl, rfl⟩
  · cases h

/-! ### Steps -/

/-- How a class-object comes into being: as a class below a plain class, as a module, or as the
eigenclass of an object that has none, below the birth class of the object. -/
inductive Arises (core : Core) (s : Store) : ClassCell → Prop
  | plain {name : String} {superclass : ClassRef}
      (h : (s.classes.read superclass).kind = .plain) :
      Arises core s ⟨name, .plain, .cls, (s.classes.read superclass).layout?, some superclass, ∅⟩
  | module {name : String} : Arises core s ⟨name, .module, .module, none, none, ∅⟩
  | eigenclass {name : String} {carrier : Carrier} {birth : ClassRef}
      (hcarried : s.carried? carrier = none)
      (hbirth : s.birthClass? core carrier.toValue = some birth) :
      Arises core s ⟨name, .eigenclass, .eigenclass, none, some birth, ∅⟩

end Store

/-- One operation on the store, on values that are in it. -/
inductive Step (strict : Bool) (core : Core) : Store → Store → Prop
  | newString {s : Store} {text : String} : Step strict core s (s.newString text).2
  | newArray {s : Store} {elements : List Value} (h : ∀ value ∈ elements, s.Live value) :
      Step strict core s (s.newArray elements).2
  | push {s : Store} {ref : ArrayRef} {value : Value} (h : s.Live value) :
      Step strict core s (s.push ref value)
  | setIvar {s : Store} {ref : ObjectRef} {name : String} {value : Value} (h : s.Live value) :
      Step strict core s (s.setIvar ref name value)
  | newScope {s : Store} {parent? : Option ScopeRef}
      (h : ∀ parent ∈ parent?, parent.index < s.scopes.size) :
      Step strict core s (s.newScope parent?).2
  | setVar {s : Store} {scope : ScopeRef} {name : String} {value : Value} (h : s.Live value) :
      Step strict core s (s.setVar scope name value)
  | newPending {s : Store} {payload : Value} : Step strict core s (s.newPending payload).2
  | makeFunction {s t : Store} {params : List String} {body : Block} {scope : ScopeRef}
      {closure : Closure} (h : s.makeFunction params body scope = .ok (closure, t)) :
      Step strict core s t
  | makeClass {s t : Store} {name : String} {superclass c : ClassRef}
      (h : s.makeClass name superclass = .ok (c, t)) : Step strict core s t
  | makeModule {s t : Store} {name : String} {c : ClassRef}
      (h : s.makeModule name = .ok (c, t)) : Step strict core s t
  | defineMethod {s : Store} {c : ClassRef} {name : String} {method : Method}
      (h : s.LiveMethod method) : Step strict core s (s.defineMethod c name method)
  | allocate {s t : Store} {c : ClassRef} {value : Value} (h : s.allocate c = .ok (value, t)) :
      Step strict core s t
  | newException {s : Store} {c : ClassRef} {message : String} (hc : c.index < s.classes.size)
      (hlayout : strict = true → (s.classes.read c).layout? = some .exception) :
      Step strict core s (s.newException c message).2
  | ensureEigenclass {s t : Store} {value : Value} {e : ClassRef} (hvalue : s.Live value)
      (h : s.ensureEigenclass core value = .ok (e, t)) : Step strict core s t

/-- Any number of operations. -/
abbrev Steps (strict : Bool) (core : Core) : Store → Store → Prop :=
  Relation.ReflTransGen (Step strict core)

/-- What a step amounts to: nothing, one write, or a new eigenclass that is attached at once. -/
inductive Effect (strict : Bool) (core : Core) (s : Store) : Store → Prop
  | unchanged : Effect strict core s s
  | newString {text : String} : Effect strict core s (s.newString text).2
  | newArray {elements : List Value} (h : ∀ value ∈ elements, s.Live value) :
      Effect strict core s (s.newArray elements).2
  | push {ref : ArrayRef} {value : Value} (h : s.Live value) :
      Effect strict core s (s.push ref value)
  | setIvar {ref : ObjectRef} {name : String} {value : Value} (h : s.Live value) :
      Effect strict core s (s.setIvar ref name value)
  | newScope {parent? : Option ScopeRef} (h : ∀ parent ∈ parent?, parent.index < s.scopes.size) :
      Effect strict core s (s.newScope parent?).2
  | setVar {scope : ScopeRef} {name : String} {value : Value} (h : s.Live value) :
      Effect strict core s (s.setVar scope name value)
  /-- A serial number is used up. -/
  | tick : Effect strict core s { s with serial := s.serial + 1 }
  | addClass {cell : ClassCell} (h : s.Arises core cell) :
      Effect strict core s (s.addClass cell).2
  | defineMethod {c : ClassRef} {name : String} {method : Method} (h : s.LiveMethod method) :
      Effect strict core s (s.defineMethod c name method)
  | newObject {c : ClassRef} {tag : Tag}
      (h : (s.classes.read c).layout?.bind Layout.objectTag? = some tag) :
      Effect strict core s (s.newObject c tag).2
  | newException {c : ClassRef} {message : String} (hc : c.index < s.classes.size)
      (hlayout : strict = true → (s.classes.read c).layout? = some .exception) :
      Effect strict core s (s.newException c message).2
  | newEigenclass {name : String} {carrier : Carrier} {birth : ClassRef}
      (hlive : s.Live carrier.toValue) (hcarried : s.carried? carrier = none)
      (hbirth : s.birthClass? core carrier.toValue = some birth) :
      Effect strict core s ((s.makeEigenclass name birth).2.attach carrier s.classes.next)

namespace Step

variable {strict : Bool} {core : Core} {s t : Store}

theorem effect (h : Step strict core s t) : Effect strict core s t := by
  cases h with
  | newString => exact .newString
  | newArray h => exact .newArray h
  | push h => exact .push h
  | setIvar h => exact .setIvar h
  | newScope h => exact .newScope h
  | setVar h => exact .setVar h
  | newPending => exact .tick
  | makeFunction h =>
    obtain ⟨-, rfl⟩ := Store.makeFunction_eq_ok h
    exact .tick
  | makeClass h =>
    obtain ⟨hkind, -, rfl⟩ := Store.makeClass_eq_ok h
    exact .addClass (.plain hkind)
  | makeModule h =>
    obtain ⟨-, rfl⟩ := Store.makeModule_eq_ok h
    exact .addClass .module
  | defineMethod h => exact .defineMethod h
  | allocate h =>
    rcases Store.allocate_eq_ok h with ⟨tag, htag, heq⟩ | ⟨hlayout, heq⟩
    · cases heq
      exact .newObject htag
    · cases heq
      exact .newException (Store.index_lt_of_layout? hlayout) fun _ => hlayout
  | newException hc hlayout => exact .newException hc hlayout
  | ensureEigenclass hvalue h =>
    rcases Store.ensureEigenclass_eq_ok h with
      ⟨-, rfl⟩ | ⟨carrier, birth, rfl, hcarried, hbirth, rfl, rfl⟩
    · exact .unchanged
    · exact .newEigenclass hvalue hcarried hbirth

/-- A step goes up in the order of stores. -/
theorem grows (h : Step strict core s t) : s.Grows t := by
  cases h.effect with
  | unchanged => exact .refl s
  | newString => exact s.grows_newString _
  | newArray => exact s.grows_newArray _
  | push => exact s.grows_push _ _
  | setIvar => exact s.grows_setIvar _ _ _
  | newScope => exact s.grows_newScope _
  | setVar => exact s.grows_setVar _ _ _
  | tick => exact s.grows_newPending .nil
  | addClass => exact s.grows_addClass _
  | defineMethod => exact s.grows_defineMethod _ _ _
  | newObject => exact s.grows_newObject _ _
  | newException => exact s.grows_newException _ _
  | newEigenclass _ hcarried => exact (s.grows_addClass _).trans (Store.grows_attach _ hcarried)

/-- A class that was not there before is the one that has just come into being. -/
theorem arises (h : Step strict core s t) {c : ClassRef} (hold : s.classes.size ≤ c.index)
    (hnew : c.index < t.classes.size) :
    c = s.classes.next ∧ s.Arises core (t.classes.read c) := by
  have added : ∀ cell, c.index < (s.classes.add cell).size → s.Arises core cell →
      c = s.classes.next ∧ s.Arises core ((s.classes.add cell).read c) := by
    intro cell hlt hcell
    rw [Cells.size_add] at hlt
    have hindex : c.index = s.classes.size := by omega
    have hnext : c = s.classes.next := congrArg Ref.mk hindex
    refine ⟨hnext, ?_⟩
    rw [s.classes.read_add, if_pos hnext]
    exact hcell
  cases h.effect with
  | addClass hcell => exact added _ hnew hcell
  | newEigenclass _ hcarried hbirth => exact added _ hnew (.eigenclass hcarried hbirth)
  | defineMethod =>
    rw [Store.defineMethod, Cells.size_modify] at hnew
    exact absurd hnew (Nat.not_lt.2 hold)
  | _ => exact absurd hnew (Nat.not_lt.2 hold)

/-- An eigenclass is one that was carried before, or a new class-object below the birth class of
an object that carried none. -/
theorem carried_cases (h : Step strict core s t) {carrier : Carrier} {e : ClassRef}
    (he : t.carried? carrier = some e) :
    s.carried? carrier = some e ∨
      (e = s.classes.next ∧ s.Live carrier.toValue ∧ (t.classes.read e).kind = .eigenclass ∧
        (∀ other, other ≠ carrier → t.carried? other = s.carried? other) ∧
        ∃ birth, s.birthClass? core carrier.toValue = some birth ∧
          t.superclass? e = some birth) := by
  cases h.effect with
  | @newEigenclass name owner birth hlive hcarried hbirth =>
    rw [Store.carried?_attach] at he
    split at he
    · next heq =>
      cases he
      subst heq
      have hread := s.classes.read_add_next
      have hother : ∀ other, other ≠ carrier →
          ((s.makeEigenclass name birth).2.attach carrier s.classes.next).carried? other =
            s.carried? other := fun other hne => by
        rw [Store.carried?_attach, if_neg hne]
        rfl
      exact .inr ⟨rfl, hlive, congrArg ClassCell.kind (hread _), hother, birth, hbirth,
        congrArg ClassCell.superclass? (hread _)⟩
    · exact .inl he
  | _ => exact .inl he

/-- An object is one that was there, or a new instance of a class with a layout of objects. -/
theorem object_cases (h : Step strict core s t) {ref : ObjectRef} {cell : ObjectCell}
    (hc : t.objects.get? ref = some cell) :
    (∃ old, s.objects.get? ref = some old ∧ old.Grows cell) ∨
      (s.classes.read cell.cls).layout?.bind Layout.objectTag? = some cell.tag := by
  cases h.effect with
  | newObject htag =>
    rw [Store.newObject, s.objects.get?_add] at hc
    split at hc
    · cases hc
      exact .inr htag
    · exact .inl ⟨cell, hc, .refl _⟩
  | setIvar =>
    rw [Store.setIvar, s.objects.get?_modify] at hc
    split at hc
    · next heq =>
      obtain ⟨old, hold, rfl⟩ := Option.map_eq_some_iff.1 hc
      exact .inl ⟨old, heq ▸ hold, rfl, rfl, old.ivars.keepsNames_insert _ _⟩
    · exact .inl ⟨cell, hc, .refl _⟩
  | _ => exact .inl ⟨cell, hc, .refl _⟩

/-- An exception is one that was there, or a new one of a class that is in the store. -/
theorem exception_cases (h : Step strict core s t) {ref : ExceptionRef} {cell : ExceptionCell}
    (hc : t.exceptions.get? ref = some cell) :
    s.exceptions.get? ref = some cell ∨
      (cell.cls.index < s.classes.size ∧
        (strict = true → (s.classes.read cell.cls).layout? = some .exception)) := by
  cases h.effect with
  | newException hclass hlayout =>
    rw [Store.newException, s.exceptions.get?_add] at hc
    split at hc
    · cases hc
      exact .inr ⟨hclass, hlayout⟩
    · exact .inl hc
  | _ => exact .inl hc

/-- The scope around a scope is the one that was there, or the scope is new. -/
theorem parentScope?_cases (h : Step strict core s t) {scope parent : ScopeRef}
    (hp : t.parentScope? scope = some parent) :
    s.parentScope? scope = some parent ∨
      (scope = s.scopes.next ∧ parent.index < s.scopes.size) := by
  cases h.effect with
  | @newScope parent? hparent =>
    have hread := s.scopes.read_add ⟨∅, parent?⟩ scope
    rw [Store.parentScope?, show (s.newScope parent?).2.scopes.read scope = _ from hread] at hp
    split at hp
    · next heq => exact .inr ⟨heq, hparent parent hp⟩
    · exact .inl hp
  | setVar =>
    rw [Store.parentScope?_setVar] at hp
    exact .inl hp
  | _ => exact .inl hp

/-- A method is one that was in the table, or one that is defined now. -/
theorem method_cases (h : Step strict core s t) {c : ClassRef} {name : String} {method : Method}
    (hm : t.localMethod? c name = some method) :
    s.localMethod? c name = some method ∨ s.LiveMethod method := by
  cases h.effect with
  | addClass hcell => exact .inl (Store.localMethod?_of_addClass (by cases hcell <;> rfl) hm)
  | @newEigenclass owner _ birth =>
    have hnew : (s.makeEigenclass owner birth).2.localMethod? c name = some method := hm
    rw [Store.makeEigenclass] at hnew
    exact .inl (Store.localMethod?_of_addClass rfl hnew)
  | defineMethod hnew =>
    rcases Store.localMethod?_of_defineMethod hm with rfl | hold
    · exact .inr hnew
    · exact .inl hold
  | _ => exact .inl hm

/-- What is held was held, or was in the store. -/
theorem holds_cases (h : Step strict core s t) {value : Value} (hv : t.Holds value) :
    s.Holds value ∨ s.Live value := by
  cases h.effect with
  | newArray hnew =>
    rcases Store.holds_newArray hv with hmem | hold
    · exact .inr (hnew value hmem)
    · exact .inl hold
  | push hnew =>
    rcases Store.holds_push hv with rfl | hold
    · exact .inr hnew
    · exact .inl hold
  | setIvar hnew =>
    rcases Store.holds_setIvar hv with rfl | hold
    · exact .inr hnew
    · exact .inl hold
  | setVar hnew =>
    rcases Store.holds_setVar hv with rfl | hold
    · exact .inr hnew
    · exact .inl hold
  | newScope => exact .inl (Store.holds_newScope hv)
  | newObject => exact .inl (Store.holds_newObject hv)
  | _ =>
    -- arrays, instance variables and bindings are what they were
    refine .inl ?_
    cases hv with
    | element h => exact .element h
    | ivar h => exact .ivar h
    | binding h => exact .binding h

end Step

end ObjectModel
