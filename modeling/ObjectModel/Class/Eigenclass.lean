import ObjectModel.Class.Hierarchy
import ObjectModel.Value.Inspect

/-!
# Eigenclasses

An eigenclass holds the methods of one object alone.  It is made when first asked for and belongs
to its object from then on.  Its superclass is the class that the object had until then, so a
lookup that finds nothing in it goes on as it would have without it.

Immediates and values without a class have no place for an eigenclass, and neither has an early
return, even of an object that has.

## Main definitions

* `Store.ensureEigenclass` — the eigenclass of a value, made when first asked for.
* `Store.defineOnObject` — a method for one object alone.
* `Store.objectMethodNames` — the names of those methods.
-/

namespace ObjectModel.Store

/-- Makes a class-object for the methods of one object, named after the object's text. -/
def makeEigenclass (s : Store) (owner : String) (superclass : ClassRef) : ClassRef × Store :=
  s.addClass
    { name := "#<Class:" ++ owner ++ ">", kind := .eigenclass, tag := .eigenclass,
      layout? := none, superclass? := some superclass, methods := ∅ }

/-- The eigenclass of a value, made and attached when first asked for. -/
def ensureEigenclass (s : Store) (core : Core) (value : Value) : Except Fault (ClassRef × Store) :=
  match value.carrier?, s.classOf? core value with
  | some carrier, some current =>
    match s.carried? carrier with
    | some eigenclass => .ok (eigenclass, s)
    | none =>
      let (eigenclass, s') := s.makeEigenclass (s.inspect value) current
      .ok (eigenclass, s'.attach carrier eigenclass)
  | _, _ => .error (.notACarrier (s.inspect value) (s.tagOf value))

/-- Defines a method on one object alone. -/
def defineOnObject (s : Store) (core : Core) (value : Value) (name : String)
    (method : Method) : Except Fault Store := do
  let (eigenclass, s') ← s.ensureEigenclass core value
  return s'.defineMethod eigenclass name method

/-- The names of the methods of one object alone, in ascending order. -/
def objectMethodNames (s : Store) (value : Value) : List String :=
  match s.eigenclass? value with
  | some eigenclass => s.definedNames eigenclass
  | none => []

/-- Asking again for an eigenclass answers the one that is there and changes nothing. -/
theorem ensureEigenclass_of_carried {s : Store} {core : Core} {value : Value}
    {eigenclass : ClassRef} (h : s.eigenclass? value = some eigenclass) :
    s.ensureEigenclass core value = .ok (eigenclass, s) := by
  obtain ⟨carrier, hcarrier, hcarried⟩ := Option.bind_eq_some_iff.1 h
  obtain rfl := Value.carrier?_eq_some.1 hcarrier
  have hclass : s.classOf? core carrier.toValue = some eigenclass := by
    cases carrier <;> simp_all [classOf?, Carrier.toValue]
  simp [ensureEigenclass, hcarrier, hclass, hcarried]

end ObjectModel.Store
