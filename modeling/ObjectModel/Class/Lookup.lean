import ObjectModel.Class.Hierarchy
import ObjectModel.Value.Inspect

/-!
# Method lookup

Which method answers a message.  The search starts at the class of the receiver, which is its
eigenclass if it has one, and goes on along the superclasses until a class has the name in its
own table.

## Main definitions

* `Store.methodFor` — the method that answers a message, or the fault of there being none.
* `Store.understands` — whether there is one.

## Main results

* `Store.methodFor_ok_iff` — a lookup finds what the class of the receiver finds.
-/

namespace ObjectModel.Store

/-- The method that answers a message to a receiver, with the class that holds it. -/
def methodFor (s : Store) (core : Core) (receiver : Value) (name : String) : Except Fault Found :=
  match s.classOf? core receiver with
  | none => .error (.noClass name (s.tagOf receiver))
  | some c =>
    match s.resolve? c name with
    | some found => .ok found
    | none =>
      let birth := (s.birthClass? core receiver).getD c
      .error (.noMethod name (s.inspect receiver) (s.className birth))

/-- Whether a receiver can answer a message. -/
def understands (s : Store) (core : Core) (receiver : Value) (name : String) : Bool :=
  (s.methodFor core receiver name).isOk

theorem methodFor_ok_iff {s : Store} {core : Core} {receiver : Value} {name : String}
    {found : Found} :
    s.methodFor core receiver name = .ok found ↔
      ∃ c, s.classOf? core receiver = some c ∧ s.resolve? c name = some found := by
  unfold methodFor
  cases s.classOf? core receiver with
  | none => simp
  | some c => cases h : s.resolve? c name <;> simp [h]

end ObjectModel.Store
