import ObjectModel.Class.Core

/-!
# Actions

An action answers something and changes the store.  Programs may run for ever, so an action is
given a bound on how deep calls nest, and when the bound is reached the whole action has no answer
and no effect; it then says nothing about the program.

What a native method may do to the running program is to send messages and to call functions.  It
gets these as a `NativeContext`.

## Main definitions

* `Action`, `Action.exhausted` — state changes that may lack an answer.
* `Action.attempt` — an operation that leaves the store alone when it fails.
* `NativeContext` — what a native method is given.
* `Host` — the native functions of the program that embeds the object system.
-/

namespace ObjectModel

/-- A change of the store with an answer; no answer means that calls nested too deep. -/
abbrev Action := StateT Store Option

/-- The action whose calls nest too deep. -/
def Action.exhausted {α : Type} : Action α := fun _ => none

/-- An operation on the store as an action.  If it fails the store is what it was. -/
def Action.attempt {ε α : Type} (operation : Store → Except ε (α × Store)) :
    Action (Except ε α) := fun s =>
  match operation s with
  | .ok (answer, s') => some (.ok answer, s')
  | .error e => some (.error e, s)

/-- To read the store is to begin with it. -/
theorem Action.get_bind {α : Type} {s : Store} {next : Store → Action α} :
    (get >>= next) s = next s s := rfl

/-- What a native method needs to take part in the running program. -/
structure NativeContext where
  core : Core
  /-- Sends a message to a receiver. -/
  send : Value → String → List Value → Action Value
  /-- Calls a function value. -/
  call : Value → List Value → Action Value

/-- The context in which every call nests too deep. -/
def NativeContext.exhausted (core : Core) : NativeContext :=
  ⟨core, fun _ _ _ => .exhausted, fun _ _ => .exhausted⟩

/-- The native functions of an embedding program, by their entries in its tables. -/
structure Host where
  /-- Native methods, which are given a context, the receiver and the arguments. -/
  method : Nat → NativeContext → Value → List Value → Action Value
  /-- Native functions that belong to no class. -/
  builtin : Nat → List Value → Action Value

end ObjectModel
