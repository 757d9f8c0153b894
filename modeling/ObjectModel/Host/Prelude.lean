import ObjectModel.Host.Body

/-!
# Prelude

Native methods that make the built-in classes usable from programs: arithmetic, growing arrays,
choosing by a truth value, and defining methods and classes.  There is no conditional expression;
a program chooses by sending `pick` to a truth value.

## Main definitions

* `Prelude.methods` — the methods, with the classes that get them.
* `Prelude.install` — defines them, with bodies from a given entry of the host's table on.
-/

namespace ObjectModel.Prelude

/-- A native method that the prelude defines. -/
structure Entry where
  cls : ClassRef
  name : String
  arity : Arity
  body : Body

/-- The methods of the prelude. -/
def methods (core : Core) : List Entry :=
  [⟨core.integer, "+", .exact 1, .add⟩,
    ⟨core.array, "push", .exact 1, .push⟩,
    ⟨core.trueClass, "pick", .exact 2, .nth 0⟩,
    ⟨core.falseClass, "pick", .exact 2, .nth 1⟩,
    ⟨core.object, "define_singleton_method", .exact 2, .defOnObject⟩,
    ⟨core.object, "list", .any, .args⟩,
    ⟨core.module, "define_method", .exact 2, .defMethod⟩,
    ⟨core.cls, "subclass", .exact 1, .subclass⟩]

/-- The bodies of the prelude, in the order of its methods. -/
def bodies (core : Core) : Array Body := ((methods core).map Entry.body).toArray

/-- Defines the methods of the prelude.  Their bodies are expected in the host's table from the
entry `first` on. -/
def install (core : Core) (first : Nat) (s : Store) : Store :=
  ((methods core).zipIdx first).foldl
    (fun s (entry, index) =>
      s.defineMethod entry.cls entry.name (.native (.host index entry.name entry.arity)))
    s

end ObjectModel.Prelude
