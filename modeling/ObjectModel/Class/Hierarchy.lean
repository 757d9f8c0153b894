import ObjectModel.Class.Core

/-!
# Classes

Making classes and modules, walking from a class to its superclasses, and allocating instances.

The superclass of a class is fixed when the class is made, so it is always an older class than
the class itself.  The walk along superclasses goes by that: it never follows a link to a younger
class, and so it ends.

## Main definitions

* `Store.makeClass`, `Store.makeModule` — named classes and modules.
* `Store.lineage` — a class and its superclasses.
* `Store.descendsFrom` — descent.
* `Store.localMethod?`, `Store.resolve?` — methods of a class alone, and of its lineage.
* `Store.allocate` — allocation of a bare instance.

## Main results

* `Store.lineage_of_superclass`, `Store.lineage_of_root` — the two steps of the walk.
* `Store.localMethod?_defineMethod`, `Store.superclass?_defineMethod` — what a definition changes.
-/

namespace ObjectModel.Store

/-! ### Making classes -/

/-- Makes a named class below a superclass, whose layout it inherits.  Only a plain class can be a
superclass; a missing name is reported first. -/
def makeClass (s : Store) (name : String) (superclass : ClassRef) :
    Except Malformed (ClassRef × Store) :=
  let parent := s.classes.read superclass
  if name.isEmpty then .error .missingName
  else if parent.kind ≠ .plain then .error (.unfitSuperclass parent.name parent.kind)
  else .ok (s.addClass
    { name := name, kind := .plain, tag := .cls, layout? := parent.layout?,
      superclass? := some superclass, methods := ∅ })

/-- Makes a module, which has neither a superclass nor instances. -/
def makeModule (s : Store) (name : String) : Except Malformed (ClassRef × Store) :=
  if name.isEmpty then .error .missingName
  else .ok (s.addClass
    { name := name, kind := .module, tag := .module, layout? := none, superclass? := none,
      methods := ∅ })

/-! ### Lineage -/

/-- The superclass of a class. -/
def superclass? (s : Store) (c : ClassRef) : Option ClassRef := (s.classes.read c).superclass?

/-- A class followed by its superclasses, nearest first. -/
def lineage (s : Store) (c : ClassRef) : List ClassRef :=
  c :: match s.superclass? c with
    | some parent => if _older : parent.index < c.index then s.lineage parent else []
    | none => []
termination_by c.index

/-- The lineage of a class is itself and then the lineage of its superclass. -/
theorem lineage_of_superclass {s : Store} {c parent : ClassRef}
    (h : s.superclass? c = some parent) (older : parent.index < c.index) :
    s.lineage c = c :: s.lineage parent := by
  rw [lineage, h]
  simp [older]

theorem lineage_of_root {s : Store} {c : ClassRef} (h : s.superclass? c = none) :
    s.lineage c = [c] := by
  rw [lineage, h]

theorem mem_lineage_self (s : Store) (c : ClassRef) : c ∈ s.lineage c := by
  rw [lineage]
  exact List.mem_cons_self

/-- Whether a class is another one or descends from it. -/
def descendsFrom (s : Store) (c other : ClassRef) : Bool := (s.lineage c).contains other

/-- The lineage of a class depends on nothing but the superclasses. -/
theorem lineage_congr {s t : Store} (h : ∀ c, t.superclass? c = s.superclass? c)
    (c : ClassRef) : t.lineage c = s.lineage c := by
  fun_induction lineage s c with
  | case1 c ih =>
    rw [lineage, h]
    cases hparent : s.superclass? c with
    | none => rfl
    | some parent =>
      by_cases older : parent.index < c.index
      · simp [older, ih parent older]
      · simp [older]

/-! ### Methods -/

/-- A method in the own table of a class. -/
def localMethod? (s : Store) (c : ClassRef) (name : String) : Option Method :=
  (s.classes.read c).methods.get? name

/-- The names in the own table of a class, in ascending order. -/
def definedNames (s : Store) (c : ClassRef) : List String := (s.classes.read c).methods.names

/-- A method together with the class whose table holds it. -/
structure Found where
  owner : ClassRef
  method : Method
  deriving DecidableEq

/-- A definition changes what one class itself holds under one name. -/
theorem localMethod?_defineMethod (s : Store) {c : ClassRef} (name : String) (method : Method)
    (h : c.index < s.classes.size) (d : ClassRef) (key : String) :
    (s.defineMethod c name method).localMethod? d key =
      if d = c ∧ key = name then some method else s.localMethod? d key := by
  by_cases heq : d = c
  · subst heq
    have hread : (s.defineMethod d name method).classes.read d = _ :=
      s.classes.read_modify_self _ h
    rw [localMethod?, hread, NameTable.get?_insert]
    simp [localMethod?]
  · have hread : (s.defineMethod c name method).classes.read d = s.classes.read d :=
      s.classes.read_modify_of_ne _ heq
    rw [localMethod?, hread, if_neg fun h => heq h.1]
    rfl

/-- A definition moves no class. -/
theorem superclass?_defineMethod (s : Store) (c : ClassRef) (name : String) (method : Method)
    (d : ClassRef) : (s.defineMethod c name method).superclass? d = s.superclass? d := by
  have hget := s.classes.get?_modify c d fun cell =>
    { cell with methods := cell.methods.insert name method }
  unfold superclass? Cells.read
  rw [show (s.defineMethod c name method).classes.get? d = _ from hget]
  by_cases heq : d = c
  · rw [if_pos heq, heq]
    cases s.classes.get? c <;> rfl
  · rw [if_neg heq]

/-- The method that a class has under a name: that of the first class in its lineage with the
name in its own table. -/
def resolve? (s : Store) (c : ClassRef) (name : String) : Option Found :=
  (s.lineage c).findSome? fun owner => (s.localMethod? owner name).map (Found.mk owner)

/-! ### Instances -/

/-- Allocates an instance of a class without initialising it.  A bare exception has the name of
its class as its message. -/
def allocate (s : Store) (c : ClassRef) : Except Fault (Value × Store) :=
  match (s.classes.read c).layout? with
  | some .object => .ok (s.newObject c .object)
  | some .basicObject => .ok (s.newObject c .basicObject)
  | some .exception => .ok (s.newException c (s.className c))
  | none => .error (.noAllocator (s.className c))

end ObjectModel.Store
