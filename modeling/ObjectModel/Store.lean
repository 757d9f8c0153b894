import ObjectModel.Method
import ObjectModel.Store.NameTable

/-!
# The store

The whole state of a running program: the cells of every kind, which object carries which
eigenclass, and how many serial numbers are used up.  Nothing is ever removed.

Every change of state in the library is one of the writes of this module or a sequence of them.
A write that adds something answers what it added together with the new store.

## Main definitions

* `ClassCell`, `ObjectCell`, `ExceptionCell`, `ScopeCell`, `Store` — the state.
* `Store.tagOf` — the category that a value reports.
* `Store.eigenclass?` — the eigenclass that a value carries, if it has got one.
* `Store.addClass`, `Store.defineMethod`, `Store.newString`, `Store.newArray`, `Store.newObject`,
  `Store.newException`, `Store.newScope`, `Store.newPending`, `Store.newClosure`, `Store.push`,
  `Store.setIvar`, `Store.setVar`, `Store.attach` — the writes.

## Main results

* `Store.elements_push`, `Store.ivar?_setIvar`, `Store.carried?_attach` and the like — what a write
  changes, and that it changes nothing else of its kind.
-/

namespace ObjectModel

/-! ### Cells -/

/-- A class-object.  All but its methods is fixed when it is made. -/
structure ClassCell where
  name : String
  kind : ClassKind
  /-- The tag that the class-object reports as a value. -/
  tag : Tag
  /-- What is allocated for an instance, if the class has instances. -/
  layout? : Option Layout
  /-- The superclass; none for a root and for a module. -/
  superclass? : Option ClassRef
  methods : NameTable Method

/-- A reference to no class reads as a module without methods, which cannot be a superclass and
has no instances. -/
instance : Inhabited ClassCell := ⟨⟨"", .module, .module, none, none, ∅⟩⟩

/-- An object without a form of its own: its class, its tag and its instance variables. -/
structure ObjectCell where
  cls : ClassRef
  tag : Tag
  ivars : NameTable Value
  deriving Inhabited

/-- An exception: its class and its message, both fixed. -/
structure ExceptionCell where
  cls : ClassRef
  message : String
  deriving Inhabited

/-- A scope: its own bindings, and the scope around it. -/
structure ScopeCell where
  bindings : NameTable Value
  parent? : Option ScopeRef
  deriving Inhabited

/-- The state of a running program. -/
structure Store where
  classes : Cells .cls ClassCell
  strings : Cells .string String
  arrays : Cells .array (List Value)
  objects : Cells .object ObjectCell
  exceptions : Cells .exception ExceptionCell
  scopes : Cells .scope ScopeCell
  /-- Which object carries which eigenclass. -/
  eigenclasses : List (Carrier × ClassRef)
  /-- The next unused serial number. -/
  serial : Nat
  deriving Inhabited

namespace Store

/-- The state before anything has happened. -/
def empty : Store := ⟨∅, ∅, ∅, ∅, ∅, ∅, [], 0⟩

instance : EmptyCollection Store := ⟨empty⟩

/-! ### Reading -/

/-- The name of a class. -/
def className (s : Store) (c : ClassRef) : String := (s.classes.read c).name

/-- The characters of a string. -/
def text (s : Store) (ref : StringRef) : String := s.strings.read ref

/-- The elements of an array. -/
def elements (s : Store) (ref : ArrayRef) : List Value := s.arrays.read ref

/-- An instance variable of an object, if it has been set. -/
def ivar? (s : Store) (ref : ObjectRef) (name : String) : Option Value :=
  (s.objects.read ref).ivars.get? name

/-- The characters of a value that is a string. -/
def text? (s : Store) : Value → Option String
  | .string ref => some (s.text ref)
  | _ => none

/-- The category that a value reports. -/
def tagOf (s : Store) : Value → Tag
  | .nil => .nil
  | .bool _ => .boolean
  | .int _ => .integer
  | .symbol _ => .symbol
  | .string _ => .string
  | .array _ => .array
  | .object ref => (s.objects.read ref).tag
  | .exception _ => .exception
  | .cls ref => (s.classes.read ref).tag
  | .function _ => .function
  | .builtin _ _ => .builtin
  | .pending _ _ => .returnValue
  | .fault _ => .error

/-- The eigenclass that an object carries, if it has got one. -/
def carried? (s : Store) (carrier : Carrier) : Option ClassRef := s.eigenclasses.lookup carrier

/-- The eigenclass of a value.  A value that cannot carry one has none, and an early return does
not stand for its payload. -/
def eigenclass? (s : Store) (value : Value) : Option ClassRef :=
  value.carrier?.bind s.carried?

theorem eigenclass?_toValue (s : Store) (carrier : Carrier) :
    s.eigenclass? carrier.toValue = s.carried? carrier := by
  rw [eigenclass?, Carrier.carrier?_toValue, Option.bind_some]

theorem eigenclass?_eq_some_iff {s : Store} {value : Value} {e : ClassRef} :
    s.eigenclass? value = some e ↔
      ∃ carrier : Carrier, value = carrier.toValue ∧ s.carried? carrier = some e := by
  simp only [eigenclass?, Option.bind_eq_some_iff, Value.carrier?_eq_some]

/-- A reference to no array reads as an array without elements. -/
theorem elements_of_size_le {s : Store} {ref : ArrayRef} (h : s.arrays.size ≤ ref.index) :
    s.elements ref = [] := by
  rw [elements, Cells.read, (s.arrays.get?_eq_none ref).2 h]
  rfl

/-! ### Writing -/

/-- Adds a class-object. -/
def addClass (s : Store) (cell : ClassCell) : ClassRef × Store :=
  (s.classes.next, { s with classes := s.classes.add cell })

/-- Enters a method into the own table of a class, instead of one of the same name. -/
def defineMethod (s : Store) (c : ClassRef) (name : String) (method : Method) : Store :=
  { s with
    classes := s.classes.modify c fun cell =>
      { cell with methods := cell.methods.insert name method } }

def newString (s : Store) (text : String) : Value × Store :=
  (.string s.strings.next, { s with strings := s.strings.add text })

def newArray (s : Store) (elements : List Value) : Value × Store :=
  (.array s.arrays.next, { s with arrays := s.arrays.add elements })

/-- Adds an object of the given class, without instance variables. -/
def newObject (s : Store) (c : ClassRef) (tag : Tag) : Value × Store :=
  (.object s.objects.next, { s with objects := s.objects.add ⟨c, tag, ∅⟩ })

def newException (s : Store) (c : ClassRef) (message : String) : Value × Store :=
  (.exception s.exceptions.next, { s with exceptions := s.exceptions.add ⟨c, message⟩ })

/-- Adds a scope without bindings, inside the given one. -/
def newScope (s : Store) (parent? : Option ScopeRef) : ScopeRef × Store :=
  (s.scopes.next, { s with scopes := s.scopes.add ⟨∅, parent?⟩ })

/-- Wraps a value as an early return, apart from every other early return. -/
def newPending (s : Store) (payload : Value) : Value × Store :=
  (.pending s.serial payload, { s with serial := s.serial + 1 })

/-- Makes a function, apart from every other function. -/
def newClosure (s : Store) (params : List String) (body : Block) (scope : ScopeRef) :
    Closure × Store :=
  (⟨s.serial, params, body, scope⟩, { s with serial := s.serial + 1 })

/-- Appends an element to an array. -/
def push (s : Store) (ref : ArrayRef) (value : Value) : Store :=
  { s with arrays := s.arrays.modify ref (· ++ [value]) }

/-- Sets an instance variable of an object. -/
def setIvar (s : Store) (ref : ObjectRef) (name : String) (value : Value) : Store :=
  { s with
    objects := s.objects.modify ref fun cell =>
      { cell with ivars := cell.ivars.insert name value } }

/-- Binds a name in a scope itself, hiding what the scopes around it bind. -/
def setVar (s : Store) (scope : ScopeRef) (name : String) (value : Value) : Store :=
  { s with
    scopes := s.scopes.modify scope fun cell =>
      { cell with bindings := cell.bindings.insert name value } }

/-- Records that an object carries an eigenclass. -/
def attach (s : Store) (carrier : Carrier) (eigenclass : ClassRef) : Store :=
  { s with eigenclasses := (carrier, eigenclass) :: s.eigenclasses }

/-! ### What a write changes

Each kind of contents has one write that changes it.  These are the reads that see the write. -/

theorem elements_newArray (s : Store) (elements : List Value) (ref : ArrayRef) :
    (s.newArray elements).2.elements ref =
      if ref = s.arrays.next then elements else s.elements ref :=
  s.arrays.read_add elements ref

theorem elements_push (s : Store) {ref : ArrayRef} (value : Value)
    (h : ref.index < s.arrays.size) (other : ArrayRef) :
    (s.push ref value).elements other =
      if other = ref then s.elements ref ++ [value] else s.elements other := by
  by_cases heq : other = ref
  · rw [if_pos heq, heq]
    exact s.arrays.read_modify_self _ h
  · rw [if_neg heq]
    exact s.arrays.read_modify_of_ne _ heq

theorem ivar?_setIvar (s : Store) {ref : ObjectRef} (name : String) (value : Value)
    (h : ref.index < s.objects.size) (other : ObjectRef) (key : String) :
    (s.setIvar ref name value).ivar? other key =
      if other = ref ∧ key = name then some value else s.ivar? other key := by
  by_cases heq : other = ref
  · subst heq
    have hread : (s.setIvar other name value).objects.read other = _ :=
      s.objects.read_modify_self _ h
    rw [ivar?, hread, NameTable.get?_insert]
    simp [ivar?]
  · have hread : (s.setIvar ref name value).objects.read other = s.objects.read other :=
      s.objects.read_modify_of_ne _ heq
    rw [ivar?, hread, if_neg fun h => heq h.1]
    rfl

theorem carried?_attach (s : Store) (carrier other : Carrier) (eigenclass : ClassRef) :
    (s.attach carrier eigenclass).carried? other =
      if other = carrier then some eigenclass else s.carried? other := by
  by_cases h : other = carrier
  · simp [carried?, attach, h]
  · have hne : (other == carrier) = false := by simpa using h
    simp [carried?, attach, List.lookup_cons, hne, h]

theorem eigenclass?_attach_of_ne (s : Store) (eigenclass : ClassRef) {carrier : Carrier}
    {value : Value} (hne : value ≠ carrier.toValue) :
    (s.attach carrier eigenclass).eigenclass? value = s.eigenclass? value := by
  rw [eigenclass?, eigenclass?]
  cases hother : value.carrier? with
  | none => rfl
  | some other =>
    have hne' : other ≠ carrier := by
      rintro rfl
      exact hne (Value.carrier?_eq_some.1 hother)
    rw [Option.bind_some, Option.bind_some, carried?_attach, if_neg hne']

end Store

end ObjectModel
