import ObjectModel.Expr
import ObjectModel.Fault
import ObjectModel.Store.Cells

/-!
# Values

The closed set of everything that a program can hold.  Immediates are their own contents.
Strings, arrays, objects, exceptions and classes are references to cells, so copying such a value
never copies what it refers to.  Functions and host functions are immutable and belong to no
class.  Two forms are not results but events on their way to somebody: a value that an early
return carries to the nearest call boundary, and a fault.

A function and an early return carry the serial number that they got when they came to be, which
keeps two of them apart whose contents agree.

## Main definitions

* `Closure`, `Value` — functions, and values of every sort.
* `Value.payload` — a value without the early returns around it.
* `Value.identical` — identity.
* `Carrier`, `Value.carrier?` — the values that can carry methods of their own.
-/

namespace ObjectModel

/-- A user-defined function: parameters, a body, and the scope in which it was made. -/
structure Closure where
  serial : Nat
  params : List String
  body : Block
  scope : ScopeRef
  deriving DecidableEq

/-- The number of arguments that a function takes. -/
def Closure.arity (closure : Closure) : Nat := closure.params.length

/-- A value of the running program. -/
inductive Value where
  | nil
  | bool (value : Bool)
  | int (value : Int64)
  | symbol (name : String)
  | string (ref : StringRef)
  | array (ref : ArrayRef)
  /-- An instance of `BasicObject`, `Object` or a class below them without a form of its own. -/
  | object (ref : ObjectRef)
  | exception (ref : ExceptionRef)
  /-- A class, a module or an eigenclass, used as a value. -/
  | cls (ref : ClassRef)
  | function (closure : Closure)
  /-- A function of the host, known by its entry in the host's table. -/
  | builtin (entry : Nat) (name : String)
  /-- An early return on its way to the nearest call boundary, with the value it returns. -/
  | pending (serial : Nat) (payload : Value)
  /-- A failure on its way out. -/
  | fault (fault : Fault)
  deriving DecidableEq

namespace Value

instance : Inhabited Value := ⟨nil⟩

/-! ### Sorts of values -/

/-- Everything except `nil` and `false` counts as true. -/
def truthy : Value → Bool
  | nil | bool false => false
  | _ => true

def isNil : Value → Bool
  | nil => true
  | _ => false

def isFault : Value → Bool
  | fault _ => true
  | _ => false

def isPending : Value → Bool
  | pending _ _ => true
  | _ => false

/-- Whether a value is an event in flight rather than a result. -/
def inFlight (value : Value) : Bool := value.isPending || value.isFault

def fault? : Value → Option Fault
  | fault f => some f
  | _ => none

def int? : Value → Option Int64
  | int n => some n
  | _ => none

def symbol? : Value → Option String
  | symbol name => some name
  | _ => none

def array? : Value → Option ArrayRef
  | array ref => some ref
  | _ => none

def object? : Value → Option ObjectRef
  | object ref => some ref
  | _ => none

def exception? : Value → Option ExceptionRef
  | exception ref => some ref
  | _ => none

def cls? : Value → Option ClassRef
  | cls ref => some ref
  | _ => none

def closure? : Value → Option Closure
  | function closure => some closure
  | _ => none

/-! ### Early returns -/

/-- The value that remains when every early return around it has arrived. -/
def payload : Value → Value
  | pending _ value => value.payload
  | value => value

@[simp] theorem payload_pending (serial : Nat) (value : Value) :
    (pending serial value).payload = value.payload := rfl

@[simp] theorem isPending_payload (value : Value) : value.payload.isPending = false := by
  induction value with
  | pending serial value ih => exact ih
  | _ => rfl

theorem payload_of_not_pending {value : Value} (h : value.isPending = false) :
    value.payload = value := by
  cases value with
  | pending => cases h
  | _ => rfl

@[simp] theorem payload_payload (value : Value) : value.payload.payload = value.payload :=
  payload_of_not_pending value.isPending_payload

/-! ### Identity -/

/-- Whether two values are the same object.  Immediates are the same when they are equal.  A fault
is not an object, and is the same as nothing, itself included. -/
def identical (a b : Value) : Bool := !a.isFault && a == b

theorem identical_iff {a b : Value} : a.identical b = true ↔ a.isFault = false ∧ a = b := by
  simp [identical]

theorem identical_comm (a b : Value) : a.identical b = b.identical a := by
  rw [Bool.eq_iff_iff, identical_iff, identical_iff]
  constructor
  · rintro ⟨h, rfl⟩
    exact ⟨h, rfl⟩
  · rintro ⟨h, rfl⟩
    exact ⟨h, rfl⟩

end Value

/-! ### Carriers -/

/-- What can carry methods of its own: an object with a cell. -/
inductive Carrier where
  | string (ref : StringRef)
  | array (ref : ArrayRef)
  | object (ref : ObjectRef)
  | exception (ref : ExceptionRef)
  | cls (ref : ClassRef)
  deriving DecidableEq, Repr

/-- The carrier as a value. -/
def Carrier.toValue : Carrier → Value
  | string ref => .string ref
  | array ref => .array ref
  | object ref => .object ref
  | exception ref => .exception ref
  | cls ref => .cls ref

/-- The object of a value that can carry methods of its own, if it is one.  An early return does
not stand for its payload here. -/
def Value.carrier? : Value → Option Carrier
  | .string ref => some (.string ref)
  | .array ref => some (.array ref)
  | .object ref => some (.object ref)
  | .exception ref => some (.exception ref)
  | .cls ref => some (.cls ref)
  | _ => none

theorem Value.carrier?_eq_some {value : Value} {carrier : Carrier} :
    value.carrier? = some carrier ↔ value = carrier.toValue := by
  cases value <;> cases carrier <;> simp [Value.carrier?, Carrier.toValue]

@[simp] theorem Carrier.carrier?_toValue (carrier : Carrier) :
    carrier.toValue.carrier? = some carrier := by
  rw [Value.carrier?_eq_some]

/-- An object is no early return. -/
@[simp] theorem Carrier.payload_toValue (carrier : Carrier) :
    carrier.toValue.payload = carrier.toValue := by
  cases carrier <;> rfl

theorem Carrier.toValue_inj {a b : Carrier} : a.toValue = b.toValue ↔ a = b := by
  rw [← Value.carrier?_eq_some, Carrier.carrier?_toValue, Option.some.injEq]

end ObjectModel
