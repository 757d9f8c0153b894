import ObjectModel.Expr.Render
import ObjectModel.Store
import ObjectModel.Value.Path

/-!
# Written form of values

Every value has a text for people to read.  Strings are quoted, symbols have their colon, objects
show their birth class, functions show their source, and an early return reads like the value
it carries.  Arrays show their elements.  As an array may contain itself, an array that is met
again on the way down to one of its own elements is cut short as `[...]`; met again elsewhere it
is shown in full.

## Main definitions

* `Closure.inspect` — the text of a function.
* `Store.inspectFrom`, `Store.inspect` — the text of a value, inside some arrays and on its own.

## Main results

* `Store.inspectFrom_array` — the rule for arrays, for every store.
-/

namespace ObjectModel

/-- The source text of a function. -/
def Closure.inspect (closure : Closure) : String :=
  "fn(" ++ commaSeparated closure.params ++ ") \x7b\n" ++ Block.render closure.body ++ "\n\x7d"

namespace Store

/-- The text of a value that stands inside the arrays of `path`, innermost first. -/
def inspectFrom (s : Store) (path : List ArrayRef) (value : Value) : String :=
  match value with
  | .nil => "nil"
  | .bool b => if b then "true" else "false"
  | .int n => n.toInt.repr
  | .symbol name => ":" ++ name
  | .string ref => Quoted.quote (s.text ref)
  | .array ref =>
    if _seen : ref ∈ path then "[...]"
    else if _known : ref.index < s.arrays.size then
      "[" ++ commaSeparated ((s.elements ref).map fun v => s.inspectFrom (ref :: path) v) ++ "]"
    else "[]"
  | .object ref => "#<" ++ s.className (s.objects.read ref).cls ++ ">"
  | .exception ref =>
    "#<" ++ s.className (s.exceptions.read ref).cls ++ ": " ++ (s.exceptions.read ref).message
      ++ ">"
  | .cls c => s.className c
  | .function closure => closure.inspect
  | .builtin _ _ => "builtin function"
  | .pending _ payload => s.inspectFrom path payload
  | .fault fault => fault.inspect
termination_by (unvisited s.arrays.refs path, sizeOf value)
decreasing_by
  · exact Prod.Lex.left _ _ (unvisited_cons_lt ((s.arrays.mem_refs ref).2 _known) _seen)
  · exact Prod.Lex.right _ (by rw [Value.pending.sizeOf_spec]; omega)

/-- The text of a value. -/
def inspect (s : Store) (value : Value) : String := s.inspectFrom [] value

/-- An array shows its elements, unless it stands inside itself. -/
theorem inspectFrom_array (s : Store) (path : List ArrayRef) (ref : ArrayRef) :
    s.inspectFrom path (.array ref) =
      if ref ∈ path then "[...]"
      else "[" ++ commaSeparated ((s.elements ref).map (s.inspectFrom (ref :: path))) ++ "]" := by
  rw [inspectFrom]
  split
  · rfl
  · split
    · rfl
    · next h => simp [elements_of_size_le (Nat.not_lt.1 h), commaSeparated]

@[simp] theorem inspectFrom_pending (s : Store) (path : List ArrayRef) (serial : Nat)
    (value : Value) : s.inspectFrom path (.pending serial value) = s.inspectFrom path value := by
  rw [inspectFrom]

/-- The form that names the category of a value as well. -/
def debug (s : Store) (value : Value) : String :=
  (s.tagOf value).name ++ "(" ++ s.inspect value ++ ")"

end Store

end ObjectModel
