/-!
# Categories of values

Three closed enumerations that the rest of the library only compares and prints.  A `Tag` is the
runtime category that a value reports and that diagnostics show.  Most categories that denote a
class come in two flavours, the tag of an instance (`INTEGER`) and the tag of the class-object
that stands for the category (`INTEGER_CLASS`).  A `ClassKind` tells the three sorts of
class-objects apart, and a `Layout` says what is allocated for an instance of a class.

## Main definitions

* `Tag`, `Tag.all`, `Tag.name` — the categories, their fixed order and their names.
* `Tag.counterpart?` — the class-object counterpart of an instance tag.
* `Tag.marksClassObject`, `Tag.marksClassless` — the two category checks.
* `ClassKind`, `Layout` — sorts of class-objects, and of instances.
-/

namespace ObjectModel

/-- The runtime category of a value.  Tags are stable for the life of a value and are meant for
category checks and diagnostics, never for method lookup. -/
inductive Tag where
  | eigenclass
  | function
  | returnValue
  | basicObject
  | basicObjectClass
  | object
  | objectClass
  | cls
  | clsClass
  | array
  | arrayClass
  | integer
  | integerClass
  | string
  | stringClass
  | symbol
  | boolean
  | booleanClass
  | nil
  | nilClass
  | error
  | exception
  | exceptionClass
  | module
  | moduleClass
  | builtin
  deriving DecidableEq, Repr, Inhabited

namespace Tag

/-- Every tag, in declaration order. -/
def all : List Tag :=
  [eigenclass, function, returnValue, basicObject, basicObjectClass, object, objectClass, cls,
    clsClass, array, arrayClass, integer, integerClass, string, stringClass, symbol, boolean,
    booleanClass, nil, nilClass, error, exception, exceptionClass, module, moduleClass, builtin]

/-- The upper-snake-case name shown in diagnostics. -/
def name : Tag → String
  | eigenclass => "EIGENCLASS"
  | function => "FUNCTION"
  | returnValue => "RETURN_VALUE"
  | basicObject => "BASIC_OBJECT"
  | basicObjectClass => "BASIC_OBJECT_CLASS"
  | object => "OBJECT"
  | objectClass => "OBJECT_CLASS"
  | cls => "CLASS"
  | clsClass => "CLASS_CLASS"
  | array => "ARRAY"
  | arrayClass => "ARRAY_CLASS"
  | integer => "INTEGER"
  | integerClass => "INTEGER_CLASS"
  | string => "STRING"
  | stringClass => "STRING_CLASS"
  | symbol => "SYMBOL"
  | boolean => "BOOLEAN"
  | booleanClass => "BOOLEAN_CLASS"
  | nil => "NIL"
  | nilClass => "NIL_CLASS"
  | error => "ERROR"
  | exception => "EXCEPTION"
  | exceptionClass => "EXCEPTION_CLASS"
  | module => "MODULE"
  | moduleClass => "MODULE_CLASS"
  | builtin => "BUILTIN"

/-- The tag with the given name. -/
def ofName? (name : String) : Option Tag :=
  all.find? fun tag => tag.name == name

/-- The tag of the class-object that stands for a category, if the category denotes a class.
Symbols denote a class too, but their class-object carries the plain tag `cls`. -/
def counterpart? : Tag → Option Tag
  | basicObject => some basicObjectClass
  | object => some objectClass
  | cls => some clsClass
  | array => some arrayClass
  | integer => some integerClass
  | string => some stringClass
  | boolean => some booleanClass
  | nil => some nilClass
  | exception => some exceptionClass
  | module => some moduleClass
  | _ => none

/-- Whether a value with this tag is itself a class-object. -/
def marksClassObject : Tag → Bool
  | eigenclass | cls | module | basicObjectClass | objectClass | clsClass | arrayClass
  | integerClass | stringClass | booleanClass | nilClass | exceptionClass | moduleClass => true
  | _ => false

/-- Whether values with this tag never belong to a class. -/
def marksClassless : Tag → Bool
  | function | builtin | error => true
  | _ => false

theorem mem_all (tag : Tag) : tag ∈ all := by cases tag <;> decide

end Tag

/-- The sort of a class-object. -/
inductive ClassKind where
  /-- A named class, with a place in the subclass forest. -/
  | plain
  /-- A container of methods outside the subclass forest. -/
  | module
  /-- The private class of one object, never named and never instantiated. -/
  | eigenclass
  deriving DecidableEq, Repr, Inhabited

/-- The word for a sort of class-object in messages. -/
def ClassKind.word : ClassKind → String
  | plain => "class"
  | module => "module"
  | eigenclass => "eigenclass"

/-- What is allocated for an instance of a class. -/
inductive Layout where
  | basicObject
  | object
  | exception
  deriving DecidableEq, Repr, Inhabited

/-- The name of a layout in diagnostics. -/
def Layout.name : Layout → String
  | basicObject => "BasicObject"
  | object => "Object"
  | exception => "Exception"

end ObjectModel
