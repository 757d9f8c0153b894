import ObjectModel.Run.Outcome
import ObjectModel.Scope

/-!
# Diagnostic forms

Forms for whoever debugs an object system and not a program in it.  Where `inspect` shows a value,
these show what is kept about it: the eigenclass slot of an object, the names of a scope without
their values, the implementation of a method.  Records are written with the names of their fields,
and texts in them are quoted.

## Main definitions

* `Diagnostics.ofClass`, `Diagnostics.ofMethod`, `Diagnostics.ofClosure`, `Diagnostics.ofFault`,
  `Diagnostics.ofScope`, `Diagnostics.ofOutcome` — one form per kind of thing.
* `Diagnostics.layout?` — the form of a value that is kept in a cell.
-/

namespace ObjectModel.Diagnostics

open Quoted

/-- A record: its name, and its fields with their names. -/
def record (name : String) (fields : List (String × String)) : String :=
  let written := fields.map fun (field, text) => field ++ ": " ++ text
  name ++ " \x7b " ++ commaSeparated written ++ " \x7d"

/-- A list in brackets. -/
def bracketed (parts : List String) : String := "[" ++ commaSeparated parts ++ "]"

/-- A class, by its name. -/
def ofClass (s : Store) (c : ClassRef) : String := "ClassRef(" ++ quote (s.className c) ++ ")"

/-- A fault, by its message. -/
def ofFault (fault : Fault) : String := record "ErrorValue" [("message", quote fault.message)]

/-- An arity. -/
def ofArity : Arity → String
  | .exact count => "Exact(" ++ toString count ++ ")"
  | .any => "Any"

/-- A method: the name and arity of a native one, the source of a user-defined one. -/
def ofMethod : Method → String
  | .native n => "Native(" ++ n.name ++ "/" ++ ofArity n.arity ++ ")"
  | .user closure => "User(" ++ closure.inspect ++ ")"

/-- A function, whose scope is left out. -/
def ofClosure (closure : Closure) : String :=
  let params := closure.params.map fun name => record "Identifier" [("value", quote name)]
  "Function \x7b parameters: " ++ bracketed params ++ ", body: "
    ++ quote (Block.render closure.body) ++ ", .. \x7d"

/-- A scope: the names that it binds, and whether there is a scope around it. -/
def ofScope (s : Store) (scope : ScopeRef) : String :=
  record "Environment"
    [("bindings", bracketed ((s.boundNames scope).map quote)),
      ("has_parent", if (s.parentScope? scope).isSome then "true" else "false")]

/-- An outcome. -/
def ofOutcome (s : Store) : Outcome → String
  | .ok value => "Normal(" ++ s.debug value ++ ")"
  | .error (.ret value) => "Return(" ++ s.debug value ++ ")"
  | .error (.fault fault) => "Error(" ++ ofFault fault ++ ")"

/-- The place for an eigenclass in an object. -/
def slot (s : Store) (carrier : Carrier) : String :=
  match s.carried? carrier with
  | some eigenclass => "SingletonSlot(" ++ s.className eigenclass ++ ")"
  | none => "SingletonSlot(empty)"

/-- Contents that may change. -/
def mutable (text : String) : String := record "RefCell" [("value", text)]

/-- The form of the instance variables of an object. -/
def ofIvars (s : Store) (ivars : NameTable Value) : String :=
  let written := ivars.entries.map fun (name, value) => quote name ++ ": " ++ s.debug value
  "\x7b" ++ commaSeparated written ++ "\x7d"

/-- What is kept about a value.  There is no form for what is kept nowhere but in the value, nor
for an object with several instance variables, which have no order. -/
def layout? (s : Store) : Value → Option String
  | .string ref =>
    some (record "RString" [("value", quote (s.text ref)), ("singleton", slot s (.string ref))])
  | .array ref =>
    some (record "RArray"
      [("elements", mutable (bracketed ((s.elements ref).map s.debug))),
        ("singleton", slot s (.array ref))])
  | .object ref =>
    let cell := s.objects.read ref
    let tag := if cell.tag = .basicObject then "BasicObject" else "Object"
    if cell.ivars.size ≤ 1 then
      some (record "RObject"
        [("tag", tag), ("class", ofClass s cell.cls), ("ivars", mutable (ofIvars s cell.ivars)),
          ("singleton", slot s (.object ref))])
    else none
  | .exception ref =>
    let cell := s.exceptions.read ref
    some (record "RException"
      [("class", ofClass s cell.cls), ("message", quote cell.message),
        ("singleton", slot s (.exception ref))])
  | .symbol name => some (quote name)
  | .cls c => some (ofClass s c)
  | .builtin _ name => some (name ++ " Builtin(" ++ name ++ ")")
  | .fault fault => some (fault.inspect ++ " " ++ ofFault fault)
  | _ => none

end ObjectModel.Diagnostics
