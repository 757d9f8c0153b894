import ObjectModel.Class.Core
import ObjectModel.Store

/-!
# The built-in hierarchy

The classes that every program starts with, and the native methods that they start with.

```text
BasicObject
└── Object
    ├── Module
    │   └── Class
    ├── Integer, String, Symbol, Array
    ├── TrueClass, FalseClass, NilClass
    └── Exception
```

Integers, strings, symbols, arrays, truth values, `nil`, modules and classes are not made by
allocation, so their classes have no instance layout.

## Main definitions

* `Store.addCoreClass` — one class of the hierarchy.
* `Store.addCoreClasses` — all of them, without methods.
* `Kernel.methods` — which kernel method goes to which class.
* `Store.bootstrap` — adds a whole hierarchy, unrelated to any other in the store.
-/

namespace ObjectModel

/-- The kernel methods with the classes on which they are installed. -/
def Kernel.methods (core : Core) : List (ClassRef × KernelMethod) :=
  [(core.basicObject, .setUp), (core.basicObject, .equal), (core.basicObject, .identical),
    (core.object, .classOf), (core.object, .inspect), (core.object, .respondTo),
    (core.object, .singletonClass), (core.object, .singletonMethods),
    (core.module, .moduleName), (core.module, .instanceMethods),
    (core.cls, .new), (core.cls, .superclass), (core.exception, .message)]

namespace Store

/-- Adds a class of the built-in hierarchy. -/
def addCoreClass (s : Store) (name : String) (tag : Tag) (superclass? : Option ClassRef)
    (layout? : Option Layout) : ClassRef × Store :=
  s.addClass
    { name := name, kind := .plain, tag := tag, layout? := layout?, superclass? := superclass?,
      methods := ∅ }

/-- Installs a kernel method on a class, under its own name. -/
def installKernelMethod (s : Store) (entry : ClassRef × KernelMethod) : Store :=
  s.defineMethod entry.1 entry.2.name (.native (.kernel entry.1 entry.2))

/-- Adds the classes of the built-in hierarchy, without methods. -/
def addCoreClasses (s : Store) : Core × Store :=
  let (basicObject, s) := s.addCoreClass "BasicObject" .basicObjectClass none (some .basicObject)
  let (object, s) := s.addCoreClass "Object" .objectClass (some basicObject) (some .object)
  let (module, s) := s.addCoreClass "Module" .moduleClass (some object) none
  let (cls, s) := s.addCoreClass "Class" .clsClass (some module) none
  let (integer, s) := s.addCoreClass "Integer" .integerClass (some object) none
  let (string, s) := s.addCoreClass "String" .stringClass (some object) none
  let (symbol, s) := s.addCoreClass "Symbol" .cls (some object) none
  let (array, s) := s.addCoreClass "Array" .arrayClass (some object) none
  let (trueClass, s) := s.addCoreClass "TrueClass" .booleanClass (some object) none
  let (falseClass, s) := s.addCoreClass "FalseClass" .booleanClass (some object) none
  let (nilClass, s) := s.addCoreClass "NilClass" .nilClass (some object) none
  let (exception, s) :=
    s.addCoreClass "Exception" .exceptionClass (some object) (some .exception)
  ({ basicObject, object, module, cls, integer, string, symbol, array, trueClass, falseClass,
      nilClass, exception }, s)

/-- Adds the built-in hierarchy with its native methods. -/
def bootstrap (s : Store) : Core × Store :=
  let (core, s) := s.addCoreClasses
  (core, (Kernel.methods core).foldl installKernelMethod s)

end Store

end ObjectModel
