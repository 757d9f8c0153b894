import ObjectModel.Scope

/-!
# What a store holds

A store holds the elements of its arrays, the instance variables of its objects and the bindings
of its scopes.  A write can only add to them what it is given.  A value is live when everything
that it refers to is in the store.

## Main definitions

* `Store.Holds` — a value is an element, an instance variable or a binding.
* `Store.Live`, `Store.LiveMethod` — a value, or a method, refers to nothing outside the store.

## Main results

* `Store.holds_setVar`, `Store.holds_push` and the like — what a store holds after a write.
* `Store.holds_of_valueOf?` — what a name means is held.
-/

namespace ObjectModel.Store

/-- Somewhere in the store the value is kept: as an element of an array, as an instance variable
or as a binding of a scope. -/
inductive Holds (s : Store) (value : Value) : Prop
  | element {ref : ArrayRef} (h : value ∈ s.elements ref)
  | ivar {ref : ObjectRef} {name : String} (h : s.ivar? ref name = some value)
  | binding {scope : ScopeRef} {name : String} (h : s.localValue? scope name = some value)

/-- Everything that a value refers to is in the store.  A closure refers to the scope it was made
in, and an early return to what its payload refers to. -/
def Live (s : Store) : Value → Prop
  | .string ref => ref.index < s.strings.size
  | .array ref => ref.index < s.arrays.size
  | .object ref => ref.index < s.objects.size
  | .exception ref => ref.index < s.exceptions.size
  | .cls c => c.index < s.classes.size
  | .function closure => closure.scope.index < s.scopes.size
  | .pending _ payload => s.Live payload
  | .nil | .bool _ | .int _ | .symbol _ | .builtin _ _ | .fault _ => True

/-- A user-defined method refers to the scope that its function was made in. -/
def LiveMethod (s : Store) : Method → Prop
  | .user closure => closure.scope.index < s.scopes.size
  | .native _ => True

theorem live_payload {s : Store} {value : Value} : s.Live value.payload ↔ s.Live value := by
  induction value with
  | pending serial payload ih => exact ih
  | _ => exact Iff.rfl

/-- What is held depends on nothing but arrays, objects and scopes. -/
theorem Holds.of_eq {s t : Store} {value : Value} (h : t.Holds value)
    (harrays : t.arrays = s.arrays) (hobjects : t.objects = s.objects)
    (hscopes : t.scopes = s.scopes) : s.Holds value := by
  cases h with
  | @element ref h =>
    rw [elements, harrays] at h
    exact .element h
  | @ivar ref name h =>
    rw [ivar?, hobjects] at h
    exact .ivar h
  | @binding scope name h =>
    rw [localValue?, hscopes] at h
    exact .binding h

/-! ### Writes that add a cell -/

theorem holds_newArray {s : Store} {elements : List Value} {value : Value}
    (h : (s.newArray elements).2.Holds value) : value ∈ elements ∨ s.Holds value := by
  cases h with
  | @element ref h =>
    rw [elements_newArray] at h
    split at h
    · exact .inl h
    · exact .inr (.element h)
  | ivar h => exact .inr (.ivar h)
  | binding h => exact .inr (.binding h)

/-- A new object has no instance variables. -/
theorem ivar?_newObject (s : Store) (c : ClassRef) (tag : Tag) (ref : ObjectRef) (name : String) :
    (s.newObject c tag).2.ivar? ref name =
      if ref = s.objects.next then none else s.ivar? ref name := by
  have hread : (s.newObject c tag).2.objects.read ref = _ := s.objects.read_add ⟨c, tag, ∅⟩ ref
  rw [ivar?, hread]
  split <;> rfl

theorem holds_newObject {s : Store} {c : ClassRef} {tag : Tag} {value : Value}
    (h : (s.newObject c tag).2.Holds value) : s.Holds value := by
  cases h with
  | element h => exact .element h
  | @ivar ref name h =>
    rw [ivar?_newObject] at h
    split at h
    · cases h
    · exact .ivar h
  | binding h => exact .binding h

/-- A new scope binds nothing. -/
theorem localValue?_newScope (s : Store) (parent? : Option ScopeRef) (scope : ScopeRef)
    (name : String) : (s.newScope parent?).2.localValue? scope name =
      if scope = s.scopes.next then none else s.localValue? scope name := by
  have hread : (s.newScope parent?).2.scopes.read scope = _ :=
    s.scopes.read_add ⟨∅, parent?⟩ scope
  rw [localValue?, hread]
  split <;> rfl

theorem holds_newScope {s : Store} {parent? : Option ScopeRef} {value : Value}
    (h : (s.newScope parent?).2.Holds value) : s.Holds value := by
  cases h with
  | element h => exact .element h
  | ivar h => exact .ivar h
  | @binding scope name h =>
    rw [localValue?_newScope] at h
    split at h
    · cases h
    · exact .binding h

/-! ### Writes that change a cell

A write to a reference from elsewhere changes nothing. -/

theorem holds_push {s : Store} {ref : ArrayRef} {new value : Value}
    (h : (s.push ref new).Holds value) : value = new ∨ s.Holds value := by
  cases h with
  | @element other h =>
    rcases Nat.lt_or_ge ref.index s.arrays.size with hin | hout
    · rw [elements_push s new hin] at h
      split at h
      · rcases List.mem_append.1 h with h | h
        · exact .inr (.element h)
        · exact .inl (List.mem_singleton.1 h)
      · exact .inr (.element h)
    · have hsame : s.push ref new = s := by
        rw [push, Cells.modify_of_size_le _ _ hout]
      rw [hsame] at h
      exact .inr (.element h)
  | ivar h => exact .inr (.ivar h)
  | binding h => exact .inr (.binding h)

theorem holds_setIvar {s : Store} {ref : ObjectRef} {name : String} {new value : Value}
    (h : (s.setIvar ref name new).Holds value) : value = new ∨ s.Holds value := by
  cases h with
  | element h => exact .inr (.element h)
  | @ivar other key h =>
    rcases Nat.lt_or_ge ref.index s.objects.size with hin | hout
    · rw [ivar?_setIvar s name new hin] at h
      split at h
      · exact .inl (Option.some.inj h).symm
      · exact .inr (.ivar h)
    · have hsame : s.setIvar ref name new = s := by
        rw [setIvar, Cells.modify_of_size_le _ _ hout]
      rw [hsame] at h
      exact .inr (.ivar h)
  | binding h => exact .inr (.binding h)

theorem holds_setVar {s : Store} {scope : ScopeRef} {name : String} {new value : Value}
    (h : (s.setVar scope name new).Holds value) : value = new ∨ s.Holds value := by
  cases h with
  | element h => exact .inr (.element h)
  | ivar h => exact .inr (.ivar h)
  | @binding other key h =>
    rcases Nat.lt_or_ge scope.index s.scopes.size with hin | hout
    · rw [localValue?_setVar s name new hin] at h
      split at h
      · exact .inl (Option.some.inj h).symm
      · exact .inr (.binding h)
    · have hsame : s.setVar scope name new = s := by
        rw [setVar, Cells.modify_of_size_le _ _ hout]
      rw [hsame] at h
      exact .inr (.binding h)

/-- Binding several names adds nothing but what they are bound to. -/
theorem holds_setVars {s : Store} {scope : ScopeRef} {bindings : List (String × Value)}
    {value : Value} (h : (s.setVars scope bindings).Holds value) :
    (∃ binding ∈ bindings, binding.2 = value) ∨ s.Holds value := by
  induction bindings generalizing s with
  | nil => exact .inr h
  | cons binding bindings ih =>
    rcases ih h with ⟨other, hmem, heq⟩ | h
    · exact .inl ⟨other, List.mem_cons_of_mem _ hmem, heq⟩
    · rcases holds_setVar h with heq | h
      · exact .inl ⟨binding, List.mem_cons_self, heq.symm⟩
      · exact .inr h

/-- Bindings are kept apart from classes. -/
theorem classes_setVars (s : Store) (scope : ScopeRef) (bindings : List (String × Value)) :
    (s.setVars scope bindings).classes = s.classes := by
  induction bindings generalizing s with
  | nil => rfl
  | cons binding bindings ih => exact ih (s.setVar scope binding.1 binding.2)

/-! ### Reads -/

/-- What a name means is bound somewhere. -/
theorem holds_of_valueOf? {s : Store} {scope : ScopeRef} {name : String} {value : Value}
    (h : s.valueOf? scope name = some value) : s.Holds value := by
  obtain ⟨outer, -, hlocal⟩ := List.exists_of_findSome?_eq_some h
  exact .binding hlocal

end ObjectModel.Store
