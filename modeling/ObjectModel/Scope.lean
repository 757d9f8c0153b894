import ObjectModel.Store

/-!
# Scopes

A scope binds names to values and lies inside another scope, or in none.  A name means what the
nearest scope outward binds it to.  Scopes are shared: a function that was made in a scope sees
every later change to it.

The scope around a scope is fixed when the inner one is made, so it is always older; the walk
outward goes by that, and ends.

## Main definitions

* `Store.scopeChain` — a scope and the scopes around it.
* `Store.valueOf?` — what a name means in a scope.
* `Store.assign` — a change to the nearest binding of a name.

## Main results

* `Store.scopeChain_of_parent`, `Store.scopeChain_of_outermost` — the two steps of the walk.
* `Store.localValue?_setVar`, `Store.parentScope?_setVar` — what a binding changes.
-/

namespace ObjectModel.Store

/-- The scope around a scope. -/
def parentScope? (s : Store) (scope : ScopeRef) : Option ScopeRef := (s.scopes.read scope).parent?

/-- What a scope itself binds a name to. -/
def localValue? (s : Store) (scope : ScopeRef) (name : String) : Option Value :=
  (s.scopes.read scope).bindings.get? name

/-- Whether a scope itself binds a name. -/
def binds (s : Store) (scope : ScopeRef) (name : String) : Bool :=
  (s.localValue? scope name).isSome

/-- The names that a scope itself binds, in ascending order. -/
def boundNames (s : Store) (scope : ScopeRef) : List String := (s.scopes.read scope).bindings.names

/-- A scope followed by the scopes around it, innermost first. -/
def scopeChain (s : Store) (scope : ScopeRef) : List ScopeRef :=
  scope :: match s.parentScope? scope with
    | some parent => if _older : parent.index < scope.index then s.scopeChain parent else []
    | none => []
termination_by scope.index

theorem scopeChain_of_parent {s : Store} {scope parent : ScopeRef}
    (h : s.parentScope? scope = some parent) (older : parent.index < scope.index) :
    s.scopeChain scope = scope :: s.scopeChain parent := by
  rw [scopeChain, h]
  simp [older]

theorem scopeChain_of_outermost {s : Store} {scope : ScopeRef} (h : s.parentScope? scope = none) :
    s.scopeChain scope = [scope] := by
  rw [scopeChain, h]

/-- The scopes around a scope depend on nothing but the links outward. -/
theorem scopeChain_congr {s t : Store} (h : ∀ scope, t.parentScope? scope = s.parentScope? scope)
    (scope : ScopeRef) : t.scopeChain scope = s.scopeChain scope := by
  fun_induction scopeChain s scope with
  | case1 scope ih =>
    rw [scopeChain, h]
    cases hparent : s.parentScope? scope with
    | none => rfl
    | some parent =>
      by_cases older : parent.index < scope.index
      · simp [older, ih parent older]
      · simp [older]

/-- What a name means in a scope: what the nearest scope outward binds it to. -/
def valueOf? (s : Store) (scope : ScopeRef) (name : String) : Option Value :=
  (s.scopeChain scope).findSome? fun outer => s.localValue? outer name

/-- The nearest scope outward that binds a name, and the scope itself if there is none. -/
def assignee (s : Store) (scope : ScopeRef) (name : String) : ScopeRef :=
  ((s.scopeChain scope).find? fun outer => s.binds outer name).getD scope

/-- Rebinds a name where it is bound, or binds it here if it is bound nowhere. -/
def assign (s : Store) (scope : ScopeRef) (name : String) (value : Value) : Store :=
  s.setVar (s.assignee scope name) name value

/-- The current receiver: what the name `self` means, and `nil` outside every method. -/
def selfValue (s : Store) (scope : ScopeRef) : Value := (s.valueOf? scope "self").getD .nil

/-- A binding changes what one scope itself binds one name to. -/
theorem localValue?_setVar (s : Store) {scope : ScopeRef} (name : String) (value : Value)
    (h : scope.index < s.scopes.size) (other : ScopeRef) (key : String) :
    (s.setVar scope name value).localValue? other key =
      if other = scope ∧ key = name then some value else s.localValue? other key := by
  by_cases heq : other = scope
  · subst heq
    have hread : (s.setVar other name value).scopes.read other = _ :=
      s.scopes.read_modify_self _ h
    rw [localValue?, hread, NameTable.get?_insert]
    simp [localValue?]
  · have hread : (s.setVar scope name value).scopes.read other = s.scopes.read other :=
      s.scopes.read_modify_of_ne _ heq
    rw [localValue?, hread, if_neg fun h => heq h.1]
    rfl

/-- A binding moves no scope. -/
theorem parentScope?_setVar (s : Store) (scope : ScopeRef) (name : String) (value : Value)
    (other : ScopeRef) : (s.setVar scope name value).parentScope? other = s.parentScope? other := by
  have hget := s.scopes.get?_modify scope other fun cell =>
    { cell with bindings := cell.bindings.insert name value }
  unfold parentScope? Cells.read
  rw [show (s.setVar scope name value).scopes.get? other = _ from hget]
  by_cases heq : other = scope
  · rw [if_pos heq, heq]
    cases s.scopes.get? scope <;> rfl
  · rw [if_neg heq]

/-- Binds several names in a scope, one after the other. -/
def setVars (s : Store) (scope : ScopeRef) (bindings : List (String × Value)) : Store :=
  bindings.foldl (fun s (name, value) => s.setVar scope name value) s

end ObjectModel.Store
