import ObjectModel.Class.Eigenclass
import ObjectModel.Proofs.Held

/-!
# Growth of a store

Nothing is ever taken out of a store, and most of what is in it never changes.  A class keeps all
but its method table, an object its class and its tag, a scope the scope around it, an array the
elements that it has; tables lose no name; and an object keeps its eigenclass.  `Store.Grows` is
the order that says so.  Every write goes up in it.

## Main definitions

* `Cells.Extends` — every cell is still there, with contents that are related to the old ones.
* `Store.Grows` — the order of stores.

## Main results

* `Store.Grows.refl`, `Store.Grows.trans` — it is an order.
* `Store.grows_newObject`, `Store.grows_defineMethod` and the like — every write goes up.
* `Store.Grows.live`, `Store.Grows.birthClass?`, `Store.Grows.superclass?` — what therefore stays.
-/

namespace ObjectModel

/-! ### Cells -/

/-- Every cell of `a` is a cell of `b`, and its contents there are `R`-related to those in `a`. -/
def Cells.Extends {kind : CellKind} {α : Type} (R : α → α → Prop) (a b : Cells kind α) : Prop :=
  ∀ ⦃ref : Ref kind⦄ ⦃x : α⦄, a.get? ref = some x → ∃ y, b.get? ref = some y ∧ R x y

namespace Cells.Extends

variable {kind : CellKind} {α : Type} {R : α → α → Prop} {a b c : Cells kind α}

theorem refl (hR : ∀ x, R x x) (a : Cells kind α) : a.Extends R a :=
  fun _ x h => ⟨x, h, hR x⟩

theorem trans (hR : ∀ {x y z}, R x y → R y z → R x z) (hab : a.Extends R b)
    (hbc : b.Extends R c) : a.Extends R c := by
  intro ref x hx
  obtain ⟨y, hy, hxy⟩ := hab hx
  obtain ⟨z, hz, hyz⟩ := hbc hy
  exact ⟨z, hz, hR hxy hyz⟩

theorem add (hR : ∀ x, R x x) (a : Cells kind α) (new : α) : a.Extends R (a.add new) := by
  intro ref x hx
  refine ⟨x, ?_, hR x⟩
  have hin : ref.index < a.size := (a.get?_isSome ref).1 (by rw [hx]; rfl)
  have hne : ref ≠ a.next := by
    rintro rfl
    exact Nat.lt_irrefl _ hin
  rw [a.get?_add, if_neg hne, hx]

theorem modify (hR : ∀ x, R x x) (a : Cells kind α) (target : Ref kind) {f : α → α}
    (hf : ∀ x, R x (f x)) : a.Extends R (a.modify target f) := by
  intro ref x hx
  rw [a.get?_modify]
  by_cases h : ref = target
  · subst h
    exact ⟨f x, by simp [hx], hf x⟩
  · exact ⟨x, by simp [h, hx], hR x⟩

theorem size_le (h : a.Extends R b) : a.size ≤ b.size := by
  -- otherwise the first reference beyond `b` would name a cell of `a`
  refine Nat.le_of_not_lt fun hlt => ?_
  obtain ⟨x, hx⟩ := Option.isSome_iff_exists.1 ((a.get?_isSome ⟨b.size⟩).2 hlt)
  obtain ⟨y, hy, -⟩ := h hx
  have hnone : b.get? ⟨b.size⟩ = none := (b.get?_eq_none _).2 (Nat.le_refl _)
  rw [hnone] at hy
  cases hy

theorem read [Inhabited α] (h : a.Extends R b) {ref : Ref kind} (hin : ref.index < a.size) :
    R (a.read ref) (b.read ref) := by
  obtain ⟨x, hx⟩ := Option.isSome_iff_exists.1 ((a.get?_isSome ref).2 hin)
  obtain ⟨y, hy, hxy⟩ := h hx
  simpa [Cells.read, hx, hy] using hxy

end Cells.Extends

/-! ### Contents -/

/-- Every name of one table is a name of the other. -/
def NameTable.KeepsNames {α : Type} (a b : NameTable α) : Prop :=
  ∀ ⦃name : String⦄, (a.get? name).isSome → (b.get? name).isSome

theorem NameTable.keepsNames_insert {α : Type} (table : NameTable α) (name : String) (value : α) :
    table.KeepsNames (table.insert name value) := by
  intro other h
  rw [get?_insert]
  split
  · rfl
  · exact h

/-- A class keeps all but its methods, and of these the names. -/
structure ClassCell.Grows (a b : ClassCell) : Prop where
  name : b.name = a.name
  kind : b.kind = a.kind
  tag : b.tag = a.tag
  layout? : b.layout? = a.layout?
  superclass? : b.superclass? = a.superclass?
  methods : a.methods.KeepsNames b.methods

theorem ClassCell.Grows.refl (a : ClassCell) : a.Grows a := ⟨rfl, rfl, rfl, rfl, rfl, fun _ => id⟩

theorem ClassCell.Grows.trans {a b c : ClassCell} (h : a.Grows b) (h' : b.Grows c) : a.Grows c :=
  ⟨h'.name.trans h.name, h'.kind.trans h.kind, h'.tag.trans h.tag, h'.layout?.trans h.layout?,
    h'.superclass?.trans h.superclass?, fun _ hn => h'.methods (h.methods hn)⟩

/-- An object keeps its class, its tag and the names of its instance variables. -/
structure ObjectCell.Grows (a b : ObjectCell) : Prop where
  cls : b.cls = a.cls
  tag : b.tag = a.tag
  ivars : a.ivars.KeepsNames b.ivars

theorem ObjectCell.Grows.refl (a : ObjectCell) : a.Grows a := ⟨rfl, rfl, fun _ => id⟩

theorem ObjectCell.Grows.trans {a b c : ObjectCell} (h : a.Grows b) (h' : b.Grows c) :
    a.Grows c :=
  ⟨h'.cls.trans h.cls, h'.tag.trans h.tag, fun _ hn => h'.ivars (h.ivars hn)⟩

/-- A scope keeps the scope around it and the names that it binds. -/
structure ScopeCell.Grows (a b : ScopeCell) : Prop where
  parent? : b.parent? = a.parent?
  bindings : a.bindings.KeepsNames b.bindings

theorem ScopeCell.Grows.refl (a : ScopeCell) : a.Grows a := ⟨rfl, fun _ => id⟩

theorem ScopeCell.Grows.trans {a b c : ScopeCell} (h : a.Grows b) (h' : b.Grows c) : a.Grows c :=
  ⟨h'.parent?.trans h.parent?, fun _ hn => h'.bindings (h.bindings hn)⟩

namespace Store

/-! ### Stores -/

/-- What one store may become later. -/
structure Grows (s t : Store) : Prop where
  classes : s.classes.Extends ClassCell.Grows t.classes
  strings : s.strings.Extends Eq t.strings
  arrays : s.arrays.Extends List.IsPrefix t.arrays
  objects : s.objects.Extends ObjectCell.Grows t.objects
  exceptions : s.exceptions.Extends Eq t.exceptions
  scopes : s.scopes.Extends ScopeCell.Grows t.scopes
  carried : ∀ ⦃carrier : Carrier⦄ ⦃c : ClassRef⦄,
    s.carried? carrier = some c → t.carried? carrier = some c

theorem Grows.refl (s : Store) : s.Grows s where
  classes := .refl ClassCell.Grows.refl _
  strings := .refl (fun _ => rfl) _
  arrays := .refl List.prefix_refl _
  objects := .refl ObjectCell.Grows.refl _
  exceptions := .refl (fun _ => rfl) _
  scopes := .refl ScopeCell.Grows.refl _
  carried := fun _ _ => id

theorem Grows.trans {s t u : Store} (h : s.Grows t) (h' : t.Grows u) : s.Grows u where
  classes := h.classes.trans .trans h'.classes
  strings := h.strings.trans .trans h'.strings
  arrays := h.arrays.trans .trans h'.arrays
  objects := h.objects.trans .trans h'.objects
  exceptions := h.exceptions.trans .trans h'.exceptions
  scopes := h.scopes.trans .trans h'.scopes
  carried := fun _ _ hc => h'.carried (h.carried hc)

/-! ### Writes go up -/

theorem grows_newString (s : Store) (text : String) : s.Grows (s.newString text).2 :=
  { Grows.refl s with strings := .add (fun _ => rfl) _ _ }

theorem grows_newArray (s : Store) (elements : List Value) : s.Grows (s.newArray elements).2 :=
  { Grows.refl s with arrays := .add List.prefix_refl _ _ }

theorem grows_push (s : Store) (ref : ArrayRef) (value : Value) : s.Grows (s.push ref value) :=
  { Grows.refl s with
    arrays := .modify List.prefix_refl _ _ fun elements => List.prefix_append elements [value] }

theorem grows_newObject (s : Store) (c : ClassRef) (tag : Tag) : s.Grows (s.newObject c tag).2 :=
  { Grows.refl s with objects := .add ObjectCell.Grows.refl _ _ }

theorem grows_setIvar (s : Store) (ref : ObjectRef) (name : String) (value : Value) :
    s.Grows (s.setIvar ref name value) :=
  { Grows.refl s with
    objects := .modify ObjectCell.Grows.refl _ _ fun cell =>
      ⟨rfl, rfl, cell.ivars.keepsNames_insert name value⟩ }

theorem grows_newException (s : Store) (c : ClassRef) (message : String) :
    s.Grows (s.newException c message).2 :=
  { Grows.refl s with exceptions := .add (fun _ => rfl) _ _ }

theorem grows_newScope (s : Store) (parent? : Option ScopeRef) : s.Grows (s.newScope parent?).2 :=
  { Grows.refl s with scopes := .add ScopeCell.Grows.refl _ _ }

theorem grows_setVar (s : Store) (scope : ScopeRef) (name : String) (value : Value) :
    s.Grows (s.setVar scope name value) :=
  { Grows.refl s with
    scopes := .modify ScopeCell.Grows.refl _ _ fun cell =>
      ⟨rfl, cell.bindings.keepsNames_insert name value⟩ }

theorem grows_newPending (s : Store) (payload : Value) : s.Grows (s.newPending payload).2 :=
  { Grows.refl s with }

theorem grows_newClosure (s : Store) (params : List String) (body : Block) (scope : ScopeRef) :
    s.Grows (s.newClosure params body scope).2 :=
  { Grows.refl s with }

theorem grows_addClass (s : Store) (cell : ClassCell) : s.Grows (s.addClass cell).2 :=
  { Grows.refl s with classes := .add ClassCell.Grows.refl _ _ }

theorem grows_defineMethod (s : Store) (c : ClassRef) (name : String) (method : Method) :
    s.Grows (s.defineMethod c name method) :=
  { Grows.refl s with
    classes := .modify ClassCell.Grows.refl _ _ fun cell =>
      ⟨rfl, rfl, rfl, rfl, rfl, cell.methods.keepsNames_insert name method⟩ }

/-- An eigenclass is attached to an object that has none. -/
theorem grows_attach {s : Store} {carrier : Carrier} (eigenclass : ClassRef)
    (h : s.carried? carrier = none) : s.Grows (s.attach carrier eigenclass) :=
  { Grows.refl s with
    carried := by
      intro other c hc
      rw [carried?_attach, if_neg, hc]
      rintro rfl
      rw [h] at hc
      cases hc }

/-! ### What stays -/

variable {s t : Store}

theorem Grows.live (h : s.Grows t) {value : Value} (hv : s.Live value) : t.Live value := by
  induction value with
  | string => exact Nat.lt_of_lt_of_le hv h.strings.size_le
  | array => exact Nat.lt_of_lt_of_le hv h.arrays.size_le
  | object => exact Nat.lt_of_lt_of_le hv h.objects.size_le
  | exception => exact Nat.lt_of_lt_of_le hv h.exceptions.size_le
  | cls => exact Nat.lt_of_lt_of_le hv h.classes.size_le
  | function => exact Nat.lt_of_lt_of_le hv h.scopes.size_le
  | pending _ _ ih => exact ih hv
  | _ => trivial

theorem Grows.liveMethod (h : s.Grows t) {method : Method} (hm : s.LiveMethod method) :
    t.LiveMethod method := by
  cases method with
  | native => trivial
  | user => exact Nat.lt_of_lt_of_le hm h.scopes.size_le

/-- The birth class of a value never changes. -/
theorem Grows.birthClass? (h : s.Grows t) {core : Core} {value : Value} {c : ClassRef}
    (hc : s.birthClass? core value = some c) : t.birthClass? core value = some c := by
  induction value with
  | object ref =>
    obtain ⟨cell, hcell, rfl⟩ := Option.map_eq_some_iff.1 hc
    obtain ⟨cell', hcell', hgrows⟩ := h.objects hcell
    rw [Store.birthClass?, hcell', Option.map_some, hgrows.cls]
  | exception ref =>
    obtain ⟨cell, hcell, rfl⟩ := Option.map_eq_some_iff.1 hc
    obtain ⟨cell', hcell', rfl⟩ := h.exceptions hcell
    rw [Store.birthClass?, hcell', Option.map_some]
  | cls ref =>
    obtain ⟨cell, hcell, rfl⟩ := Option.map_eq_some_iff.1 hc
    obtain ⟨cell', hcell', hgrows⟩ := h.classes hcell
    rw [Store.birthClass?, hcell', Option.map_some, Core.metaclass, Core.metaclass, hgrows.kind]
  | pending _ _ ih => exact ih hc
  | bool b => cases b <;> exact hc
  | _ => exact hc

/-- The superclass of a class never changes. -/
theorem Grows.superclass? (h : s.Grows t) {c : ClassRef} (hc : c.index < s.classes.size) :
    t.superclass? c = s.superclass? c :=
  (h.classes.read hc).superclass?

theorem Grows.kind (h : s.Grows t) {c : ClassRef} (hc : c.index < s.classes.size) :
    (t.classes.read c).kind = (s.classes.read c).kind :=
  (h.classes.read hc).kind

end Store

end ObjectModel
