import ObjectModel.Proofs.Lineage
import ObjectModel.Proofs.Step

/-!
# Sound stores

What holds of every store that operations build on the built-in hierarchy.  Superclasses are older
than their classes and plain; instances belong to plain classes with the layout for them; nothing
that is held, defined or linked to is missing; and every eigenclass was made for one object, below
the birth class of that object.

A module has no superclass, a plain class has at most a plain one, and the birth class of an
object never changes.  So an eigenclass is on the way of no lookup but that of its own object, as
long as exceptions are made of classes of exceptions only.

## Main definitions

* `Core.classes` — the core classes.
* `Store.Sound` — the invariant.

## Main results

* `Store.sound_initial`, `Step.sound`, `Steps.sound` — it holds at first and is kept.
* `Store.Sound.birthClass?_lt`, `Store.Sound.birthClass?_plain` — what birth classes are.
-/

namespace ObjectModel

/-- The core classes without their names. -/
def Core.classes (core : Core) : List ClassRef := core.all.map (·.2)

namespace Store

/-- What operations on the built-in hierarchy cannot break.  If they are not `strict`, exceptions
may belong to any class. -/
structure Sound (strict : Bool) (core : Core) (s : Store) : Prop where
  core_plain : ∀ ⦃c : ClassRef⦄, c ∈ core.classes → (s.classes.read c).kind = .plain
  layered : s.Layered
  /-- Only an eigenclass can have a superclass that is not plain. -/
  superclass_plain : ∀ ⦃c parent : ClassRef⦄, s.superclass? c = some parent →
    (s.classes.read c).kind ≠ .eigenclass → (s.classes.read parent).kind = .plain
  layout_plain : ∀ ⦃c : ClassRef⦄ ⦃layout : Layout⦄, (s.classes.read c).layout? = some layout →
    (s.classes.read c).kind = .plain
  object_layout : ∀ ⦃ref : ObjectRef⦄ ⦃cell : ObjectCell⦄, s.objects.get? ref = some cell →
    (s.classes.read cell.cls).layout?.bind Layout.objectTag? = some cell.tag
  exception_lt : ∀ ⦃ref : ExceptionRef⦄ ⦃cell : ExceptionCell⦄,
    s.exceptions.get? ref = some cell → cell.cls.index < s.classes.size
  exception_layout : strict = true → ∀ ⦃ref : ExceptionRef⦄ ⦃cell : ExceptionCell⦄,
    s.exceptions.get? ref = some cell → (s.classes.read cell.cls).layout? = some .exception
  held_live : ∀ ⦃value : Value⦄, s.Holds value → s.Live value
  method_live : ∀ ⦃c : ClassRef⦄ ⦃name : String⦄ ⦃method : Method⦄,
    s.localMethod? c name = some method → s.LiveMethod method
  parent_older : ∀ ⦃scope parent : ScopeRef⦄, s.parentScope? scope = some parent →
    parent.index < scope.index
  carrier_live : ∀ ⦃carrier : Carrier⦄ ⦃e : ClassRef⦄, s.carried? carrier = some e →
    s.Live carrier.toValue
  carrier_older : ∀ ⦃c e : ClassRef⦄, s.carried? (.cls c) = some e → c.index < e.index
  eigenclass_kind : ∀ ⦃carrier : Carrier⦄ ⦃e : ClassRef⦄, s.carried? carrier = some e →
    (s.classes.read e).kind = .eigenclass
  /-- The superclass of an eigenclass is the birth class of its object. -/
  eigenclass_superclass : ∀ ⦃carrier : Carrier⦄ ⦃e : ClassRef⦄, s.carried? carrier = some e →
    ∃ birth, s.birthClass? core carrier.toValue = some birth ∧ s.superclass? e = some birth
  /-- No two objects have one eigenclass. -/
  owner_unique : ∀ ⦃a b : Carrier⦄ ⦃e : ClassRef⦄, s.carried? a = some e →
    s.carried? b = some e → a = b

/-- What is no module is in the store. -/
theorem index_lt_of_kind {s : Store} {c : ClassRef} (h : (s.classes.read c).kind ≠ .module) :
    c.index < s.classes.size := by
  refine Nat.lt_of_not_le fun hle => h ?_
  rw [Cells.read, (s.classes.get?_eq_none c).2 hle]
  rfl

namespace Sound

variable {strict : Bool} {core : Core} {s : Store}

theorem core_lt (hs : s.Sound strict core) {c : ClassRef} (h : c ∈ core.classes) :
    c.index < s.classes.size :=
  index_lt_of_kind (by rw [hs.core_plain h]; decide)

theorem eigenclass_lt (hs : s.Sound strict core) {carrier : Carrier} {e : ClassRef}
    (h : s.carried? carrier = some e) : e.index < s.classes.size :=
  index_lt_of_kind (by rw [hs.eigenclass_kind h]; decide)

/-- The class of an object has a layout. -/
theorem object_lt (hs : s.Sound strict core) {ref : ObjectRef} {cell : ObjectCell}
    (h : s.objects.get? ref = some cell) : cell.cls.index < s.classes.size := by
  obtain ⟨layout, hlayout, -⟩ := Option.bind_eq_some_iff.1 (hs.object_layout h)
  exact index_lt_of_layout? hlayout

/-- A birth class is a core class, or the class of an object or of an exception. -/
theorem birthClass?_cases {value : Value} {c : ClassRef}
    (h : s.birthClass? core value = some c) :
    c ∈ core.classes ∨ (∃ ref cell, s.objects.get? ref = some cell ∧ cell.cls = c) ∨
      ∃ ref cell, s.exceptions.get? ref = some cell ∧ cell.cls = c := by
  induction value with
  | object ref => exact .inr (.inl ⟨ref, Option.map_eq_some_iff.1 h⟩)
  | exception ref => exact .inr (.inr ⟨ref, Option.map_eq_some_iff.1 h⟩)
  | pending _ _ ih => exact ih h
  | cls ref =>
    obtain ⟨cell, -, rfl⟩ := Option.map_eq_some_iff.1 h
    refine .inl ?_
    rw [Core.metaclass]
    split <;> simp [Core.classes, Core.all]
  | bool b =>
    refine .inl ?_
    cases b <;> cases h <;> simp [Core.classes, Core.all]
  | function => cases h
  | builtin => cases h
  | fault => cases h
  | _ =>
    cases h
    exact .inl (by simp [Core.classes, Core.all])

/-- A birth class is in the store. -/
theorem birthClass?_lt (hs : s.Sound strict core) {value : Value} {c : ClassRef}
    (h : s.birthClass? core value = some c) : c.index < s.classes.size := by
  rcases birthClass?_cases h with hcore | ⟨ref, cell, hcell, rfl⟩ | ⟨ref, cell, hcell, rfl⟩
  · exact hs.core_lt hcore
  · exact hs.object_lt hcell
  · exact hs.exception_lt hcell

/-- The class of a value is in the store. -/
theorem classOf?_lt (hs : s.Sound strict core) {value : Value} {c : ClassRef}
    (hc : s.classOf? core value = some c) :
    c.index < s.classes.size := by
  rw [classOf?_eq] at hc
  cases hown : s.eigenclass? value.payload with
  | none =>
    rw [hown, Option.none_or] at hc
    exact hs.birthClass?_lt hc
  | some own =>
    rw [hown, Option.some_or] at hc
    cases hc
    obtain ⟨carrier, -, hcarried⟩ := eigenclass?_eq_some_iff.1 hown
    exact hs.eigenclass_lt hcarried

/-- A birth class is plain, if exceptions belong to classes of exceptions. -/
theorem birthClass?_plain (hs : s.Sound true core) {value : Value} {c : ClassRef}
    (h : s.birthClass? core value = some c) : (s.classes.read c).kind = .plain := by
  rcases birthClass?_cases h with hcore | ⟨ref, cell, hcell, rfl⟩ | ⟨ref, cell, hcell, rfl⟩
  · exact hs.core_plain hcore
  · obtain ⟨layout, hlayout, -⟩ := Option.bind_eq_some_iff.1 (hs.object_layout hcell)
    exact hs.layout_plain hlayout
  · exact hs.layout_plain (hs.exception_layout rfl hcell)

/-- A live value that can carry an eigenclass has a birth class. -/
theorem birthClass?_isSome (core : Core) {s : Store} {carrier : Carrier}
    (h : s.Live carrier.toValue) : ∃ c, s.birthClass? core carrier.toValue = some c := by
  cases carrier with
  | string => exact ⟨_, rfl⟩
  | array => exact ⟨_, rfl⟩
  | object ref => exact ⟨_, by rw [Carrier.toValue, birthClass?, Cells.get?_of_lt h]; rfl⟩
  | exception ref => exact ⟨_, by rw [Carrier.toValue, birthClass?, Cells.get?_of_lt h]; rfl⟩
  | cls ref => exact ⟨_, by rw [Carrier.toValue, birthClass?, Cells.get?_of_lt h]; rfl⟩

end Sound

/-! ### The built-in hierarchy -/

theorem size_classes_initial : Store.initial.classes.size = 12 := by decide +kernel

theorem index_lt_of_superclass?_initial {c parent : ClassRef}
    (h : Store.initial.superclass? c = some parent) : parent.index < c.index := by
  have hall : ∀ i < 12, ∀ parent ∈ (Store.initial.classes.read ⟨i⟩).superclass?,
      parent.index < i := by decide +kernel
  have hc : c.index < 12 := size_classes_initial ▸ index_lt_of_superclass? h
  exact hall c.index hc parent h

theorem kind_initial {c : ClassRef} (h : c.index < 12) :
    (Store.initial.classes.read c).kind = .plain := by
  have hall : ∀ i < 12, (Store.initial.classes.read ⟨i⟩).kind = .plain := by decide +kernel
  exact hall c.index h

/-- The built-in classes come with native methods only. -/
theorem localMethod?_initial {c : ClassRef} {name : String} {method : Method}
    (h : Store.initial.localMethod? c name = some method) :
    ∃ home kernelMethod, method = .native (.kernel home kernelMethod) := by
  have hall : ∀ i < 12, ∀ entry ∈ (Store.initial.classes.read ⟨i⟩).methods.entries,
      entry.2 matches .native (.kernel _ _) := by decide +kernel
  have hc : c.index < 12 := size_classes_initial ▸ index_lt_of_localMethod? h
  have hentry := hall c.index hc _ (NameTable.mem_entries h)
  cases method with
  | native native =>
    cases native with
    | kernel home kernelMethod => exact ⟨home, kernelMethod, rfl⟩
    | host => cases hentry
  | user => cases hentry

/-- The built-in hierarchy holds no values. -/
theorem not_holds_initial (value : Value) : ¬ Store.initial.Holds value := by
  rintro (h | h | h) <;> cases h

/-- The store with nothing but the built-in hierarchy is sound. -/
theorem sound_initial (strict : Bool) : Store.initial.Sound strict Core.initial where
  core_plain := by
    have hall : ∀ c ∈ Core.initial.classes, (Store.initial.classes.read c).kind = .plain := by
      decide +kernel
    exact hall
  layered := fun _ _ => index_lt_of_superclass?_initial
  superclass_plain := fun c parent hparent _ => by
    have hc : c.index < 12 := size_classes_initial ▸ index_lt_of_superclass? hparent
    exact kind_initial (Nat.lt_trans (index_lt_of_superclass?_initial hparent) hc)
  layout_plain := fun c layout hlayout =>
    kind_initial (size_classes_initial ▸ index_lt_of_layout? hlayout)
  object_layout := fun _ _ h => by cases h
  exception_lt := fun _ _ h => by cases h
  exception_layout := fun _ _ _ h => by cases h
  held_live := fun value h => absurd h (not_holds_initial value)
  method_live := fun c name method h => by
    obtain ⟨home, kernelMethod, rfl⟩ := localMethod?_initial h
    trivial
  parent_older := fun _ _ h => by cases h
  carrier_live := fun _ _ h => by cases h
  carrier_older := fun _ _ h => by cases h
  eigenclass_kind := fun _ _ h => by cases h
  eigenclass_superclass := fun _ _ h => by cases h
  owner_unique := fun _ _ _ h => by cases h

end Store

/-! ### Steps keep a store sound -/

namespace Step

open Store

variable {strict : Bool} {core : Core} {s t : Store}

theorem layered (h : Step strict core s t) (hs : s.Sound strict core) : t.Layered := by
  intro c parent hparent
  rcases Nat.lt_or_ge c.index s.classes.size with hold | hnew
  · rw [h.grows.superclass? hold] at hparent
    exact hs.layered hparent
  · obtain ⟨rfl, harises⟩ := h.arises hnew (index_lt_of_superclass? hparent)
    rw [Store.superclass?] at hparent
    generalize t.classes.read s.classes.next = cell at harises hparent
    -- whatever a new class is put below is there already
    cases harises with
    | plain hkind =>
      cases hparent
      exact index_lt_of_kind (by rw [hkind]; decide)
    | module => cases hparent
    | eigenclass _ hbirth =>
      cases hparent
      exact hs.birthClass?_lt hbirth

theorem superclass_plain (h : Step strict core s t) (hs : s.Sound strict core)
    {c parent : ClassRef} (hparent : t.superclass? c = some parent)
    (hkind : (t.classes.read c).kind ≠ .eigenclass) :
    (t.classes.read parent).kind = .plain := by
  rcases Nat.lt_or_ge c.index s.classes.size with hold | hnew
  · rw [h.grows.superclass? hold] at hparent
    rw [h.grows.kind hold] at hkind
    have hlt : parent.index < s.classes.size := Nat.lt_trans (hs.layered hparent) hold
    rw [h.grows.kind hlt]
    exact hs.superclass_plain hparent hkind
  · obtain ⟨rfl, harises⟩ := h.arises hnew (index_lt_of_superclass? hparent)
    rw [Store.superclass?] at hparent
    generalize t.classes.read s.classes.next = cell at harises hparent hkind
    cases harises with
    | plain hplain =>
      cases hparent
      rw [h.grows.kind (index_lt_of_kind (by rw [hplain]; decide))]
      exact hplain
    | module => cases hparent
    | eigenclass => exact absurd rfl hkind

theorem layout_plain (h : Step strict core s t) (hs : s.Sound strict core) {c : ClassRef}
    {layout : Layout} (hlayout : (t.classes.read c).layout? = some layout) :
    (t.classes.read c).kind = .plain := by
  rcases Nat.lt_or_ge c.index s.classes.size with hold | hnew
  · have hcell := h.grows.classes.read hold
    rw [hcell.layout?] at hlayout
    rw [hcell.kind]
    exact hs.layout_plain hlayout
  · obtain ⟨rfl, harises⟩ := h.arises hnew (index_lt_of_layout? hlayout)
    generalize t.classes.read s.classes.next = cell at harises hlayout
    cases harises with
    | plain => rfl
    | module => cases hlayout
    | eigenclass => cases hlayout

theorem object_layout (h : Step strict core s t) (hs : s.Sound strict core) {ref : ObjectRef}
    {cell : ObjectCell} (hcell : t.objects.get? ref = some cell) :
    (t.classes.read cell.cls).layout?.bind Layout.objectTag? = some cell.tag := by
  rcases h.object_cases hcell with ⟨old, hold, hgrows⟩ | hnew
  · rw [hgrows.cls, hgrows.tag, (h.grows.classes.read (hs.object_lt hold)).layout?]
    exact hs.object_layout hold
  · obtain ⟨layout, hlayout, -⟩ := Option.bind_eq_some_iff.1 hnew
    rw [(h.grows.classes.read (index_lt_of_layout? hlayout)).layout?]
    exact hnew

theorem exception_lt (h : Step strict core s t) (hs : s.Sound strict core) {ref : ExceptionRef}
    {cell : ExceptionCell} (hcell : t.exceptions.get? ref = some cell) :
    cell.cls.index < t.classes.size := by
  refine Nat.lt_of_lt_of_le ?_ h.grows.classes.size_le
  rcases h.exception_cases hcell with hold | ⟨hnew, -⟩
  · exact hs.exception_lt hold
  · exact hnew

theorem exception_layout (h : Step strict core s t) (hs : s.Sound strict core)
    (hstrict : strict = true) {ref : ExceptionRef} {cell : ExceptionCell}
    (hcell : t.exceptions.get? ref = some cell) :
    (t.classes.read cell.cls).layout? = some .exception := by
  rcases h.exception_cases hcell with hold | ⟨hlt, hnew⟩
  · rw [(h.grows.classes.read (hs.exception_lt hold)).layout?]
    exact hs.exception_layout hstrict hold
  · rw [(h.grows.classes.read hlt).layout?]
    exact hnew hstrict

theorem parent_older (h : Step strict core s t) (hs : s.Sound strict core)
    {scope parent : ScopeRef} (hparent : t.parentScope? scope = some parent) :
    parent.index < scope.index := by
  rcases h.parentScope?_cases hparent with hold | ⟨rfl, hlt⟩
  · exact hs.parent_older hold
  · exact hlt

theorem owner_unique (h : Step strict core s t) (hs : s.Sound strict core) {a b : Carrier}
    {e : ClassRef} (ha : t.carried? a = some e) (hb : t.carried? b = some e) : a = b := by
  -- an eigenclass that has just been made was carried by nobody
  have fresh : ∀ {carrier : Carrier}, s.carried? carrier ≠ some s.classes.next :=
    fun hcarried => Nat.lt_irrefl _ (hs.eigenclass_lt hcarried)
  rcases h.carried_cases ha with hold | ⟨rfl, -, -, hother, -⟩
  · rcases h.carried_cases hb with hold' | ⟨rfl, -⟩
    · exact hs.owner_unique hold hold'
    · exact absurd hold fresh
  · by_cases hne : b = a
    · exact hne.symm
    · rw [hother b hne] at hb
      exact absurd hb fresh

/-- **A step keeps a store sound.** -/
theorem sound (h : Step strict core s t) (hs : s.Sound strict core) : t.Sound strict core where
  core_plain := fun c hc => (h.grows.kind (hs.core_lt hc)).trans (hs.core_plain hc)
  layered := h.layered hs
  superclass_plain := fun _ _ => h.superclass_plain hs
  layout_plain := fun _ _ => h.layout_plain hs
  object_layout := fun _ _ => h.object_layout hs
  exception_lt := fun _ _ => h.exception_lt hs
  exception_layout := fun hstrict _ _ => h.exception_layout hs hstrict
  held_live := fun value hv => (h.holds_cases hv).elim
    (fun hold => h.grows.live (hs.held_live hold)) h.grows.live
  method_live := fun c name method hm => (h.method_cases hm).elim
    (fun hold => h.grows.liveMethod (hs.method_live hold)) h.grows.liveMethod
  parent_older := fun _ _ => h.parent_older hs
  carrier_live := fun carrier e he => (h.carried_cases he).elim
    (fun hold => h.grows.live (hs.carrier_live hold)) fun hnew => h.grows.live hnew.2.1
  carrier_older := fun c e he => by
    rcases h.carried_cases he with hold | ⟨rfl, hlive, -⟩
    · exact hs.carrier_older hold
    · exact hlive
  eigenclass_kind := fun carrier e he => (h.carried_cases he).elim
    (fun hold => (h.grows.kind (hs.eigenclass_lt hold)).trans (hs.eigenclass_kind hold))
    fun hnew => hnew.2.2.1
  eigenclass_superclass := by
    intro carrier e he
    rcases h.carried_cases he with hold | ⟨-, -, -, -, birth, hbirth, hsuper⟩
    · obtain ⟨birth, hbirth, hsuper⟩ := hs.eigenclass_superclass hold
      refine ⟨birth, h.grows.birthClass? hbirth, ?_⟩
      rw [h.grows.superclass? (hs.eigenclass_lt hold), hsuper]
    · exact ⟨birth, h.grows.birthClass? hbirth, hsuper⟩
  owner_unique := fun _ _ _ => h.owner_unique hs

end Step

namespace Steps

variable {strict : Bool} {core : Core} {s t : Store}

theorem grows (h : Steps strict core s t) : s.Grows t := by
  induction h with
  | refl => exact .refl s
  | tail _ hstep ih => exact ih.trans hstep.grows

theorem sound (h : Steps strict core s t) (hs : s.Sound strict core) : t.Sound strict core := by
  induction h with
  | refl => exact hs
  | tail _ hstep ih => exact hstep.sound ih

end Steps

end ObjectModel
