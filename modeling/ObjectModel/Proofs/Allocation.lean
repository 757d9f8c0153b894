import ObjectModel.Proofs.Receivers

/-!
# What a class allocates

The layout of a class is a part of the class itself, taken over from the superclass when the class
is made and fixed for ever.  Descent is no part of it, it is read off the superclasses each time
anew.  The two never disagree: in every reachable store a plain class allocates what the built-in
classes say that it descends from.  An eigenclass descends from as many of them as the class above
it, but allocates nothing, since only plain classes take layouts over.

## Main definitions

* `Core.layoutless` — the built-in classes without instances of their own.
* `Store.MakesObject`, `Store.MakesException` — what allocation answers.

## Main results

* `Steps.layout?_eq_object_iff` and the like — the layout of a plain class, by its lineage.
* `Reachable.allocate_by_descent` — what is allocated, by descent.
-/

namespace ObjectModel

open Store

/-- The built-in classes whose instances are not made by allocation: class-objects and immediate
values. -/
def Core.layoutless (core : Core) : List ClassRef := core.module :: core.immediate

variable {strict : Bool} {s : Store} {c : ClassRef}

/-! ### From layouts to instances -/

namespace Store

/-- An object of the class is allocated, with this tag and without instance variables. -/
def MakesObject (s : Store) (c : ClassRef) (tag : Tag) : Prop :=
  ∃ ref t, s.allocate c = .ok (.object ref, t) ∧ t.objects.get? ref = some ⟨c, tag, ∅⟩

/-- An exception of the class is allocated, with the name of the class for its message. -/
def MakesException (s : Store) (c : ClassRef) : Prop :=
  ∃ ref t, s.allocate c = .ok (.exception ref, t) ∧
    t.exceptions.get? ref = some ⟨c, s.className c⟩

theorem makesObject_iff {tag : Tag} :
    s.MakesObject c tag ↔ (s.classes.read c).layout?.bind Layout.objectTag? = some tag := by
  constructor
  · rintro ⟨ref, t, hmade, hcell⟩
    rcases allocate_eq_ok hmade with ⟨tag', hlayout, heq⟩ | ⟨-, heq⟩
    · cases heq
      have hnew := s.objects.get?_add_next ⟨c, tag', ∅⟩
      cases hnew.symm.trans hcell
      exact hlayout
    · cases heq
  · intro hlayout
    exact ⟨_, _, allocate_of_objectTag? hlayout, Cells.get?_add_next _ _⟩

theorem makesException_iff :
    s.MakesException c ↔ (s.classes.read c).layout? = some .exception := by
  constructor
  · rintro ⟨ref, t, hmade, -⟩
    rcases allocate_eq_ok hmade with ⟨tag, -, heq⟩ | ⟨hlayout, -⟩
    · cases heq
    · exact hlayout
  · intro hlayout
    exact ⟨_, _, allocate_of_exception hlayout, Cells.get?_add_next _ _⟩

theorem allocate_eq_error_iff {fault : Fault} :
    s.allocate c = .error fault ↔
      (s.classes.read c).layout? = none ∧ fault = .noAllocator (s.className c) := by
  cases hlayout : (s.classes.read c).layout? with
  | none => simp only [allocate, hlayout, true_and, Except.error.injEq, eq_comm]
  | some layout => cases layout <;> simp [allocate, hlayout]

/-- Whatever is allocated is an instance of its class. -/
theorem birthClass?_of_allocate {core : Core} {t : Store} {value : Value}
    (h : s.allocate c = .ok (value, t)) : t.birthClass? core value = some c := by
  rcases allocate_eq_ok h with ⟨tag, -, heq⟩ | ⟨-, heq⟩
  · cases heq
    exact congrArg (Option.map ObjectCell.cls) (Cells.get?_add_next _ _)
  · cases heq
    exact congrArg (Option.map ExceptionCell.cls) (Cells.get?_add_next _ _)

end Store

/-! ### From descent to layouts

Every plain class is like a built-in one in all that the following statements are about, and there
are twelve of these to look at. -/

namespace Steps

variable (h : Steps strict Core.initial Store.initial s)

include h

theorem layout?_eq_exception_iff (hc : (s.classes.read c).kind = .plain) :
    (s.classes.read c).layout? = some .exception ↔ Core.initial.exception ∈ s.lineage c := by
  obtain ⟨d, hd, hlayout, hbuiltIn⟩ := h.exists_model hc
  have hall : ∀ d ∈ Core.initial.classes,
      ((Store.initial.classes.read d).layout? = some .exception ↔
        Core.initial.exception ∈ Store.initial.lineage d) := by decide +kernel
  rw [hlayout, hbuiltIn _ (by decide +kernel)]
  exact hall d hd

theorem layout?_eq_basicObject_iff (hc : (s.classes.read c).kind = .plain) :
    (s.classes.read c).layout? = some .basicObject ↔ Core.initial.object ∉ s.lineage c := by
  obtain ⟨d, hd, hlayout, hbuiltIn⟩ := h.exists_model hc
  have hall : ∀ d ∈ Core.initial.classes,
      ((Store.initial.classes.read d).layout? = some .basicObject ↔
        Core.initial.object ∉ Store.initial.lineage d) := by decide +kernel
  rw [hlayout, hbuiltIn _ (by decide +kernel)]
  exact hall d hd

theorem layout?_eq_none_iff (hc : (s.classes.read c).kind = .plain) :
    (s.classes.read c).layout? = none ↔
      ∃ b ∈ Core.initial.layoutless, b ∈ s.lineage c := by
  obtain ⟨d, hd, hlayout, hbuiltIn⟩ := h.exists_model hc
  have hall : ∀ d ∈ Core.initial.classes, ((Store.initial.classes.read d).layout? = none ↔
      ∃ b ∈ Core.initial.layoutless, b ∈ Store.initial.lineage d) := by decide +kernel
  have hcore : ∀ b ∈ Core.initial.layoutless, b ∈ Core.initial.classes := by decide +kernel
  rw [hlayout, hall d hd]
  -- all that is asked for are built-in classes, and these are ancestors of both or of neither
  refine exists_congr fun b => and_congr_right fun hb => ?_
  rw [hbuiltIn b (hcore b hb)]

/-- There are four possibilities, and the other three are as above. -/
theorem layout?_eq_object_iff (hc : (s.classes.read c).kind = .plain) :
    (s.classes.read c).layout? = some .object ↔
      Core.initial.object ∈ s.lineage c ∧
        ∀ b ∈ Core.initial.exception :: Core.initial.layoutless, b ∉ s.lineage c := by
  have hobject : Core.initial.object ∈ s.lineage c ↔
      (s.classes.read c).layout? ≠ some .basicObject := by
    rw [Ne, h.layout?_eq_basicObject_iff hc, not_not]
  have hlayoutless : (∀ b ∈ Core.initial.layoutless, b ∉ s.lineage c) ↔
      (s.classes.read c).layout? ≠ none := by
    rw [Ne, h.layout?_eq_none_iff hc]
    simp only [not_exists, not_and]
  rw [List.forall_mem_cons, ← h.layout?_eq_exception_iff hc, hobject, hlayoutless]
  cases (s.classes.read c).layout? with
  | none => simp
  | some layout => cases layout <;> simp

end Steps

/-! ### From descent to instances -/

/-- Only plain classes have a layout. -/
theorem Store.Sound.allocate_of_kind_ne {core : Core} (hs : s.Sound strict core)
    (hc : (s.classes.read c).kind ≠ .plain) :
    s.allocate c = .error (.noAllocator (s.className c)) := by
  have hlayout : (s.classes.read c).layout? = none := by
    cases hlayout : (s.classes.read c).layout? with
    | none => rfl
    | some layout => exact absurd (hs.layout_plain hlayout) hc
  exact allocate_eq_error_iff.2 ⟨hlayout, rfl⟩

/-- **What a class allocates is decided by its descent.**  In every reachable store, a plain class
allocates an exception if it descends from `Exception`, a bare object if it does not descend from
`Object`, and a full object if it descends from `Object` and neither from `Exception` nor from a
built-in class without instances of its own.  From one of these it would get nothing, as any module
and any eigenclass does, wherever that may descend from.  And what is allocated is an instance of
the class. -/
theorem Reachable.allocate_by_descent (h : Reachable strict s) :
    (∀ c, (s.classes.read c).kind = .plain →
      (s.MakesException c ↔ s.descendsFrom c Core.initial.exception = true) ∧
      (s.MakesObject c .object ↔ s.descendsFrom c Core.initial.object = true ∧
        ∀ b ∈ Core.initial.exception :: Core.initial.layoutless, s.descendsFrom c b = false) ∧
      (s.MakesObject c .basicObject ↔ s.descendsFrom c Core.initial.object = false) ∧
      (s.allocate c = .error (.noAllocator (s.className c)) ↔
        ∃ b ∈ Core.initial.layoutless, s.descendsFrom c b = true)) ∧
    (∀ c, (s.classes.read c).kind ≠ .plain →
      s.allocate c = .error (.noAllocator (s.className c))) ∧
    ∀ c value t, s.allocate c = .ok (value, t) →
      t.birthClass? Core.initial value = some c := by
  refine ⟨fun c hc => ?_, fun c hc => h.sound.allocate_of_kind_ne hc,
    fun c value t hmade => birthClass?_of_allocate hmade⟩
  simp only [← Bool.not_eq_true, descendsFrom_iff, makesException_iff, makesObject_iff,
    allocate_eq_error_iff, and_true]
  refine ⟨h.steps.layout?_eq_exception_iff hc, ?_, ?_, h.steps.layout?_eq_none_iff hc⟩
  · rw [← h.steps.layout?_eq_object_iff hc]
    cases (s.classes.read c).layout? with
    | none => simp
    | some layout => cases layout <;> simp [Layout.objectTag?]
  · rw [← h.steps.layout?_eq_basicObject_iff hc]
    cases (s.classes.read c).layout? with
    | none => simp
    | some layout => cases layout <;> simp [Layout.objectTag?]

/-- To make a class below a plain one is an operation. -/
theorem Operation.addClass {name : String} (hname : name.isEmpty = false)
    (hc : (s.classes.read c).kind = .plain) {layout? : Option Layout}
    (hlayout : (s.classes.read c).layout? = layout?) :
    Operation strict s (s.addClass ⟨name, .plain, .cls, layout?, some c, ∅⟩).2 := by
  have hmade := makeClass_of_plain hname hc
  rw [hlayout] at hmade
  exact .step (.makeClass hmade)

/-- The built-in hierarchy and a class of exceptions. -/
def Store.withFailure : Store :=
  (Store.initial.addClass
    ⟨"Failure", .plain, .cls, some .exception, some Core.initial.exception, ∅⟩).2

/-- A class below that one as well. -/
def Store.withTimeout : Store :=
  (Store.withFailure.addClass ⟨"Timeout", .plain, .cls, some .exception, some ⟨12⟩, ∅⟩).2

theorem reachable_withTimeout (strict : Bool) : Reachable strict withTimeout := by
  have hfailure : Operation strict Store.initial withFailure :=
    .addClass rfl (by decide +kernel) (by decide +kernel)
  have htimeout : Operation strict withFailure withTimeout :=
    .addClass rfl (by decide +kernel) (by decide +kernel)
  exact (Relation.ReflTransGen.single hfailure).tail htimeout

/-- Far below `Exception` exceptions are allocated. -/
theorem allocate_by_descent_withTimeout :
    Reachable true withTimeout ∧ withTimeout.MakesException ⟨13⟩ := by
  have h := reachable_withTimeout true
  have hplain : (withTimeout.classes.read ⟨13⟩).kind = .plain := by decide +kernel
  have hbelow : withTimeout.descendsFrom ⟨13⟩ Core.initial.exception = true := by decide +kernel
  obtain ⟨hmakes, -⟩ := h.allocate_by_descent.1 ⟨13⟩ hplain
  exact ⟨h, hmakes.2 hbelow⟩

end ObjectModel
