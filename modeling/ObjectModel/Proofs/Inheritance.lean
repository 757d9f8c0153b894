import ObjectModel.Proofs.Persistence

/-!
# Layouts are inherited

A class that is made below another one has the layout of that class, and nothing else decides what
its instances are.  Going up from a plain class one meets a built-in class sooner or later.  The
nearest of them tells the layout of the class and also which built-in classes it descends from, and
built-in classes stay what they were.  So as far as layouts and built-in ancestors go, every plain
class is like one of the built-in classes at the beginning, and what is to be known about it can be
read off them.

## Main definitions

* `Store.Inherits` — plain classes that are not built in have the layouts of their superclasses.

## Main results

* `Step.inherits`, `Steps.inherits_initial` — it is so in every store that steps lead to.
* `Store.Sound.exists_nearest` — the nearest built-in class.
* `Steps.exists_model` — a built-in class with the same layout and the same built-in ancestors.
* `Steps.layout?_of_module_mem`, `Steps.layout?_of_exception_mem` — what descends from `Module` has
  no layout, and what descends from `Exception` has that of exceptions.
-/

namespace ObjectModel

variable {strict : Bool} {core : Core} {s t : Store} {c d : ClassRef}

namespace Store

/-- A plain class that is not built in has the layout of its superclass. -/
def Inherits (core : Core) (s : Store) : Prop :=
  ∀ ⦃c : ClassRef⦄, (s.classes.read c).kind = .plain → c ∉ core.classes →
    ∃ parent, s.superclass? c = some parent ∧
      (s.classes.read c).layout? = (s.classes.read parent).layout?

theorem inherits_initial : Store.initial.Inherits Core.initial := by
  intro c hkind hc
  have hall : ∀ i < 12, (⟨i⟩ : ClassRef) ∈ Core.initial.classes := by decide +kernel
  have hlt : c.index < 12 := size_classes_initial ▸ index_lt_of_kind (by rw [hkind]; decide)
  exact absurd (hall c.index hlt) hc

/-- **The nearest built-in class.**  The lineage of a plain class comes to a built-in class, and the
two have one layout.  The induction is on the age of the class. -/
theorem Sound.exists_nearest (hs : s.Sound strict core) (hinherits : s.Inherits core)
    (hc : (s.classes.read c).kind = .plain) :
    ∃ before d, d ∈ core.classes ∧ s.lineage c = before ++ s.lineage d ∧
      (∀ b ∈ before, b ∉ core.classes) ∧
      (s.classes.read c).layout? = (s.classes.read d).layout? := by
  induction hindex : c.index using Nat.strongRecOn generalizing c with
  | ind n ih =>
    by_cases hcore : c ∈ core.classes
    · exact ⟨[], c, hcore, rfl, nofun, rfl⟩
    · obtain ⟨parent, hparent, hlayout⟩ := hinherits hc hcore
      have older := hs.layered hparent
      have hplain := hs.superclass_plain hparent (by rw [hc]; decide)
      obtain ⟨before, d, hd, hlineage, hbefore, hlayout'⟩ :=
        ih parent.index (hindex ▸ older) hplain rfl
      refine ⟨c :: before, d, hd, ?_, List.forall_mem_cons.2 ⟨hcore, hbefore⟩,
        hlayout.trans hlayout'⟩
      rw [lineage_of_superclass hparent older, hlineage, List.cons_append]

end Store

open Store

/-- A step keeps it so: a new class takes the layout of the class that it is made below. -/
theorem Step.inherits (h : Step strict core s t) (hs : s.Sound strict core)
    (hinherits : s.Inherits core) : t.Inherits core := by
  intro c hkind hc
  rcases Nat.lt_or_ge c.index s.classes.size with hold | hnew
  · rw [h.grows.kind hold] at hkind
    obtain ⟨parent, hparent, hlayout⟩ := hinherits hkind hc
    have hlt : parent.index < s.classes.size := Nat.lt_trans (hs.layered hparent) hold
    refine ⟨parent, ?_, ?_⟩
    · rw [h.grows.superclass? hold, hparent]
    · rw [(h.grows.classes.read hold).layout?, hlayout, (h.grows.classes.read hlt).layout?]
  · obtain ⟨rfl, harises⟩ := h.arises hnew (index_lt_of_kind (by rw [hkind]; decide))
    rw [superclass?]
    generalize t.classes.read s.classes.next = cell at harises hkind
    cases harises with
    | @plain _ superclass hplain =>
      have hlt : superclass.index < s.classes.size := index_lt_of_kind (by rw [hplain]; decide)
      exact ⟨superclass, rfl, (h.grows.classes.read hlt).layout?.symm⟩
    | module => cases hkind
    | eigenclass => cases hkind

namespace Steps

theorem inherits_initial (h : Steps strict Core.initial Store.initial s) :
    s.Inherits Core.initial := by
  induction h with
  | refl => exact Store.inherits_initial
  | tail hsteps hstep ih => exact hstep.inherits (sound_of_initial hsteps) ih

/-! ### Built-in classes -/

variable (h : Steps strict Core.initial Store.initial s)

include h

/-- A built-in class keeps its superclasses. -/
theorem lineage_core (hd : d ∈ Core.initial.classes) :
    s.lineage d = Store.initial.lineage d :=
  h.grows.lineage ((Store.sound_initial strict).core_lt hd)

/-- It keeps its layout. -/
theorem layout?_core (hd : d ∈ Core.initial.classes) :
    (s.classes.read d).layout? = (Store.initial.classes.read d).layout? :=
  (h.grows.classes.read ((Store.sound_initial strict).core_lt hd)).layout?

/-- **Every plain class is like a built-in one**, in its layout and in its built-in ancestors. -/
theorem exists_model (hc : (s.classes.read c).kind = .plain) :
    ∃ d ∈ Core.initial.classes,
      (s.classes.read c).layout? = (Store.initial.classes.read d).layout? ∧
      ∀ b ∈ Core.initial.classes, b ∈ s.lineage c ↔ b ∈ Store.initial.lineage d := by
  obtain ⟨before, d, hd, hlineage, hbefore, hlayout⟩ :=
    (sound_of_initial h).exists_nearest h.inherits_initial hc
  refine ⟨d, hd, hlayout.trans (h.layout?_core hd), fun b hb => ?_⟩
  -- below the nearest built-in class there is none
  have hnot : b ∉ before := fun hmem => hbefore b hmem hb
  rw [hlineage, List.mem_append, h.lineage_core hd, or_iff_right hnot]

/-- If all the built-in classes that descend from one of them have one layout, so has every other
class that does. -/
theorem layout?_of_mem {b : ClassRef} {layout? : Option Layout} (hb : b ∈ Core.initial.classes)
    (hall : ∀ d ∈ Core.initial.classes, b ∈ Store.initial.lineage d →
      (Store.initial.classes.read d).layout? = layout?)
    (hc : (s.classes.read c).kind = .plain) (hmem : b ∈ s.lineage c) :
    (s.classes.read c).layout? = layout? := by
  obtain ⟨d, hd, hlayout, hbuiltIn⟩ := h.exists_model hc
  rw [hlayout]
  exact hall d hd ((hbuiltIn b hb).1 hmem)

/-- Modules and classes are not allocated. -/
theorem layout?_of_module_mem (hc : (s.classes.read c).kind = .plain)
    (hmem : Core.initial.module ∈ s.lineage c) : (s.classes.read c).layout? = none :=
  h.layout?_of_mem (by decide +kernel) (by decide +kernel) hc hmem

/-- The instances of a class of exceptions are exceptions. -/
theorem layout?_of_exception_mem (hc : (s.classes.read c).kind = .plain)
    (hmem : Core.initial.exception ∈ s.lineage c) :
    (s.classes.read c).layout? = some .exception :=
  h.layout?_of_mem (by decide +kernel) (by decide +kernel) hc hmem

end Steps

end ObjectModel
