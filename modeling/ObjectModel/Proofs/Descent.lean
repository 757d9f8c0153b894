import ObjectModel.Proofs.Isolation

/-!
# The forest of classes

Superclasses are never checked for going in circles, and they need not be: a class is made below one
that is there already, a module is made below nothing, and an eigenclass is made below the birth
class of its object.  So the classes form a forest.  All plain classes are in one tree, with
`BasicObject` at its root, every module is a tree of its own, and an eigenclass hangs below whatever
its object was made as.

The lineage of a class is the way from it to its root.  Where two lineages meet they go on as one,
which makes descent an order, and a linear one along every lineage.

## Main definitions

* `Store.Shaped` — how the three sorts of class-objects stand in the forest.

## Main results

* `Steps.shaped_initial` — class-objects stand so in every store that steps lead to.
* `Store.lineage_suffix` — the lineage of an ancestor is the rest of a lineage.
* `Store.Sound.getLast?_lineage` — the lineage of a plain class ends in `BasicObject`.
* `Reachable.descent_forest` — the forest of classes and the order of descent.
-/

namespace ObjectModel

namespace Store

variable {strict : Bool} {core : Core} {s t : Store} {a b c d e : ClassRef}

/-! ### Where lineages meet -/

/-- The lineage of a class in a lineage is the rest of it. -/
theorem lineage_suffix (h : d ∈ s.lineage c) : s.lineage d <:+ s.lineage c := by
  fun_induction lineage s c with
  | case1 c ih =>
    cases hparent : s.superclass? c with
    | none =>
      rw [hparent] at h
      cases List.mem_singleton.1 h
      simp only [lineage_of_root hparent, List.suffix_refl]
    | some parent =>
      by_cases older : parent.index < c.index
      · simp only [hparent, older, dite_true] at h ⊢
        rcases List.mem_cons.1 h with rfl | h
        · simp only [lineage_of_superclass hparent older, List.suffix_refl]
        · exact (ih parent older h).trans (List.suffix_cons _ _)
      · simp only [hparent, older, dite_false] at h ⊢
        cases List.mem_singleton.1 h
        rw [lineage, hparent]
        simp only [older, dite_false]
        exact List.suffix_refl _

theorem descendsFrom_iff : s.descendsFrom c d = true ↔ d ∈ s.lineage c := by
  rw [descendsFrom, List.contains_iff_mem]

theorem descendsFrom_self (s : Store) (c : ClassRef) : s.descendsFrom c c = true :=
  descendsFrom_iff.2 (s.mem_lineage_self c)

theorem descendsFrom_trans (hab : s.descendsFrom a b = true) (hbc : s.descendsFrom b c = true) :
    s.descendsFrom a c = true := by
  rw [descendsFrom_iff] at *
  exact (lineage_suffix hab).subset hbc

/-- Classes that descend from each other are the same, for none is younger than the other. -/
theorem descendsFrom_antisymm (hab : s.descendsFrom a b = true)
    (hba : s.descendsFrom b a = true) : a = b := by
  rw [descendsFrom_iff] at *
  have hba' : b.index ≤ a.index := index_le_of_mem_lineage hab
  have hab' : a.index ≤ b.index := index_le_of_mem_lineage hba
  exact congrArg Ref.mk (Nat.le_antisymm hab' hba')

/-- Of two classes in one lineage, one descends from the other. -/
theorem descendsFrom_total_of_mem_lineage (ha : a ∈ s.lineage c) (hb : b ∈ s.lineage c) :
    s.descendsFrom a b = true ∨ s.descendsFrom b a = true := by
  simp only [descendsFrom_iff]
  rcases List.suffix_or_suffix_of_suffix (lineage_suffix ha) (lineage_suffix hb) with h | h
  · exact .inr (h.subset (s.mem_lineage_self a))
  · exact .inl (h.subset (s.mem_lineage_self b))

/-! ### How class-objects stand -/

/-- Only one plain class has no superclass, a module never has one, and an eigenclass is that of some
object. -/
structure Shaped (core : Core) (s : Store) : Prop where
  root : ∀ ⦃c : ClassRef⦄, (s.classes.read c).kind = .plain → s.superclass? c = none →
    c = core.basicObject
  module : ∀ ⦃c : ClassRef⦄, (s.classes.read c).kind = .module → s.superclass? c = none
  eigenclass : ∀ ⦃c : ClassRef⦄, (s.classes.read c).kind = .eigenclass →
    ∃ carrier, s.carried? carrier = some c

theorem shaped_initial : Store.initial.Shaped Core.initial := by
  have hlt {c : ClassRef} (hkind : (Store.initial.classes.read c).kind ≠ .module) :
      c.index < 12 := size_classes_initial ▸ index_lt_of_kind hkind
  refine ⟨fun c hkind hroot => ?_, fun c hkind => ?_, fun c hkind => ?_⟩
  · have hall : ∀ i < 12, Store.initial.superclass? ⟨i⟩ = none →
        (⟨i⟩ : ClassRef) = Core.initial.basicObject := by decide +kernel
    exact hall c.index (hlt (by rw [hkind]; decide)) hroot
  · -- all built-in classes are plain, so this is no class of the store
    have hle : Store.initial.classes.size ≤ c.index := by
      refine Nat.le_of_not_lt fun hlt => ?_
      rw [kind_initial (size_classes_initial ▸ hlt)] at hkind
      cases hkind
    rw [superclass?, Cells.read_of_size_le hle]
    rfl
  · rw [kind_initial (hlt (by rw [hkind]; decide))] at hkind
    cases hkind

/-- The lineage of a plain class ends in `BasicObject`. -/
theorem Sound.getLast?_lineage (hs : s.Sound strict core) (hshaped : s.Shaped core)
    (hc : (s.classes.read c).kind = .plain) :
    (s.lineage c).getLast? = some core.basicObject := by
  fun_induction lineage s c with
  | case1 c ih =>
    cases hparent : s.superclass? c with
    | none => rw [List.getLast?_singleton, hshaped.root hc hparent]
    | some parent =>
      have older := hs.layered hparent
      have hplain := hs.superclass_plain hparent (by rw [hc]; decide)
      simp only [older, dite_true]
      have hlast := ih parent older hplain
      rw [List.getLast?_cons, hlast, Option.getD_some]

end Store

open Store

variable {strict : Bool} {core : Core} {s t : Store} {c : ClassRef}

/-! ### Steps keep the shape -/

/-- An eigenclass that was not there before is attached to the object that it was made for. -/
theorem Step.carried_of_kind (h : Step strict core s t) (hold : s.classes.size ≤ c.index)
    (hkind : (t.classes.read c).kind = .eigenclass) : ∃ carrier, t.carried? carrier = some c := by
  have hnew : c.index < t.classes.size := index_lt_of_kind (by rw [hkind]; decide)
  obtain ⟨rfl, -⟩ := h.arises hold hnew
  have hout : ¬ s.classes.next.index < s.classes.size := Nat.lt_irrefl _
  have added {cell : ClassCell} (hcell : cell.kind ≠ .eigenclass) :
      ((s.addClass cell).2.classes.read s.classes.next).kind ≠ .eigenclass := by
    rwa [addClass, Cells.read_add_next]
  cases h with
  | makeClass h =>
    obtain ⟨-, -, rfl⟩ := makeClass_eq_ok h
    exact absurd hkind (added nofun)
  | makeModule h =>
    obtain ⟨-, rfl⟩ := makeModule_eq_ok h
    exact absurd hkind (added nofun)
  | ensureEigenclass _ h =>
    rcases ensureEigenclass_eq_ok h with ⟨-, rfl⟩ | ⟨carrier, birth, -, -, -, rfl, rfl⟩
    · exact absurd hnew hout
    · exact ⟨carrier, by rw [carried?_attach, if_pos rfl]⟩
  | makeFunction h =>
    obtain ⟨-, rfl⟩ := makeFunction_eq_ok h
    exact absurd hnew hout
  | allocate h =>
    rcases allocate_eq_ok h with ⟨tag, -, heq⟩ | ⟨-, heq⟩ <;> cases heq <;> exact absurd hnew hout
  | defineMethod =>
    rw [Store.defineMethod, Cells.size_modify] at hnew
    exact absurd hnew hout
  | _ => exact absurd hnew hout

theorem Step.shaped (h : Step strict core s t) (hs : s.Shaped core) : t.Shaped core := by
  -- a class that is there keeps its kind and its superclass
  refine ⟨fun c hkind hroot => ?_, fun c hkind => ?_, fun c hkind => ?_⟩
  · rcases Nat.lt_or_ge c.index s.classes.size with hold | hnew
    · rw [h.grows.kind hold] at hkind
      rw [h.grows.superclass? hold] at hroot
      exact hs.root hkind hroot
    · obtain ⟨rfl, harises⟩ := h.arises hnew (index_lt_of_kind (by rw [hkind]; decide))
      rw [superclass?] at hroot
      generalize t.classes.read s.classes.next = cell at harises hkind hroot
      cases harises with
      | plain => cases hroot
      | module => cases hkind
      | eigenclass => cases hkind
  · rcases Nat.lt_or_ge c.index s.classes.size with hold | hnew
    · rw [h.grows.kind hold] at hkind
      rw [h.grows.superclass? hold]
      exact hs.module hkind
    · refine Option.eq_none_iff_forall_ne_some.2 fun parent hparent => ?_
      obtain ⟨rfl, harises⟩ := h.arises hnew (index_lt_of_superclass? hparent)
      rw [superclass?] at hparent
      generalize t.classes.read s.classes.next = cell at harises hkind hparent
      cases harises with
      | plain => cases hkind
      | module => cases hparent
      | eigenclass => cases hkind
  · rcases Nat.lt_or_ge c.index s.classes.size with hold | hnew
    · rw [h.grows.kind hold] at hkind
      obtain ⟨carrier, hcarried⟩ := hs.eigenclass hkind
      exact ⟨carrier, h.grows.carried hcarried⟩
    · exact h.carried_of_kind hnew hkind

theorem Steps.shaped_initial (h : Steps strict Core.initial Store.initial s) :
    s.Shaped Core.initial := by
  induction h with
  | refl => exact Store.shaped_initial
  | tail _ hstep ih => exact hstep.shaped ih

/-! ### The forest -/

/-- **The forest of classes.**  In every reachable store the superclasses of a class-object come to an
end, and none of them occurs twice.  Those of a plain class end in `BasicObject`, a module has none,
and those of an eigenclass are the birth class of its object and what is above that.  Descent is a
partial order, and linear along the superclasses of one class. -/
theorem Reachable.descent_forest (h : Reachable strict s) :
    (∀ c, c.index < s.classes.size →
      s.Ancestry c (s.lineage c) ∧ (s.lineage c).Nodup ∧
        match (s.classes.read c).kind with
        | .plain => (s.lineage c).getLast? = some Core.initial.basicObject
        | .module => s.lineage c = [c]
        | .eigenclass => ∃ value, s.eigenclass? value = some c) ∧
    (∀ value e, s.eigenclass? value = some e →
      ∃ birth, s.birthClass? Core.initial value = some birth ∧
        s.lineage e = e :: s.lineage birth) ∧
    (∀ c, s.descendsFrom c c = true) ∧
    (∀ a b c, s.descendsFrom a b = true → s.descendsFrom b c = true →
      s.descendsFrom a c = true) ∧
    (∀ a b, s.descendsFrom a b = true → s.descendsFrom b a = true → a = b) ∧
    ∀ c, ∀ a ∈ s.lineage c, ∀ b ∈ s.lineage c,
      s.descendsFrom a b = true ∨ s.descendsFrom b a = true := by
  have hs := h.sound
  have hshaped := h.steps.shaped_initial
  refine ⟨fun c _ => ⟨ancestry_lineage hs.layered c, s.nodup_lineage c, ?_⟩, fun value e he => ?_,
    s.descendsFrom_self, fun a b c => descendsFrom_trans, fun a b => descendsFrom_antisymm,
    fun c a ha b hb => descendsFrom_total_of_mem_lineage ha hb⟩
  · cases hkind : (s.classes.read c).kind with
    | plain => exact hs.getLast?_lineage hshaped hkind
    | module => exact lineage_of_root (hshaped.module hkind)
    | eigenclass =>
      obtain ⟨carrier, hcarried⟩ := hshaped.eigenclass hkind
      exact ⟨carrier.toValue, by rw [eigenclass?_toValue, hcarried]⟩
  · obtain ⟨carrier, rfl, hcarried⟩ := eigenclass?_eq_some_iff.1 he
    obtain ⟨birth, hbirth, -⟩ := hs.eigenclass_superclass hcarried
    exact ⟨birth, hbirth, hs.lineage_of_carried hcarried hbirth⟩

/-- The eigenclass of a bare object stands before `Object`, and so above it is `BasicObject`. -/
theorem descent_forest_withObject :
    ∃ e t, Reachable false t ∧ t.eigenclass? (.object ⟨0⟩) = some e ∧
      e.index < t.classes.size ∧ (t.lineage e).Nodup ∧
      t.lineage e = e :: t.lineage Core.initial.object ∧
      (t.lineage Core.initial.object).getLast? = some Core.initial.basicObject ∧
      t.descendsFrom Core.initial.object e = false := by
  have hlive : withObject.Live (Carrier.object ⟨0⟩).toValue := Nat.one_pos
  obtain ⟨e, t, hmade⟩ := exists_ensureEigenclass Core.initial hlive
  have hstep : Step false Core.initial withObject t := .ensureEigenclass hlive hmade
  have ht : Reachable false t := (reachable_withObject false).tail (.step hstep)
  have hcarried := carried?_of_ensureEigenclass hmade
  have he : t.eigenclass? (Carrier.object ⟨0⟩).toValue = some e := by
    rw [eigenclass?_toValue, hcarried]
  have hlt : e.index < t.classes.size := ht.sound.eigenclass_lt hcarried
  have hcore : Core.initial.object ∈ Core.initial.classes := by decide +kernel
  have hkind := ht.sound.core_plain hcore
  obtain ⟨hshape, hown, -, -, hantisymm, -⟩ := ht.descent_forest
  obtain ⟨birth, hbirth, hlineage⟩ := hown _ e he
  have hobject : withObject.birthClass? Core.initial (.object ⟨0⟩) = some Core.initial.object := by
    decide +kernel
  cases (hstep.grows.birthClass? hobject).symm.trans hbirth
  obtain ⟨-, -, hlast⟩ := hshape Core.initial.object (ht.sound.core_lt hcore)
  rw [hkind] at hlast
  refine ⟨e, t, ht, he, hlt, (hshape e hlt).2.1, hlineage, hlast, ?_⟩
  -- the eigenclass descends from `Object`, and is another class
  refine Bool.eq_false_iff.2 fun hdown => ?_
  have hup : t.descendsFrom e Core.initial.object = true := by
    rw [descendsFrom_iff, hlineage]
    exact List.mem_cons_of_mem _ (t.mem_lineage_self _)
  have heq := hantisymm _ _ hdown hup
  rw [heq, ht.sound.eigenclass_kind hcarried] at hkind
  cases hkind

end ObjectModel
