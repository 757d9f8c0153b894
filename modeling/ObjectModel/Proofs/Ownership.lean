import ObjectModel.Proofs.Isolation

/-!
# Ownership of eigenclasses

An eigenclass belongs to one object for good.  From the moment when the object is first asked for it
the object answers with the same eigenclass, whatever happens to the store in the meantime, and
nothing is made anew.  Its superclass stays the class that the object was made as, and nobody else
ever gets it.

This is so because stores only grow and because every reachable store is sound.  Soundness also
keeps eigenclasses and modules from becoming superclasses of named classes.

## Main definitions

* `Operations` — any number of operations.

## Main results

* `Operations.grows` — operations go up in the order of stores.
* `Reachable.eigenclass_lasting` — an object keeps its eigenclass, and shares it with nothing.
-/

namespace ObjectModel

open Store

variable {strict : Bool} {core : Core} {s t : Store} {value : Value} {c e parent : ClassRef}

/-- Any number of operations. -/
abbrev Operations (strict : Bool) : Store → Store → Prop :=
  Relation.ReflTransGen (Operation strict)

theorem Reachable.later (h : Reachable strict s) (hst : Operations strict s t) :
    Reachable strict t :=
  Relation.ReflTransGen.trans h hst

/-- Operations go up in the order of stores. -/
theorem Operations.grows (hst : Operations strict s t) (h : Reachable strict s) : s.Grows t := by
  induction hst with
  | refl => exact .refl s
  | tail hsu hoperation ih =>
    have hsteps := hoperation.steps (h.later hsu).steps
    exact ih.trans (Steps.grows hsteps)

/-- An object that has an eigenclass has it in every later store. -/
theorem Store.Grows.eigenclass? (h : s.Grows t) (he : s.eigenclass? value = some e) :
    t.eigenclass? value = some e := by
  obtain ⟨carrier, rfl, hcarried⟩ := eigenclass?_eq_some_iff.1 he
  rw [eigenclass?_toValue]
  exact h.carried hcarried

/-- To send `singleton_class` is to ask for the eigenclass. -/
theorem KernelMethod.run_singletonClass {ctx : NativeContext} {args : List Value}
    (h : s.ensureEigenclass ctx.core value = .ok (e, t)) :
    KernelMethod.singletonClass.run ctx value args s = some (.cls e, t) := by
  have hattempt : Action.attempt (fun s => s.ensureEigenclass ctx.core value) s =
      some (.ok e, t) := by
    rw [Action.attempt, h]
  change (Action.attempt (fun s => s.ensureEigenclass ctx.core value) s).bind _ = _
  rw [hattempt]
  rfl

/-- The superclass of a new class is the one that it was made below, and plain, for good. -/
theorem Reachable.superclass?_of_makeClass {u : Store} {name : String} (h : Reachable strict s)
    (hmade : s.makeClass name parent = .ok (c, t)) (htu : Operations strict t u) :
    u.superclass? c = some parent ∧ (u.classes.read parent).kind = .plain := by
  have hstep : Step strict Core.initial s t := .makeClass hmade
  have hgrows := htu.grows (h.tail (.step hstep))
  obtain ⟨hplain, rfl, ht⟩ := makeClass_eq_ok hmade
  have hparent : parent.index < s.classes.size := index_lt_of_kind (by rw [hplain]; decide)
  constructor
  · have hsuper : t.superclass? s.classes.next = some parent := by
      rw [superclass?, ht]
      exact congrArg ClassCell.superclass? (s.classes.read_add_next _)
    rw [hgrows.superclass? (index_lt_of_superclass? hsuper), hsuper]
  · rw [(hstep.grows.trans hgrows).kind hparent, hplain]

/-- **Ownership of eigenclasses.**  In every reachable store, an object with an eigenclass keeps it
through all that may be done later.  To ask for it again, also by a message, answers it and changes
nothing, and its superclass stays the birth class of the object.  Whoever asks for an eigenclass has
one from then on; no two objects have the same; and a class that is made below another never has an
eigenclass or a module for its superclass. -/
theorem Reachable.eigenclass_lasting (h : Reachable strict s) :
    (∀ value e, s.eigenclass? value = some e → ∃ birth, ∀ t, Operations strict s t →
      t.eigenclass? value = some e ∧
      t.ensureEigenclass Core.initial value = .ok (e, t) ∧
      (∀ ctx args, ctx.core = Core.initial →
        KernelMethod.singletonClass.run ctx value args t = some (.cls e, t)) ∧
      (t.classes.read e).kind = .eigenclass ∧
      t.birthClass? Core.initial value = some birth ∧ t.superclass? e = some birth) ∧
    (∀ value e t, s.Live value → s.ensureEigenclass Core.initial value = .ok (e, t) →
      Operation strict s t ∧ t.eigenclass? value = some e) ∧
    (∀ a b e, s.eigenclass? a = some e → s.eigenclass? b = some e → a.identical b = true) ∧
    (∀ name parent c t, s.makeClass name parent = .ok (c, t) →
      ∀ u, Operations strict t u →
        u.superclass? c = some parent ∧ (u.classes.read parent).kind = .plain) := by
  refine ⟨fun value e he => ?_, fun value e t hlive hmade => ?_, fun a b e ha hb => ?_,
    fun name parent c t hmade u htu => h.superclass?_of_makeClass hmade htu⟩
  · obtain ⟨carrier, rfl, hcarried⟩ := eigenclass?_eq_some_iff.1 he
    obtain ⟨birth, hbirth, -⟩ := h.sound.eigenclass_superclass hcarried
    refine ⟨birth, fun t hst => ?_⟩
    have hgrows := hst.grows h
    have ht := (h.later hst).sound
    have he' := hgrows.eigenclass? he
    have hcarried' := hgrows.carried hcarried
    have hagain : t.ensureEigenclass Core.initial carrier.toValue = .ok (e, t) :=
      ensureEigenclass_of_carried he'
    have hbirth' := hgrows.birthClass? hbirth
    obtain ⟨birth', hsame, hsuper⟩ := ht.eigenclass_superclass hcarried'
    rw [hbirth'] at hsame
    cases hsame
    refine ⟨he', hagain, fun ctx args hcore => ?_, ht.eigenclass_kind hcarried', hbirth', hsuper⟩
    exact KernelMethod.run_singletonClass (hcore ▸ hagain)
  · refine ⟨.step (.ensureEigenclass hlive hmade), ?_⟩
    rcases ensureEigenclass_eq_ok hmade with ⟨hown, rfl⟩ | ⟨carrier, -, rfl, -⟩
    · exact hown
    · rw [eigenclass?_toValue]
      exact carried?_of_ensureEigenclass hmade
  · obtain ⟨carrier, rfl, hcarried⟩ := eigenclass?_eq_some_iff.1 ha
    obtain ⟨other, rfl, hcarried'⟩ := eigenclass?_eq_some_iff.1 hb
    cases h.sound.owner_unique hcarried hcarried'
    refine Value.identical_iff.2 ⟨?_, rfl⟩
    cases carrier <;> rfl

/-- A bare object has its eigenclass still after a class has been made below `Object`, and the class
is below `Object`. -/
theorem eigenclass_lasting_withObject :
    ∃ e u c t, Reachable false withObject ∧
      withObject.ensureEigenclass Core.initial (.object ⟨0⟩) = .ok (e, u) ∧ Reachable false u ∧
      u.makeClass "A" Core.initial.object = .ok (c, t) ∧
      t.superclass? c = some Core.initial.object ∧
      t.ensureEigenclass Core.initial (.object ⟨0⟩) = .ok (e, t) := by
  have h := reachable_withObject false
  have hlive : withObject.Live (Carrier.object ⟨0⟩).toValue := Nat.one_pos
  obtain ⟨e, u, hmade⟩ := exists_ensureEigenclass Core.initial hlive
  obtain ⟨hoperation, hown⟩ := h.eigenclass_lasting.2.1 _ e u hlive hmade
  have hu : Reachable false u := h.tail hoperation
  have hkind : (u.classes.read Core.initial.object).kind = .plain :=
    hu.sound.core_plain (by decide +kernel)
  obtain ⟨⟨c, t⟩, hclass⟩ : ∃ made, u.makeClass "A" Core.initial.object = .ok made := by
    simp [makeClass, hkind]
  have hstep : Operation false u t := .step (.makeClass hclass)
  obtain ⟨birth, hlasting⟩ := hu.eigenclass_lasting.1 _ e hown
  obtain ⟨-, hagain, -⟩ := hlasting t (.single hstep)
  obtain ⟨hsuper, -⟩ := hu.eigenclass_lasting.2.2.2 "A" _ c t hclass t .refl
  exact ⟨e, u, c, t, h, hmade, hu, hclass, hsuper, hagain⟩

end ObjectModel
