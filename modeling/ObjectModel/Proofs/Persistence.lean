import ObjectModel.Proofs.Ownership

/-!
# What lasts

The order of stores says of each cell what may still happen to it.  Here it is said of what can be
asked about classes, values, arrays, tables and scopes, between any store of a run and any later
one.  Two answers that need a walk through the store last as well.  A class descends from the same
classes for ever, because superclasses never change.  And a receiver that has once answered to a
name goes on answering to it: a name is never taken out of a table, and an eigenclass that the
receiver gets in the meantime goes on where the lookup started before.

## Main results

* `Store.Grows.lineage`, `Store.Grows.descendsFrom` — descent lasts.
* `Store.Sound.understands_of_grows` — so does being able to answer.
* `Reachable.only_grows` — what lasts in every run.
-/

namespace ObjectModel

namespace Store

variable {strict : Bool} {core : Core} {s t : Store} {c d : ClassRef} {name : String}

/-! ### Tables -/

/-- An array keeps its elements, the same values in the same places. -/
theorem Grows.elements (h : s.Grows t) (ref : ArrayRef) : s.elements ref <+: t.elements ref := by
  rcases Nat.lt_or_ge ref.index s.arrays.size with hin | hout
  · exact h.arrays.read hin
  · rw [elements_of_size_le hout]
    exact List.nil_prefix

/-- A class keeps the names in its own table. -/
theorem Grows.localMethod? (h : s.Grows t) (hname : (s.localMethod? c name).isSome = true) :
    (t.localMethod? c name).isSome = true := by
  rcases Nat.lt_or_ge c.index s.classes.size with hin | hout
  · exact (h.classes.read hin).methods hname
  · rw [Store.localMethod?, Cells.read_of_size_le hout] at hname
    cases hname

/-- An object keeps its instance variables. -/
theorem Grows.ivar? (h : s.Grows t) {ref : ObjectRef} (hname : (s.ivar? ref name).isSome = true) :
    (t.ivar? ref name).isSome = true := by
  rcases Nat.lt_or_ge ref.index s.objects.size with hin | hout
  · exact (h.objects.read hin).ivars hname
  · rw [Store.ivar?, Cells.read_of_size_le hout] at hname
    cases hname

/-- A scope keeps the names that it binds. -/
theorem Grows.binds (h : s.Grows t) {scope : ScopeRef} (hname : s.binds scope name = true) :
    t.binds scope name = true := by
  rw [Store.binds, localValue?] at hname ⊢
  rcases Nat.lt_or_ge scope.index s.scopes.size with hin | hout
  · exact (h.scopes.read hin).bindings hname
  · rw [Cells.read_of_size_le hout] at hname
    cases hname

/-- The scope around a scope never changes. -/
theorem Grows.parentScope? (h : s.Grows t) {scope : ScopeRef}
    (hin : scope.index < s.scopes.size) : t.parentScope? scope = s.parentScope? scope :=
  (h.scopes.read hin).parent?

/-! ### Descent -/

/-- A class keeps its lineage. -/
theorem Grows.lineage (h : s.Grows t) (hc : c.index < s.classes.size) :
    t.lineage c = s.lineage c := by
  fun_induction Store.lineage s c with
  | case1 c ih =>
    rw [Store.lineage, h.superclass? hc]
    cases hparent : s.superclass? c with
    | none => rfl
    | some parent =>
      by_cases older : parent.index < c.index
      · simp [older, ih parent older (Nat.lt_trans older hc)]
      · simp [older]

theorem Grows.descendsFrom (h : s.Grows t) (hc : c.index < s.classes.size) (other : ClassRef) :
    t.descendsFrom c other = s.descendsFrom c other := by
  rw [Store.descendsFrom, h.lineage hc, Store.descendsFrom]

/-! ### Answering -/

/-- A class has a method exactly when some class of its lineage has the name in its own table. -/
theorem resolve?_isSome_iff : (s.resolve? c name).isSome = true ↔
    ∃ d ∈ s.lineage c, (s.localMethod? d name).isSome = true := by
  simp [resolve?, List.findSome?_isSome_iff]

theorem understands_iff {receiver : Value} : s.understands core receiver name = true ↔
    ∃ c, s.classOf? core receiver = some c ∧ (s.resolve? c name).isSome = true := by
  unfold understands
  constructor
  · intro hknown
    cases hlookup : s.methodFor core receiver name with
    | ok found =>
      obtain ⟨c, hc, hresolve⟩ := methodFor_ok_iff.1 hlookup
      exact ⟨c, hc, by simp [hresolve]⟩
    | error fault =>
      rw [hlookup] at hknown
      cases hknown
  · rintro ⟨c, hc, hresolve⟩
    obtain ⟨found, hfound⟩ := Option.isSome_iff_exists.1 hresolve
    rw [methodFor_ok_iff.2 ⟨c, hc, hfound⟩]
    rfl

/-- What a lookup passed it still passes: the lookup starts in the same class, or in an eigenclass
that the receiver has got since, which is below that class. -/
theorem Sound.lineage_subset_of_grows (ht : t.Sound strict core) (h : s.Grows t)
    (hs : s.Sound strict core) {receiver : Value} (hc : s.classOf? core receiver = some c) :
    ∃ d, t.classOf? core receiver = some d ∧ s.lineage c ⊆ t.lineage d := by
  have hlineage : t.lineage c = s.lineage c := h.lineage (hs.classOf?_lt hc)
  rw [classOf?_eq] at hc ⊢
  cases hown : s.eigenclass? receiver.payload with
  | some e =>
    rw [hown, Option.some_or] at hc
    cases hc
    refine ⟨c, ?_, ?_⟩
    · rw [h.eigenclass? hown, Option.some_or]
    · rw [hlineage]
      exact List.Subset.refl _
  | none =>
    rw [hown, Option.none_or] at hc
    have hbirth : t.birthClass? core receiver.payload = some c := h.birthClass? hc
    cases hown' : t.eigenclass? receiver.payload with
    | none =>
      refine ⟨c, ?_, ?_⟩
      · rw [hbirth, Option.none_or]
      · rw [hlineage]
        exact List.Subset.refl _
    | some e =>
      obtain ⟨carrier, hcarrier, hcarried⟩ := eigenclass?_eq_some_iff.1 hown'
      rw [hcarrier] at hbirth
      refine ⟨e, ?_, ?_⟩
      · rw [Option.some_or]
      · rw [ht.lineage_of_carried hcarried hbirth, hlineage]
        exact List.subset_cons_self _ _

/-- A receiver that answers to a name goes on answering to it. -/
theorem Sound.understands_of_grows (ht : t.Sound strict core) (h : s.Grows t)
    (hs : s.Sound strict core) {receiver : Value}
    (hknown : s.understands core receiver name = true) :
    t.understands core receiver name = true := by
  obtain ⟨c, hc, hresolve⟩ := understands_iff.1 hknown
  obtain ⟨owner, howner, hlocal⟩ := resolve?_isSome_iff.1 hresolve
  obtain ⟨d, hd, hsubset⟩ := ht.lineage_subset_of_grows h hs hc
  refine understands_iff.2 ⟨d, hd, ?_⟩
  exact resolve?_isSome_iff.2 ⟨owner, hsubset howner, h.localMethod? hlocal⟩

end Store

open Store

variable {strict : Bool} {s t : Store}

/-- **The state only grows.**  Between any store of a run and any later one: a class keeps its name,
kind, tag, layout and superclass; a value stays in the store and keeps its tag and its birth class;
an object keeps its eigenclass; an array keeps its elements in their places; method tables, instance
variables and scopes lose no name, and a scope stays inside the same scope.  So a receiver that
answers to a name goes on answering to it, and a class descends from the same classes. -/
theorem Reachable.only_grows (h : Reachable strict s) (hst : Operations strict s t) :
    (∀ c, c.index < s.classes.size →
      t.className c = s.className c ∧
      (t.classes.read c).kind = (s.classes.read c).kind ∧
      (t.classes.read c).tag = (s.classes.read c).tag ∧
      (t.classes.read c).layout? = (s.classes.read c).layout? ∧
      t.superclass? c = s.superclass? c) ∧
    (∀ value, s.Live value → t.Live value ∧ t.tagOf value = s.tagOf value ∧
      t.birthClass? Core.initial value = s.birthClass? Core.initial value) ∧
    (∀ value e, s.eigenclass? value = some e → t.eigenclass? value = some e) ∧
    (∀ ref, s.elements ref <+: t.elements ref) ∧
    (∀ c name, (s.localMethod? c name).isSome = true → (t.localMethod? c name).isSome = true) ∧
    (∀ ref name, (s.ivar? ref name).isSome = true → (t.ivar? ref name).isSome = true) ∧
    (∀ scope name, s.binds scope name = true → t.binds scope name = true) ∧
    (∀ scope, scope.index < s.scopes.size → t.parentScope? scope = s.parentScope? scope) ∧
    (∀ receiver name, s.understands Core.initial receiver name = true →
      t.understands Core.initial receiver name = true) ∧
    (∀ c other, c.index < s.classes.size → t.descendsFrom c other = s.descendsFrom c other) := by
  have hgrows : s.Grows t := hst.grows h
  have hs := h.sound
  have ht := (h.later hst).sound
  refine ⟨?_, ?_, ?_, hgrows.elements, ?_, ?_, ?_, ?_, ?_, ?_⟩
  · intro c hc
    have hcell : (s.classes.read c).Grows (t.classes.read c) := hgrows.classes.read hc
    exact ⟨hcell.name, hcell.kind, hcell.tag, hcell.layout?, hcell.superclass?⟩
  · intro value hlive
    exact ⟨hgrows.live hlive, hgrows.tagOf hlive, hgrows.birthClass?_eq hlive⟩
  · intro value e hown
    exact hgrows.eigenclass? hown
  · intro c name hname
    exact hgrows.localMethod? hname
  · intro ref name hname
    exact hgrows.ivar? hname
  · intro scope name hname
    exact hgrows.binds hname
  · intro scope hscope
    exact hgrows.parentScope? hscope
  · intro receiver name hknown
    exact ht.understands_of_grows hgrows hs hknown
  · intro c other hc
    exact hgrows.descendsFrom hc other

/-- A bare object that gets an eigenclass still answers to `inspect`. -/
theorem only_grows_withObject :
    ∃ e t, Reachable false withObject ∧ Operations false withObject t ∧
      t.eigenclass? (.object ⟨0⟩) = some e ∧
      withObject.understands Core.initial (.object ⟨0⟩) "inspect" = true ∧
      t.understands Core.initial (.object ⟨0⟩) "inspect" = true := by
  have h := reachable_withObject false
  have hlive : withObject.Live (Carrier.object ⟨0⟩).toValue := Nat.one_pos
  obtain ⟨e, t, hmade⟩ := exists_ensureEigenclass Core.initial hlive
  have hst : Operations false withObject t := .single (.step (.ensureEigenclass hlive hmade))
  have hown : t.eigenclass? (.object ⟨0⟩) = some e := carried?_of_ensureEigenclass hmade
  have hknown : withObject.understands Core.initial (.object ⟨0⟩) "inspect" = true := by
    decide +kernel
  obtain ⟨-, -, -, -, -, -, -, -, hunderstands, -⟩ := h.only_grows hst
  exact ⟨e, t, h, hst, hown, hknown, hunderstands _ _ hknown⟩

end ObjectModel
