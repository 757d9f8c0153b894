import ObjectModel.Proofs.Isolation

/-!
# Classes of classes

A class is an instance of something too: of its eigenclass, once it has got one, and until then of
`Class`, or of `Module` if it is a module.  Eigenclasses can be put on eigenclasses, on `Class` and
on `Module`, so going from a class to its class may lead through any number of eigenclasses, and
from `Class` it leads in a circle.  It always comes to `Class`, because an eigenclass is younger
than the class that carries it and no two have the same.

## Main definitions

* `Store.classAfter` — the class of a class, the class of that, and so on.

## Main results

* `Store.Sound.exists_classAfter_of_kind` — what is no module comes to `Class`.
* `Reachable.classAfter_cls` — every class-object comes to `Class`.
-/

namespace ObjectModel

namespace Store

variable {strict : Bool} {core : Core} {s : Store} {c e : ClassRef}

/-- What `n` steps from a class to its class lead to. -/
def classAfter (s : Store) (core : Core) : Nat → ClassRef → Option ClassRef
  | 0, c => some c
  | n + 1, c => (s.classOf? core (.cls c)).bind (s.classAfter core n)

theorem classAfter_succ (h : s.classOf? core (.cls c) = some e) (n : Nat) :
    s.classAfter core (n + 1) c = s.classAfter core n e := by
  rw [classAfter, h, Option.bind_some]

/-- The class of a class with an eigenclass is the eigenclass. -/
theorem classOf?_cls_of_carried (h : s.carried? (.cls c) = some e) :
    s.classOf? core (.cls c) = some e := by
  have hown : s.eigenclass? (.cls c) = some e := h
  simp [classOf?_eq, Value.payload, hown]

/-- Without one it is `Class` or `Module`. -/
theorem classOf?_cls_of_not_carried (h : s.carried? (.cls c) = none)
    (hc : c.index < s.classes.size) :
    s.classOf? core (.cls c) = some (core.metaclass (s.classes.read c)) := by
  have hbare : s.classOf? core (.cls c) = s.birthClass? core (.cls c) :=
    classOf?_of_not_carried h
  rw [hbare, birthClass?, Cells.get?_of_lt hc, Option.map_some]

theorem metaclass_of_kind {cell : ClassCell} (h : cell.kind ≠ .module) :
    core.metaclass cell = core.cls := by
  unfold Core.metaclass
  split
  · next hkind => exact absurd hkind h
  · rfl
  · rfl

/-- What is no module comes to `Class`, in no more steps than there are classes from it on.  The
induction is on how many these are: an eigenclass is younger than its class. -/
theorem Sound.exists_classAfter_of_kind (hs : s.Sound strict core) (hc : c.index < s.classes.size)
    (hkind : (s.classes.read c).kind ≠ .module) :
    ∃ n, 0 < n ∧ c.index + n ≤ s.classes.size ∧ s.classAfter core n c = some core.cls := by
  induction hleft : s.classes.size - c.index using Nat.strongRecOn generalizing c with
  | ind left ih =>
    cases hown : s.carried? (.cls c) with
    | none =>
      have hclass : s.classOf? core (.cls c) = some core.cls := by
        rw [classOf?_cls_of_not_carried hown hc, metaclass_of_kind hkind]
      refine ⟨1, Nat.one_pos, hc, ?_⟩
      rw [classAfter_succ hclass, classAfter]
    | some e =>
      have hyounger : c.index < e.index := hs.carrier_older hown
      have he : e.index < s.classes.size := hs.eigenclass_lt hown
      have hekind : (s.classes.read e).kind ≠ .module := by
        rw [hs.eigenclass_kind hown]
        decide
      obtain ⟨n, -, hn, hafter⟩ := ih _ (by omega) he hekind rfl
      refine ⟨n + 1, Nat.succ_pos n, by omega, ?_⟩
      rw [classAfter_succ (classOf?_cls_of_carried hown), hafter]

/-- One more step is enough for a module: it leads to its eigenclass or to `Module`, and neither
is a module. -/
theorem Sound.exists_classAfter (hs : s.Sound strict core) (hc : c.index < s.classes.size) :
    ∃ n, 0 < n ∧ n ≤ s.classes.size + 1 ∧ s.classAfter core n c = some core.cls := by
  obtain ⟨d, hclass, hd, hkind⟩ : ∃ d, s.classOf? core (.cls c) = some d ∧
      d.index < s.classes.size ∧ (s.classes.read d).kind ≠ .module := by
    cases hown : s.carried? (.cls c) with
    | none =>
      have hmem : core.metaclass (s.classes.read c) ∈ core.classes := by
        unfold Core.metaclass
        split <;> simp [Core.classes, Core.all]
      refine ⟨_, classOf?_cls_of_not_carried hown hc, hs.core_lt hmem, ?_⟩
      rw [hs.core_plain hmem]
      decide
    | some e =>
      refine ⟨e, classOf?_cls_of_carried hown, hs.eigenclass_lt hown, ?_⟩
      rw [hs.eigenclass_kind hown]
      decide
  obtain ⟨n, -, hn, hafter⟩ := hs.exists_classAfter_of_kind hd hkind
  refine ⟨n + 1, Nat.succ_pos n, by omega, ?_⟩
  rw [classAfter_succ hclass, hafter]

end Store

open Store

variable {strict : Bool} {s : Store} {c : ClassRef}

/-- **Every class-object comes to `Class`.**  In every reachable store, and from every class, module
or eigenclass in it, finitely many steps from a class to its class lead to `Class`, and one step
more than there are classes is enough.  From `Class` itself they lead back to it. -/
theorem Reachable.classAfter_cls (h : Reachable strict s) (hc : c.index < s.classes.size) :
    ∃ n, 0 < n ∧ n ≤ s.classes.size + 1 ∧
      s.classAfter Core.initial n c = some Core.initial.cls :=
  h.sound.exists_classAfter hc

/-- `Class` with an eigenclass that has an eigenclass of its own: from `Class` the steps lead
through both and back. -/
theorem classAfter_cls_circle :
    ∃ t e f, Reachable false t ∧ t.carried? (.cls Core.initial.cls) = some e ∧
      t.carried? (.cls e) = some f ∧ f.index < t.classes.size ∧
      ∃ n, 0 < n ∧ n ≤ t.classes.size + 1 ∧
        t.classAfter Core.initial n f = some Core.initial.cls := by
  have hinitial : Reachable false Store.initial := .refl
  have hlive : Store.initial.Live (Carrier.cls Core.initial.cls).toValue :=
    hinitial.sound.core_lt (by decide)
  obtain ⟨e, s, hmade⟩ := exists_ensureEigenclass Core.initial hlive
  have hstep : Step false Core.initial Store.initial s := .ensureEigenclass hlive hmade
  have hs : Reachable false s := hinitial.tail (.step hstep)
  have he : s.carried? (.cls Core.initial.cls) = some e := carried?_of_ensureEigenclass hmade
  have hlive' : s.Live (Carrier.cls e).toValue := hs.sound.eigenclass_lt he
  obtain ⟨f, t, hmade'⟩ := exists_ensureEigenclass Core.initial hlive'
  have hstep' : Step false Core.initial s t := .ensureEigenclass hlive' hmade'
  have ht : Reachable false t := hs.tail (.step hstep')
  have hf : t.carried? (.cls e) = some f := carried?_of_ensureEigenclass hmade'
  have hlt := ht.sound.eigenclass_lt hf
  exact ⟨t, e, f, ht, hstep'.grows.carried he, hf, hlt, ht.classAfter_cls hlt⟩

end ObjectModel
