import ObjectModel.Proofs.Isolation

/-!
# Instances and their classes

Only plain classes have instances, and an instance is what its class allocates.  For objects this
holds in every reachable store, because the layout of a class is looked up whenever an object is
made.  For exceptions it holds as far as they are made of classes of exceptions, as the built-in
methods make them.  Whoever makes an exception directly is asked for no such thing, and can make one
of an eigenclass.

## Main definitions

* `Layout.tag` — the tag of the instances of a layout.
* `Store.Agrees` — an instance agrees with its class.

## Main results

* `Reachable.instances_agree` — which instances agree with their classes.
* `not_agrees_exceptionOfEigenclass` — an exception that does not.
-/

namespace ObjectModel

open Store

variable {strict : Bool} {s t : Store} {value : Value} {c : ClassRef}

/-- The tag of the instances of a layout. -/
def Layout.tag : Layout → Tag
  | basicObject => .basicObject
  | object => .object
  | exception => .exception

/-- What is allocated as an object has the tag of its layout. -/
theorem Layout.tag_of_objectTag? {layout : Layout} {tag : Tag} (h : layout.objectTag? = some tag) :
    layout.tag = tag := by
  cases layout <;> cases h <;> rfl

/-- An instance agrees with its class if the class is plain and has the layout of the instance. -/
def Store.Agrees (s : Store) (core : Core) (value : Value) : Prop :=
  ∃ c, s.birthClass? core value = some c ∧ (s.classes.read c).kind = .plain ∧
    (s.classes.read c).layout?.map Layout.tag = some (s.tagOf value)

/-- In a sound store every object agrees with its class. -/
theorem Store.Sound.agrees_object {core : Core} {ref : ObjectRef} (hs : s.Sound strict core)
    (hlive : s.Live (.object ref)) : s.Agrees core (.object ref) := by
  have hcell : s.objects.get? ref = some (s.objects.read ref) := Cells.get?_of_lt hlive
  obtain ⟨layout, hlayout, htag⟩ := Option.bind_eq_some_iff.1 (hs.object_layout hcell)
  refine ⟨(s.objects.read ref).cls, ?_, hs.layout_plain hlayout, ?_⟩
  · rw [birthClass?, hcell, Option.map_some]
  · rw [hlayout, Option.map_some, Layout.tag_of_objectTag? htag, tagOf]

/-- An exception agrees with its class if this is a class of exceptions, and only then. -/
theorem Store.Sound.agrees_exception_iff {core : Core} {ref : ExceptionRef}
    (hs : s.Sound strict core) (hlive : s.Live (.exception ref)) :
    s.Agrees core (.exception ref) ↔
      (s.classes.read (s.exceptions.read ref).cls).layout? = some .exception := by
  have hcell : s.exceptions.get? ref = some (s.exceptions.read ref) := Cells.get?_of_lt hlive
  have hbirth : s.birthClass? core (.exception ref) = some (s.exceptions.read ref).cls := by
    rw [birthClass?, hcell, Option.map_some]
  constructor
  · rintro ⟨c, hc, -, htag⟩
    rw [hbirth] at hc
    cases hc
    obtain ⟨layout, hlayout, htag⟩ := Option.map_eq_some_iff.1 htag
    rw [hlayout]
    cases layout with
    | exception => rfl
    | basicObject => cases htag
    | object => cases htag
  · intro hlayout
    refine ⟨_, hbirth, hs.layout_plain hlayout, ?_⟩
    rw [hlayout, Option.map_some, tagOf, Layout.tag]

/-- What `class` answers is the birth class. -/
theorem KernelMethod.run_classOf (ctx : NativeContext) (value : Value) (args : List Value)
    (s : Store) : KernelMethod.classOf.run ctx value args s =
      some (((s.birthClass? ctx.core value).map .cls).getD .nil, s) := by
  rw [KernelMethod.run, Action.get_bind]
  cases s.birthClass? ctx.core value <;> rfl

/-- **Instances agree with their classes.**  In every reachable store the objects do.  An exception
does if it is one of a class of exceptions, and only then.  So all instances agree with their
classes as long as exceptions are made of such classes, and then `class` never answers an eigenclass
or a module. -/
theorem Reachable.instances_agree (h : Reachable strict s) :
    (∀ ref, s.Live (.object ref) → s.Agrees Core.initial (.object ref)) ∧
    (∀ ref, s.Live (.exception ref) → (s.Agrees Core.initial (.exception ref) ↔
      (s.classes.read (s.exceptions.read ref).cls).layout? = some .exception)) ∧
    (strict = true →
      (∀ ref, s.Live (.exception ref) → s.Agrees Core.initial (.exception ref)) ∧
      ∀ ctx value args c t, ctx.core = Core.initial →
        KernelMethod.classOf.run ctx value args s = some (.cls c, t) →
        (t.classes.read c).kind = .plain) := by
  have hs := h.sound
  refine ⟨fun ref => hs.agrees_object, fun ref => hs.agrees_exception_iff, ?_⟩
  rintro rfl
  refine ⟨fun ref hlive => ?_, fun ctx value args c t hcore hrun => ?_⟩
  · have hcell : s.exceptions.get? ref = some (s.exceptions.read ref) := Cells.get?_of_lt hlive
    exact (hs.agrees_exception_iff hlive).2 (hs.exception_layout rfl hcell)
  · rw [KernelMethod.run_classOf, hcore] at hrun
    cases hbirth : s.birthClass? Core.initial value with
    | none =>
      rw [hbirth] at hrun
      cases hrun
    | some birth =>
      rw [hbirth] at hrun
      cases hrun
      exact hs.birthClass?_plain hbirth

/-- A bare object and an exception. -/
def Store.withException : Store := (withObject.newException Core.initial.exception "m").2

theorem reachable_withException : Reachable true withException := by
  have hlayout : (withObject.classes.read Core.initial.exception).layout? = some .exception := by
    decide +kernel
  exact (reachable_withObject true).tail
    (.step (.newException (index_lt_of_layout? hlayout) fun _ => hlayout))

/-- Each of them agrees with its class, and asked for its class the exception answers
`Exception`. -/
theorem instances_agree_withException :
    Reachable true withException ∧ withException.Live (.object ⟨0⟩) ∧
      withException.Agrees Core.initial (.object ⟨0⟩) ∧ withException.Live (.exception ⟨0⟩) ∧
      (withException.classes.read (withException.exceptions.read ⟨0⟩).cls).layout? =
        some .exception ∧
      withException.Agrees Core.initial (.exception ⟨0⟩) ∧
      KernelMethod.classOf.run (.exhausted Core.initial) (.exception ⟨0⟩) [] withException =
        some (.cls Core.initial.exception, withException) ∧
      (withException.classes.read Core.initial.exception).kind = .plain := by
  have h := reachable_withException
  have hobject : withException.Live (.object ⟨0⟩) := Nat.one_pos
  have hexception : withException.Live (.exception ⟨0⟩) := Nat.one_pos
  have hlayout : (withException.classes.read (withException.exceptions.read ⟨0⟩).cls).layout? =
      some .exception := by decide +kernel
  have hclass : KernelMethod.classOf.run (.exhausted Core.initial) (.exception ⟨0⟩) []
      withException = some (.cls Core.initial.exception, withException) := rfl
  obtain ⟨hobjects, hexceptions, hstrict⟩ := h.instances_agree
  obtain ⟨-, hplain⟩ := hstrict rfl
  exact ⟨h, hobject, hobjects ⟨0⟩ hobject, hexception, hlayout,
    (hexceptions ⟨0⟩ hexception).2 hlayout, hclass, hplain _ _ _ _ _ rfl hclass⟩

/-- A string with an eigenclass, and an exception that was made of the eigenclass. -/
def Store.exceptionOfEigenclass : Store :=
  let s := (Store.initial.newString "a").2
  match s.ensureEigenclass Core.initial (.string ⟨0⟩) with
  | .ok (e, t) => (t.newException e "m").2
  | .error _ => s

/-- Operations lead to an exception whose class is the eigenclass of a string, and which does not
agree with it. -/
theorem not_agrees_exceptionOfEigenclass :
    Reachable false exceptionOfEigenclass ∧ exceptionOfEigenclass.Live (.exception ⟨0⟩) ∧
      (∃ e, exceptionOfEigenclass.birthClass? Core.initial (.exception ⟨0⟩) = some e ∧
        exceptionOfEigenclass.eigenclass? (.string ⟨0⟩) = some e ∧
        (exceptionOfEigenclass.classes.read e).kind = .eigenclass) ∧
      ¬ exceptionOfEigenclass.Agrees Core.initial (.exception ⟨0⟩) := by
  have hstring : Operation false Store.initial (Store.initial.newString "a").2 := .step .newString
  have hlive : (Store.initial.newString "a").2.Live (Carrier.string ⟨0⟩).toValue := Nat.one_pos
  obtain ⟨e, t, hmade⟩ := exists_ensureEigenclass Core.initial hlive
  have heigenclass : Operation false (Store.initial.newString "a").2 t :=
    .step (.ensureEigenclass hlive hmade)
  have ht : Reachable false t := (Relation.ReflTransGen.single hstring).tail heigenclass
  have he : e.index < t.classes.size := ht.sound.eigenclass_lt (carried?_of_ensureEigenclass hmade)
  have hexception : Operation false t (t.newException e "m").2 := .step (.newException he nofun)
  have hmade' : (Store.initial.newString "a").2.ensureEigenclass Core.initial (.string ⟨0⟩) =
      .ok (e, t) := hmade
  have heq : exceptionOfEigenclass = (t.newException e "m").2 := by
    simp only [exceptionOfEigenclass, hmade']
  have hbirth : exceptionOfEigenclass.birthClass? Core.initial (.exception ⟨0⟩) = some ⟨12⟩ := by
    decide +kernel
  have hkind : (exceptionOfEigenclass.classes.read ⟨12⟩).kind = .eigenclass := by decide +kernel
  have hlt : 0 < exceptionOfEigenclass.exceptions.size := by decide +kernel
  refine ⟨heq ▸ ht.tail hexception, hlt, ⟨_, hbirth, by decide +kernel, hkind⟩, ?_⟩
  rintro ⟨c, hc, hplain, -⟩
  rw [hbirth] at hc
  cases hc
  rw [hkind] at hplain
  cases hplain

end ObjectModel
