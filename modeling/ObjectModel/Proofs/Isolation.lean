import ObjectModel.Proofs.Definition

/-!
# Methods for one object

An eigenclass is in the way of its own object and of nothing else.  To make one changes the answer
of no lookup, because it is empty and stands before the class where the lookup went on anyway.  To
define a method in it changes what its object answers to that name, and nothing else.

The reason is in the kinds of classes.  A superclass of a plain class is plain, and so is every
birth class, as long as exceptions are made of classes of exceptions only.  So an eigenclass can
only come first on a search path, where no two objects have the same one.

## Main results

* `Store.Sound.payload_eq_of_mem_lineage` — whose lookups pass an eigenclass.
* `Store.Sound.methodFor_ensureEigenclass` — a new eigenclass changes no answer.
* `Store.Sound.methodFor_defineMethod_of_carried` — nor does a method in it, for anything else.
* `Reachable.defineOnObject_isolated` — the effect of a method for one object.
-/

namespace ObjectModel

namespace Store

variable {strict : Bool} {core : Core} {s t : Store} {c e : ClassRef} {carrier : Carrier}
  {value receiver : Value}

/-! ### Whose lookups pass an eigenclass -/

/-- Above a plain class there are plain classes only. -/
theorem Sound.plain_of_mem_lineage (hs : s.Sound strict core)
    (hc : (s.classes.read c).kind = .plain) {d : ClassRef} (hd : d ∈ s.lineage c) :
    (s.classes.read d).kind = .plain := by
  fun_induction lineage s c with
  | case1 c ih =>
    rcases List.mem_cons.1 hd with rfl | hd
    · exact hc
    · cases hparent : s.superclass? c with
      | none =>
        rw [hparent] at hd
        cases hd
      | some parent =>
        have older := hs.layered hparent
        have hplain := hs.superclass_plain hparent (by rw [hc]; decide)
        simp only [hparent, older, dite_true] at hd
        exact ih parent older hplain hd

/-- A lookup that passes the eigenclass of an object is a lookup for that object. -/
theorem Sound.payload_eq_of_mem_lineage (hs : s.Sound true core)
    (hcarried : s.carried? carrier = some e) (hc : s.classOf? core receiver = some c)
    (he : e ∈ s.lineage c) : receiver.payload = carrier.toValue := by
  -- above a birth class there is no eigenclass
  have hnot {birth : ClassRef} (hbirth : s.birthClass? core receiver.payload = some birth) :
      e ∉ s.lineage birth := by
    intro hmem
    have hplain := hs.plain_of_mem_lineage (hs.birthClass?_plain hbirth) hmem
    rw [hs.eigenclass_kind hcarried] at hplain
    cases hplain
  rw [classOf?_eq] at hc
  cases hown : s.eigenclass? receiver.payload with
  | none =>
    rw [hown, Option.none_or] at hc
    exact absurd he (hnot hc)
  | some own =>
    rw [hown, Option.some_or] at hc
    cases hc
    obtain ⟨other, hother, hcarried'⟩ := eigenclass?_eq_some_iff.1 hown
    obtain ⟨birth, hbirth, -⟩ := hs.eigenclass_superclass hcarried'
    rw [hs.lineage_of_carried hcarried' hbirth] at he
    rcases List.mem_cons.1 he with rfl | he
    · rw [hother, hs.owner_unique hcarried hcarried']
    · rw [← hother] at hbirth
      exact absurd he (hnot hbirth)

/-! ### A new eigenclass -/

/-- Every value that can carry an eigenclass gets one when asked for it. -/
theorem exists_ensureEigenclass (core : Core) (hlive : s.Live carrier.toValue) :
    ∃ e t, s.ensureEigenclass core carrier.toValue = .ok (e, t) := by
  cases hcarried : s.carried? carrier with
  | some e =>
    have hown : s.eigenclass? carrier.toValue = some e := by rw [eigenclass?_toValue, hcarried]
    exact ⟨e, s, ensureEigenclass_of_carried hown⟩
  | none =>
    obtain ⟨birth, hbirth⟩ := Sound.birthClass?_isSome core hlive
    rw [← classOf?_of_not_carried hcarried] at hbirth
    unfold ensureEigenclass
    simp only [Carrier.carrier?_toValue, hbirth, hcarried]
    exact ⟨_, _, rfl⟩

/-- From then on the object carries it. -/
theorem carried?_of_ensureEigenclass (h : s.ensureEigenclass core carrier.toValue = .ok (e, t)) :
    t.carried? carrier = some e := by
  rcases ensureEigenclass_eq_ok h with ⟨hown, rfl⟩ | ⟨owner, birth, heq, -, -, -, rfl⟩
  · rwa [eigenclass?_toValue] at hown
  · rw [carried?_attach, if_pos (Carrier.toValue_inj.1 heq)]

/-- A new eigenclass is empty and stands before the birth class of its object, so it has under each
name what the birth class has; and every other value keeps its class. -/
theorem Sound.resolve?_newEigenclass (hs : s.Sound strict core) {name : String} (key : String)
    {birth : ClassRef} (hcarried : s.carried? carrier = none)
    (hbirth : s.birthClass? core carrier.toValue = some birth)
    (ht : t = (s.makeEigenclass name birth).2.attach carrier s.classes.next)
    (hgrows : s.Grows t) (hlive : s.Live receiver) :
    (t.classOf? core receiver).map (t.resolve? · key) =
      (s.classOf? core receiver).map (s.resolve? · key) := by
  have hread (d : ClassRef) (hd : d.index < s.classes.size) :
      t.classes.read d = s.classes.read d := by
    rw [ht]
    exact s.classes.read_add_of_lt _ hd
  by_cases heq : receiver.payload = carrier.toValue
  -- the object itself starts in its eigenclass now, and goes on where it started before
  · have hold : s.classOf? core receiver = some birth := by
      rw [classOf?_eq, heq, eigenclass?_toValue, hcarried, Option.none_or, hbirth]
    have hnew : t.classOf? core receiver = some s.classes.next := by
      rw [classOf?_eq, heq, eigenclass?_toValue, ht, carried?_attach, if_pos rfl, Option.some_or]
    have hcell : t.classes.read s.classes.next =
        ⟨"#<Class:" ++ name ++ ">", .eigenclass, .eigenclass, none, some birth, ∅⟩ := by
      rw [ht]
      exact s.classes.read_add_next _
    have hsuper : t.superclass? s.classes.next = some birth := by rw [superclass?, hcell]
    have hlocal : t.localMethod? s.classes.next key = none := by
      rw [localMethod?, hcell, NameTable.get?_empty]
    have hlt := hs.birthClass?_lt hbirth
    have hnext := resolve?_of_superclass hsuper hlt hlocal
    rw [hold, hnew, Option.map_some, Option.map_some, hnext,
      resolve?_of_read_eq hs.layered hread hlt key]
  -- everything else starts where it did
  · have hclass : t.classOf? core receiver = s.classOf? core receiver := by
      rw [classOf?_eq, classOf?_eq, hgrows.birthClass?_eq (live_payload.2 hlive), ht,
        eigenclass?_attach_of_ne _ _ heq]
      rfl
    rw [hclass]
    cases hc : s.classOf? core receiver with
    | none => rfl
    | some c =>
      rw [Option.map_some, Option.map_some,
        resolve?_of_read_eq hs.layered hread (hs.classOf?_lt hc) key]

/-- To ask for an eigenclass changes the answer of no lookup. -/
theorem Sound.methodFor_ensureEigenclass (hs : s.Sound strict core) (hvalue : s.Live value)
    (h : s.ensureEigenclass core value = .ok (e, t)) (hlive : s.Live receiver) (key : String) :
    t.methodFor core receiver key = s.methodFor core receiver key := by
  have hstep : Step strict core s t := .ensureEigenclass hvalue h
  rcases ensureEigenclass_eq_ok h with ⟨-, rfl⟩ | ⟨carrier, birth, rfl, hcarried, hbirth, rfl, ht⟩
  · rfl
  · have harrays : t.arrays = s.arrays := by
      rw [ht]
      rfl
    exact hs.methodFor_of_grows hstep.grows harrays hlive
      (hs.resolve?_newEigenclass key hcarried hbirth ht hstep.grows hlive)

/-- A definition in the eigenclass of an object changes the answer of no lookup for anything
else. -/
theorem Sound.methodFor_defineMethod_of_carried (hs : s.Sound true core)
    (hcarried : s.carried? carrier = some e) (name : String) (method : Method)
    (hlive : s.Live receiver) (hne : receiver.payload ≠ carrier.toValue) (key : String) :
    (s.defineMethod e name method).methodFor core receiver key =
      s.methodFor core receiver key := by
  refine hs.methodFor_defineMethod_of_not_exposes (hs.eigenclass_lt hcarried) hlive ?_
  rintro d hd ⟨-, hexposes⟩
  exact hne (hs.payload_eq_of_mem_lineage hcarried hd (hexposes.mem_lineage hs.layered))

end Store

open Store

/-- **Methods for one object.**  In every reachable store where exceptions are made of classes of
exceptions only, and for every object that can carry an eigenclass: to ask for the eigenclass
changes the answer of no lookup.  After the definition of a method for the object alone, the object
answers to the name with that method and to other names as before, and everything else answers to
all names as before.  This includes the eigenclass itself where it is used as a value. -/
theorem Reachable.defineOnObject_isolated {s : Store} (h : Reachable true s) {carrier : Carrier}
    (hlive : s.Live carrier.toValue) (name : String) (method : Method) :
    ∃ e t u, s.ensureEigenclass Core.initial carrier.toValue = .ok (e, t) ∧
      s.defineOnObject Core.initial carrier.toValue name method = .ok u ∧
      u.eigenclass? carrier.toValue = some e ∧
      (∀ receiver key, s.Live receiver →
        t.methodFor Core.initial receiver key = s.methodFor Core.initial receiver key) ∧
      u.methodFor Core.initial carrier.toValue name = .ok ⟨e, method⟩ ∧
      (∀ key, key ≠ name → u.methodFor Core.initial carrier.toValue key =
        s.methodFor Core.initial carrier.toValue key) ∧
      (∀ receiver key, s.Live receiver → receiver.payload ≠ carrier.toValue →
        u.methodFor Core.initial receiver key = s.methodFor Core.initial receiver key) ∧
      (∀ key, u.methodFor Core.initial (.cls e) key = t.methodFor Core.initial (.cls e) key) := by
  obtain ⟨e, t, hmade⟩ := exists_ensureEigenclass Core.initial hlive
  have hs := h.sound
  have hstep : Step true Core.initial s t := .ensureEigenclass hlive hmade
  have ht := hstep.sound hs
  have hsame (receiver : Value) (key : String) (hreceiver : s.Live receiver) :
      t.methodFor Core.initial receiver key = s.methodFor Core.initial receiver key :=
    hs.methodFor_ensureEigenclass hlive hmade hreceiver key
  have hcarried := carried?_of_ensureEigenclass hmade
  have he := ht.eigenclass_lt hcarried
  have hown : t.eigenclass? carrier.toValue = some e := by rw [eigenclass?_toValue, hcarried]
  have hclass : t.classOf? Core.initial carrier.toValue = some e := by
    rw [classOf?_eq, Carrier.payload_toValue, hown, Option.some_or]
  have hdefined : s.defineOnObject Core.initial carrier.toValue name method =
      .ok (t.defineMethod e name method) := by
    rw [defineOnObject, hmade]
    rfl
  refine ⟨e, t, t.defineMethod e name method, hmade, hdefined, hown, hsame, ?_, ?_, ?_, ?_⟩
  · exact methodFor_defineMethod_of_exposes ht.layered he hclass (exposes_self ht.layered e name)
  · intro key hkey
    rw [ht.methodFor_defineMethod_of_not_exposes he (hstep.grows.live hlive)
      fun _ _ hexposed => hkey hexposed.1]
    exact hsame _ key hlive
  · intro receiver key hreceiver hne
    rw [ht.methodFor_defineMethod_of_carried hcarried name method (hstep.grows.live hreceiver) hne]
    exact hsame receiver key hreceiver
  · intro key
    -- no class carries itself as its eigenclass
    have hne : (Value.cls e).payload ≠ carrier.toValue := by
      intro heq
      have howner : Carrier.cls e = carrier := Carrier.toValue_inj.1 heq
      rw [← howner] at hcarried
      exact Nat.lt_irrefl _ (ht.carrier_older hcarried)
    have hlive' : t.Live (.cls e) := he
    exact ht.methodFor_defineMethod_of_carried hcarried name method hlive' hne key

/-- A method for one bare object answers for this object, and `Object` does not learn it. -/
theorem defineOnObject_isolated_withObject :
    Reachable true withObject ∧ withObject.Live (.object ⟨0⟩) ∧
      ∃ e u, withObject.defineOnObject Core.initial (.object ⟨0⟩) "show"
          (.native (.kernel Core.initial.object .inspect)) = .ok u ∧
        u.methodFor Core.initial (.object ⟨0⟩) "show" =
          .ok ⟨e, .native (.kernel Core.initial.object .inspect)⟩ ∧
        u.methodFor Core.initial (.cls Core.initial.object) "show" =
          withObject.methodFor Core.initial (.cls Core.initial.object) "show" := by
  have h := reachable_withObject true
  have hlive : withObject.Live (Carrier.object ⟨0⟩).toValue := Nat.one_pos
  have hclass : withObject.Live (.cls Core.initial.object) := by
    have hlt : Core.initial.object.index < withObject.classes.size := by decide +kernel
    exact hlt
  obtain ⟨e, t, u, -, hdefined, -, -, hfound, -, hother, -⟩ :=
    h.defineOnObject_isolated hlive "show" (.native (.kernel Core.initial.object .inspect))
  refine ⟨h, hlive, e, u, hdefined, hfound, hother _ _ hclass ?_⟩
  intro heq
  cases heq

end ObjectModel
