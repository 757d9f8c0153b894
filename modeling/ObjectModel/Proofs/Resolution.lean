import ObjectModel.Proofs.Reachable

/-!
# Method resolution

Where a message to a value is looked up, and what is found there.  The search path of a value is
its eigenclass, if it has got one, followed by the class it was made as, the superclass of that,
and so on to a class without a superclass.  A lookup itself knows nothing of this path: it starts
in the class of the value and goes along superclasses.  The two come to the same because the
superclass of an eigenclass is the birth class of its object, which holds of every reachable store.

## Main definitions

* `Value.isClassless` — the values that belong to no class.
* `Store.SearchPath` — the classes that answer a message, in their order.

## Main results

* `Store.Sound.searchPath_lineage` — the lineage where a lookup goes is the search path.
* `Reachable.methodFor_searchPath` — a lookup finds the first class on the path with the name.
-/

namespace ObjectModel

/-- Functions, native functions and faults belong to no class. -/
def Value.isClassless : Value → Bool
  | .function _ | .builtin _ _ | .fault _ => true
  | _ => false

namespace Store

variable {strict : Bool} {core : Core} {s : Store}

/-- The classes where a message to a value is looked up: its eigenclass, and the ancestry of its
birth class.  An early return stands for what it carries. -/
def SearchPath (s : Store) (core : Core) (receiver : Value) (classes : List ClassRef) : Prop :=
  ∃ birth path, s.birthClass? core receiver.payload = some birth ∧ s.Ancestry birth path ∧
    classes = (s.eigenclass? receiver.payload).toList ++ path

/-- A value has one search path only. -/
theorem SearchPath.unique {receiver : Value} {as bs : List ClassRef}
    (ha : s.SearchPath core receiver as) (hb : s.SearchPath core receiver bs) : as = bs := by
  obtain ⟨birth, path, hbirth, hpath, rfl⟩ := ha
  obtain ⟨birth', path', hbirth', hpath', rfl⟩ := hb
  rw [hbirth] at hbirth'
  cases hbirth'
  rw [hpath.unique hpath']

/-! ### The class of a value -/

/-- A value without a class answers no message. -/
theorem methodFor_of_isClassless {receiver : Value} (name : String)
    (h : receiver.payload.isClassless = true) :
    ∃ fault, s.methodFor core receiver name = .error fault := by
  have hclass : s.classOf? core receiver = none := by
    rw [classOf?_eq]
    cases hpayload : receiver.payload with
    | function | builtin | fault => rfl
    | _ =>
      rw [hpayload] at h
      cases h
  refine ⟨.noClass name (s.tagOf receiver), ?_⟩
  rw [methodFor, hclass]

/-- Every other value that is in the store has a birth class. -/
theorem exists_birthClass? (core : Core) {value : Value} (hlive : s.Live value)
    (hpending : value.isPending = false) (h : value.isClassless = false) :
    ∃ birth, s.birthClass? core value = some birth := by
  cases hcarrier : value.carrier? with
  | some carrier =>
    obtain rfl := Value.carrier?_eq_some.1 hcarrier
    exact Sound.birthClass?_isSome core hlive
  | none =>
    cases value with
    | nil | int | symbol => exact ⟨_, rfl⟩
    | bool b => cases b <;> exact ⟨_, rfl⟩
    | pending => cases hpending
    | function | builtin | fault => cases h
    | string | array | object | exception | cls => cases hcarrier

/-- The lineage of an eigenclass is the eigenclass and then that of the birth class of its
object. -/
theorem Sound.lineage_of_carried (hs : s.Sound strict core) {carrier : Carrier}
    {e birth : ClassRef} (hcarried : s.carried? carrier = some e)
    (hbirth : s.birthClass? core carrier.toValue = some birth) :
    s.lineage e = e :: s.lineage birth := by
  obtain ⟨birth', hbirth', hsuper⟩ := hs.eigenclass_superclass hcarried
  rw [hbirth] at hbirth'
  cases hbirth'
  exact lineage_of_superclass hsuper (hs.layered hsuper)

/-- A lookup goes along the search path. -/
theorem Sound.searchPath_lineage (hs : s.Sound strict core) {receiver : Value}
    (hlive : s.Live receiver) (h : receiver.payload.isClassless = false) :
    ∃ c, s.classOf? core receiver = some c ∧ s.SearchPath core receiver (s.lineage c) := by
  obtain ⟨birth, hbirth⟩ :=
    exists_birthClass? core (live_payload.2 hlive) receiver.isPending_payload h
  have hpath := ancestry_lineage hs.layered birth
  have hclass := classOf?_eq s core receiver
  -- a lookup starts in the eigenclass if there is one, and in the birth class otherwise
  cases he : s.eigenclass? receiver.payload with
  | none =>
    rw [he, hbirth, Option.none_or] at hclass
    refine ⟨birth, hclass, birth, s.lineage birth, hbirth, hpath, ?_⟩
    rw [he, Option.toList_none, List.nil_append]
  | some e =>
    rw [he, Option.some_or] at hclass
    refine ⟨e, hclass, birth, s.lineage birth, hbirth, hpath, ?_⟩
    obtain ⟨carrier, hcarrier, hcarried⟩ := eigenclass?_eq_some_iff.1 he
    rw [hcarrier] at hbirth
    rw [he, hs.lineage_of_carried hcarried hbirth, Option.toList_some, List.singleton_append]

/-! ### What a lookup answers -/

/-- For a value with a class, a lookup fails exactly when that class has no such method. -/
theorem methodFor_eq_error_iff {receiver : Value} {c : ClassRef}
    (hc : s.classOf? core receiver = some c) (name : String) :
    (∃ fault, s.methodFor core receiver name = .error fault) ↔ s.resolve? c name = none := by
  unfold methodFor
  simp only [hc]
  cases s.resolve? c name <;> simp

end Store

open Store

/-- **Method resolution.**  In every reachable store a value without a class answers no message.
Any other value has a search path; a lookup finds the method of the first class on the path that
has the name in its own table, and it fails exactly when no class on the path has the name. -/
theorem Reachable.methodFor_searchPath {strict : Bool} {s : Store} (h : Reachable strict s)
    {receiver : Value} (hlive : s.Live receiver) (name : String) :
    (receiver.payload.isClassless = true →
      ∃ fault, s.methodFor Core.initial receiver name = .error fault) ∧
    (receiver.payload.isClassless = false →
      ∃ classes, s.SearchPath Core.initial receiver classes ∧
        (∀ found, s.methodFor Core.initial receiver name = .ok found ↔
          ∃ before after, classes = before ++ found.owner :: after ∧
            (∀ c ∈ before, s.localMethod? c name = none) ∧
            s.localMethod? found.owner name = some found.method) ∧
        ((∃ found, s.methodFor Core.initial receiver name = .ok found) ↔
          ∃ c ∈ classes, ∃ method, s.localMethod? c name = some method) ∧
        ((∃ fault, s.methodFor Core.initial receiver name = .error fault) ↔
          ∀ c ∈ classes, s.localMethod? c name = none)) := by
  refine ⟨methodFor_of_isClassless name, fun hclass => ?_⟩
  obtain ⟨c, hc, hpath⟩ := h.sound.searchPath_lineage hlive hclass
  have herror := methodFor_eq_error_iff hc name
  rw [resolve?_eq_none_iff] at herror
  refine ⟨s.lineage c, hpath, fun found => ?_, ?_, herror⟩
  · rw [methodFor_ok_iff, hc, ← resolve?_eq_some_iff]
    constructor
    · rintro ⟨d, hd, hfound⟩
      cases hd
      exact hfound
    · exact fun hfound => ⟨c, rfl, hfound⟩
  · -- a lookup answers in one of two ways
    have hanswer : (∃ found, s.methodFor Core.initial receiver name = .ok found) ↔
        ¬ ∃ fault, s.methodFor Core.initial receiver name = .error fault := by
      cases s.methodFor Core.initial receiver name <;> simp
    rw [hanswer, herror]
    simp only [Classical.not_forall, exists_prop, ← ne_eq, Option.ne_none_iff_exists']

/-- The object is looked up in its eigenclass, then in `Object` and in `BasicObject`.  What it has
of its own is found before what `Object` has under the name, and a name that none of the three has
is not found. -/
theorem methodFor_searchPath_withOverride :
    Reachable false withOverride ∧ withOverride.Live (.object ⟨0⟩) ∧
      withOverride.SearchPath Core.initial (.object ⟨0⟩)
        [⟨12⟩, Core.initial.object, Core.initial.basicObject] ∧
      withOverride.methodFor Core.initial (.object ⟨0⟩) "inspect" =
        .ok ⟨⟨12⟩, .native (.kernel Core.initial.object .classOf)⟩ ∧
      withOverride.localMethod? Core.initial.object "inspect" =
        some (.native (.kernel Core.initial.object .inspect)) ∧
      ∃ fault, withOverride.methodFor Core.initial (.object ⟨0⟩) "size" = .error fault := by
  have h := reachable_withOverride false
  have hlive : withOverride.Live (.object ⟨0⟩) := Nat.one_pos
  obtain ⟨hown, habove⟩ := localMethod?_withOverride
  have hpath : withOverride.SearchPath Core.initial (.object ⟨0⟩)
      [⟨12⟩, Core.initial.object, Core.initial.basicObject] := by
    have hancestry := ancestry_lineage h.sound.layered Core.initial.object
    have hlineage : withOverride.lineage Core.initial.object =
        [Core.initial.object, Core.initial.basicObject] := by decide +kernel
    rw [hlineage] at hancestry
    exact ⟨Core.initial.object, _, by decide +kernel, hancestry, by decide +kernel⟩
  have hnone : ∀ c ∈ [⟨12⟩, Core.initial.object, Core.initial.basicObject],
      withOverride.localMethod? c "size" = none := by decide +kernel
  obtain ⟨classes, hclasses, hfound, -⟩ := (h.methodFor_searchPath hlive "inspect").2 rfl
  obtain ⟨classes', hclasses', -, -, herror⟩ := (h.methodFor_searchPath hlive "size").2 rfl
  cases hclasses.unique hpath
  cases hclasses'.unique hpath
  exact ⟨h, hlive, hpath, (hfound _).2 ⟨[], _, rfl, nofun, hown⟩, habove, herror.2 hnone⟩

end ObjectModel
