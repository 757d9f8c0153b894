import ObjectModel.Proofs.Resolution

/-!
# What a lookup depends on

The answer of a lookup is a method, or a fault that says how the receiver looks.  How a value
looks depends on the elements of arrays and on nothing else that can change: names and tags are
fixed when a class or an object is made, and so are strings and exceptions.  A store that has grown
without a change to its arrays therefore shows each value as before, and a lookup answers as before
if its class does.

## Main results

* `Store.Grows.tagOf`, `Store.Sound.inspect_of_grows` — the looks of a value.
* `Store.Sound.methodFor_of_grows` — what decides about the answer of a lookup.
-/

namespace ObjectModel.Store

variable {strict : Bool} {core : Core} {s t : Store}

/-- The tag of a value never changes. -/
theorem Grows.tagOf (h : s.Grows t) {value : Value} (hlive : s.Live value) :
    t.tagOf value = s.tagOf value := by
  cases value with
  | object ref => exact (h.objects.read hlive).tag
  | cls c => exact (h.classes.read hlive).tag
  | _ => rfl

/-- The name of a class never changes. -/
theorem Grows.className (h : s.Grows t) {c : ClassRef} (hc : c.index < s.classes.size) :
    t.className c = s.className c :=
  (h.classes.read hc).name

/-- The text of a value is the same as long as the arrays are the same. -/
theorem Sound.inspectFrom_of_grows (hs : s.Sound strict core) (h : s.Grows t)
    (harrays : t.arrays = s.arrays) (path : List ArrayRef) {value : Value}
    (hlive : s.Live value) : t.inspectFrom path value = s.inspectFrom path value := by
  have helements (ref : ArrayRef) : t.elements ref = s.elements ref := by
    rw [elements, elements, harrays]
  induction path, value using inspectFrom.induct s with
  | case6 path ref =>
    have hstring : t.text ref = s.text ref := (h.strings.read hlive).symm
    rw [inspectFrom, inspectFrom, hstring]
  | case7 path ref hseen =>
    rw [inspectFrom_array, inspectFrom_array, if_pos hseen, if_pos hseen]
  | case8 path ref hseen _ ih =>
    have hmap : (s.elements ref).map (t.inspectFrom (ref :: path)) =
        (s.elements ref).map (s.inspectFrom (ref :: path)) := by
      refine List.map_congr_left fun value hvalue => ?_
      exact ih value (hs.held_live (.element hvalue))
    rw [inspectFrom_array, inspectFrom_array, helements, hmap]
  | case9 path ref _ hunknown => exact absurd hlive hunknown
  | case10 path ref =>
    have hcls : (s.objects.read ref).cls.index < s.classes.size :=
      hs.object_lt (Cells.get?_of_lt hlive)
    rw [inspectFrom, inspectFrom, (h.objects.read hlive).cls, h.className hcls]
  | case11 path ref =>
    have hcls : (s.exceptions.read ref).cls.index < s.classes.size :=
      hs.exception_lt (Cells.get?_of_lt hlive)
    rw [inspectFrom, inspectFrom, ← h.exceptions.read hlive, h.className hcls]
  | case12 path c => rw [inspectFrom, inspectFrom, h.className hlive]
  | case15 path serial payload ih =>
    rw [inspectFrom_pending, inspectFrom_pending]
    exact ih hlive
  | _ => rw [inspectFrom, inspectFrom]

theorem Sound.inspect_of_grows (hs : s.Sound strict core) (h : s.Grows t)
    (harrays : t.arrays = s.arrays) {value : Value} (hlive : s.Live value) :
    t.inspect value = s.inspect value :=
  hs.inspectFrom_of_grows h harrays [] hlive

/-- A value keeps its birth class, and a value without one never gets one. -/
theorem Grows.birthClass?_eq (h : s.Grows t) {value : Value} (hlive : s.Live value) :
    t.birthClass? core value = s.birthClass? core value := by
  induction value with
  | pending _ _ ih => exact ih hlive
  | function | builtin | fault => rfl
  | _ =>
    obtain ⟨birth, hbirth⟩ := exists_birthClass? core hlive rfl rfl
    rw [hbirth, h.birthClass? hbirth]

/-- Only a value with a birth class has a class. -/
theorem exists_birthClass?_of_classOf? {value : Value} {c : ClassRef} (hlive : s.Live value)
    (h : s.classOf? core value = some c) : ∃ birth, s.birthClass? core value = some birth := by
  induction value with
  | pending _ _ ih => exact ih hlive h
  | function | builtin | fault => cases h
  | _ => exact exists_birthClass? core hlive rfl rfl

/-- A lookup answers what it did, the same method or the same fault, if the class where it starts
answers what the class did where it started. -/
theorem Sound.methodFor_of_grows (hs : s.Sound strict core) (h : s.Grows t)
    (harrays : t.arrays = s.arrays) {receiver : Value} (hlive : s.Live receiver) {name : String}
    (hresolve : (t.classOf? core receiver).map (t.resolve? · name) =
      (s.classOf? core receiver).map (s.resolve? · name)) :
    t.methodFor core receiver name = s.methodFor core receiver name := by
  unfold methodFor
  cases hc : s.classOf? core receiver with
  | none =>
    rw [hc, Option.map_none, Option.map_eq_none_iff] at hresolve
    simp only [hresolve, h.tagOf hlive]
  | some c =>
    rw [hc, Option.map_some, Option.map_eq_some_iff] at hresolve
    obtain ⟨d, hd, hresolve⟩ := hresolve
    obtain ⟨birth, hbirth⟩ := exists_birthClass?_of_classOf? hlive hc
    simp only [hd, hresolve, hbirth, h.birthClass? hbirth, Option.getD_some,
      h.className (hs.birthClass?_lt hbirth), hs.inspect_of_grows h harrays hlive]

end ObjectModel.Store
