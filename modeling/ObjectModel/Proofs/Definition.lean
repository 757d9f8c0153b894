import ObjectModel.Proofs.Appearance

/-!
# The effect of a definition

A method that is defined on a class is seen from the class itself and from the classes below it,
except from those where it is hidden by a nearer definition of the same name.  From where it is
seen it hides whatever was seen before.  Nothing else changes: no other name, no other class, and no
lookup, failures included, from anywhere else.

## Main definitions

* `Store.Exposes` — from a class, a name is seen through to another class.

## Main results

* `Store.resolve?_defineMethod_of_exposes`, `Store.resolve?_defineMethod_of_not_exposes` — what a
  class has under a name after a definition.
* `Store.Sound.methodFor_defineMethod_of_not_exposes` — lookups that a definition leaves alone.
* `Reachable.defineMethod_effect` — the whole effect of a definition.
-/

namespace ObjectModel

namespace Store

variable {strict : Bool} {core : Core} {s : Store} {c d : ClassRef} {name key : String}
  {method : Method}

/-- From the class `d` a name is seen through to the class `c`: it is in the ancestry of `d`, and
no class before it there has the name in its own table. -/
def Exposes (s : Store) (d c : ClassRef) (name : String) : Prop :=
  ∃ before after, s.Ancestry d (before ++ c :: after) ∧
    ∀ e ∈ before, s.localMethod? e name = none

/-- Every name of a class is seen from the class itself. -/
theorem exposes_self (hs : s.Layered) (c : ClassRef) (name : String) : s.Exposes c c name := by
  have hpath := ancestry_lineage hs c
  rw [lineage] at hpath
  refine ⟨[], _, hpath, ?_⟩
  rintro _ ⟨⟩

/-- A class that has the name itself sees it through to no other class. -/
theorem not_exposes_of_localMethod? (hmethod : s.localMethod? d name = some method) (hne : d ≠ c) :
    ¬ s.Exposes d c name := by
  rintro ⟨before, after, hancestry, hbefore⟩
  have hhead := hancestry.head?_eq
  cases before with
  | nil =>
    cases hhead
    exact hne rfl
  | cons first before =>
    cases hhead
    rw [hbefore d List.mem_cons_self] at hmethod
    cases hmethod

theorem Exposes.mem_lineage (hs : s.Layered) (h : s.Exposes d c name) : c ∈ s.lineage d := by
  obtain ⟨before, after, hpath, -⟩ := h
  rw [← hpath.eq_lineage hs]
  simp

/-! ### Classes -/

theorem lineage_defineMethod (s : Store) (c : ClassRef) (name : String) (method : Method)
    (d : ClassRef) : (s.defineMethod c name method).lineage d = s.lineage d :=
  lineage_congr (s.superclass?_defineMethod c name method) d

/-- No class that is not `c` occurs before `c` in a lineage that goes on with `c`. -/
theorem ne_of_mem_before {before after : List ClassRef} (h : s.lineage d = before ++ c :: after)
    {e : ClassRef} (he : e ∈ before) : e ≠ c := by
  have hnodup := s.nodup_lineage d
  rw [h] at hnodup
  rintro rfl
  exact (List.nodup_append.1 hnodup).2.2 e he e List.mem_cons_self rfl

/-- From where the name is seen through to the class, the new method is found. -/
theorem resolve?_defineMethod_of_exposes (hs : s.Layered) (hc : c.index < s.classes.size)
    (h : s.Exposes d c name) :
    (s.defineMethod c name method).resolve? d name = some ⟨c, method⟩ := by
  obtain ⟨before, after, hpath, hbefore⟩ := h
  have hlineage := (hpath.eq_lineage hs).symm
  refine resolve?_eq_some_iff.2 ⟨before, after, ?_, fun e he => ?_, ?_⟩
  · rw [lineage_defineMethod, hlineage]
  · have hne := ne_of_mem_before hlineage he
    rw [s.localMethod?_defineMethod name method hc, if_neg fun h => hne h.1]
    exact hbefore e he
  · rw [s.localMethod?_defineMethod name method hc, if_pos ⟨rfl, rfl⟩]

/-- From everywhere else, and for every other name, what was found is still found. -/
theorem resolve?_defineMethod_of_not_exposes (hs : s.Layered) (hc : c.index < s.classes.size)
    (h : ¬(key = name ∧ s.Exposes d c name)) :
    (s.defineMethod c name method).resolve? d key = s.resolve? d key := by
  have hlocal := s.localMethod?_defineMethod name method hc
  by_cases hkey : key = name
  · subst hkey
    by_cases hmem : c ∈ s.lineage d
    · obtain ⟨before, after, hsplit⟩ := List.append_of_mem hmem
      -- some class before `c` must have the name, and hides the new method
      have hhidden : ∃ e ∈ before, s.localMethod? e key ≠ none := by
        refine Classical.byContradiction fun hnone => h ⟨rfl, before, after, ?_, fun e he => ?_⟩
        · rw [← hsplit]
          exact ancestry_lineage hs d
        · exact Classical.byContradiction fun hne => hnone ⟨e, he, hne⟩
      have hsplit' : (s.defineMethod c key method).lineage d = before ++ c :: after := by
        rw [lineage_defineMethod, hsplit]
      refine resolve?_congr_of_prefix hsplit hsplit' (fun e he => ?_) hhidden
      rw [hlocal, if_neg fun h => ne_of_mem_before hsplit he h.1]
    · refine resolve?_congr (lineage_defineMethod s c key method d) fun e he => ?_
      have hne : e ≠ c := fun heq => hmem (heq ▸ he)
      rw [hlocal, if_neg fun h => hne h.1]
  · refine resolve?_congr (lineage_defineMethod s c name method d) fun e _ => ?_
    rw [hlocal, if_neg fun h => hkey h.2]

/-! ### Receivers -/

/-- A definition changes the class of no value. -/
theorem birthClass?_defineMethod (s : Store) (core : Core) (c : ClassRef) (name : String)
    (method : Method) (value : Value) :
    (s.defineMethod c name method).birthClass? core value = s.birthClass? core value := by
  induction value with
  | cls ref =>
    rw [birthClass?, birthClass?, defineMethod, Cells.get?_modify]
    by_cases heq : ref = c
    · rw [if_pos heq, heq, Option.map_map]
      rfl
    · rw [if_neg heq]
  | pending _ _ ih => exact ih
  | bool b => cases b <;> rfl
  | _ => rfl

theorem classOf?_defineMethod (s : Store) (core : Core) (c : ClassRef) (name : String)
    (method : Method) (value : Value) :
    (s.defineMethod c name method).classOf? core value = s.classOf? core value := by
  -- which object carries which eigenclass is recorded apart from the classes
  rw [classOf?_eq, classOf?_eq, birthClass?_defineMethod]
  rfl

/-- A message is answered by the new method if its class sees the name through. -/
theorem methodFor_defineMethod_of_exposes (hs : s.Layered) (hc : c.index < s.classes.size)
    {receiver : Value} (hd : s.classOf? core receiver = some d) (h : s.Exposes d c name) :
    (s.defineMethod c name method).methodFor core receiver name = .ok ⟨c, method⟩ := by
  refine methodFor_ok_iff.2 ⟨d, ?_, resolve?_defineMethod_of_exposes hs hc h⟩
  rw [classOf?_defineMethod, hd]

/-- Every other lookup answers as before, with the same method or the same fault. -/
theorem Sound.methodFor_defineMethod_of_not_exposes (hs : s.Sound strict core)
    (hc : c.index < s.classes.size) {receiver : Value} (hlive : s.Live receiver)
    (h : ∀ d, s.classOf? core receiver = some d → ¬(key = name ∧ s.Exposes d c name)) :
    (s.defineMethod c name method).methodFor core receiver key =
      s.methodFor core receiver key := by
  refine hs.methodFor_of_grows (s.grows_defineMethod c name method) rfl hlive ?_
  rw [classOf?_defineMethod]
  cases hd : s.classOf? core receiver with
  | none => rfl
  | some d =>
    rw [Option.map_some, Option.map_some,
      resolve?_defineMethod_of_not_exposes hs.layered hc (h d hd)]

end Store

open Store

/-- **The effect of a definition.**  In every reachable store, a method that is defined on a class
is found from exactly those classes, and for exactly those receivers, from which the name is seen
through to the class.  Every other lookup answers as before, every other class is untouched, and
so is every other name of the class itself. -/
theorem Reachable.defineMethod_effect {strict : Bool} {s : Store} (h : Reachable strict s)
    {c : ClassRef} (hc : c.index < s.classes.size) (name : String) (method : Method) :
    (∀ d, s.Exposes d c name →
      (s.defineMethod c name method).resolve? d name = some ⟨c, method⟩) ∧
    (∀ d key, ¬(key = name ∧ s.Exposes d c name) →
      (s.defineMethod c name method).resolve? d key = s.resolve? d key) ∧
    (∀ receiver d, s.classOf? Core.initial receiver = some d → s.Exposes d c name →
      (s.defineMethod c name method).methodFor Core.initial receiver name = .ok ⟨c, method⟩) ∧
    (∀ receiver key, s.Live receiver →
      (∀ d, s.classOf? Core.initial receiver = some d → ¬(key = name ∧ s.Exposes d c name)) →
        (s.defineMethod c name method).methodFor Core.initial receiver key =
          s.methodFor Core.initial receiver key) ∧
    (∀ d, d ≠ c → (s.defineMethod c name method).classes.read d = s.classes.read d) ∧
    (∀ key, key ≠ name →
      (s.defineMethod c name method).localMethod? c key = s.localMethod? c key) := by
  have hs := h.sound
  refine ⟨fun d => resolve?_defineMethod_of_exposes hs.layered hc,
    fun d key => resolve?_defineMethod_of_not_exposes hs.layered hc,
    fun receiver d => methodFor_defineMethod_of_exposes hs.layered hc,
    fun receiver key hlive => hs.methodFor_defineMethod_of_not_exposes hc hlive,
    fun d hne => s.classes.read_modify_of_ne _ hne, fun key hne => ?_⟩
  rw [s.localMethod?_defineMethod name method hc, if_neg fun h => hne h.2]

/-- When `Object` is given another method under the name, a number answers with it, and the object
that has a method of its own goes on answering with that. -/
theorem defineMethod_effect_withOverride :
    Reachable false withOverride ∧ Core.initial.object.index < withOverride.classes.size ∧
      (withOverride.defineMethod Core.initial.object "inspect"
        (.native (.host 0 "inspect" .any))).methodFor Core.initial (.int 1) "inspect" =
          .ok ⟨Core.initial.object, .native (.host 0 "inspect" .any)⟩ ∧
      (withOverride.defineMethod Core.initial.object "inspect"
        (.native (.host 0 "inspect" .any))).methodFor Core.initial (.object ⟨0⟩) "inspect" =
          .ok ⟨⟨12⟩, .native (.kernel Core.initial.object .classOf)⟩ := by
  have h := reachable_withOverride false
  have hc : Core.initial.object.index < withOverride.classes.size := by decide +kernel
  have hlive : withOverride.Live (.object ⟨0⟩) := Nat.one_pos
  obtain ⟨hown, -⟩ := localMethod?_withOverride
  have hclass : withOverride.classOf? Core.initial (.object ⟨0⟩) = some ⟨12⟩ := by decide +kernel
  have hlineage : withOverride.lineage ⟨12⟩ =
      [⟨12⟩, Core.initial.object, Core.initial.basicObject] := by decide +kernel
  have hfound : withOverride.methodFor Core.initial (.object ⟨0⟩) "inspect" =
      .ok ⟨⟨12⟩, .native (.kernel Core.initial.object .classOf)⟩ :=
    methodFor_ok_iff.2 ⟨⟨12⟩, hclass, resolve?_eq_some_iff.2 ⟨[], _, hlineage, nofun, hown⟩⟩
  have hseen : withOverride.Exposes Core.initial.integer Core.initial.object "inspect" := by
    have hancestry := ancestry_lineage h.sound.layered Core.initial.integer
    have hinteger : withOverride.lineage Core.initial.integer =
        [Core.initial.integer] ++ Core.initial.object :: [Core.initial.basicObject] := by
      decide +kernel
    rw [hinteger] at hancestry
    exact ⟨_, _, hancestry, by decide +kernel⟩
  have hhidden : ¬ withOverride.Exposes ⟨12⟩ Core.initial.object "inspect" :=
    not_exposes_of_localMethod? hown (by decide +kernel)
  obtain ⟨-, -, hchanged, hkept, -⟩ :=
    h.defineMethod_effect hc "inspect" (.native (.host 0 "inspect" .any))
  refine ⟨h, hc, hchanged (.int 1) _ rfl hseen, ?_⟩
  rw [hkept (.object ⟨0⟩) "inspect" hlive, hfound]
  rintro d hd ⟨-, hexposed⟩
  rw [hclass] at hd
  cases hd
  exact hhidden hexposed

end ObjectModel
