import Mathlib
import ObjectModel.Value.Inspect

/-!
# Renderings

What the text of a value is, for arrays that contain each other in any way.  The rule is that an
array shows its elements in brackets, unless it stands inside itself: the arrays from the outermost
one down to an occurrence are its path, and an array that occurs on its own path is cut short.  The
rule has exactly one outcome for every value, because a path never grows longer than there are
arrays.

Nothing but a cycle is ever cut.  The text of a part depends on where it stands only if something
around it is inside it too, so an array that several others share is shown in full by each of them;
and a value without cycles has the text that one gets by going down to its parts without looking
back, which for any other value has no end.

## Main definitions

* `Store.Part`, `Store.Contains`, `Store.Acyclic` — parts of values, and values without cycles.
* `Store.Renders` — the rule, for an occurrence with its path.
* `Store.RendersPlainly` — the rule without a path.
* `Store.Walk` — the rule with one stack for all paths.
* `Store.Occurs` — where a value occurs in another.

## Main results

* `Store.renders_iff` — the rule has one outcome, the text of the value.
* `Store.walk_iff` — the walk leaves the stack as it was.
* `Store.inspectFrom_congr` — how much of the path the text depends on.
* `Store.Acyclic.induction` — what has no cycles is built up from its parts.
* `Store.rendersPlainly_iff` — the plain rule has an outcome for values without cycles only.
* `Store.inspect_cuts_cycles` — which occurrences are cut short.
-/

namespace ObjectModel

namespace Store

variable {s : Store} {path other : List ArrayRef} {ref : ArrayRef} {value inner : Value}
  {text : String}

/-! ### Parts of values -/

/-- The text of a value that has no parts. -/
def ownForm? (s : Store) : Value → Option String
  | .nil => some "nil"
  | .bool b => some (if b then "true" else "false")
  | .int n => some n.toInt.repr
  | .symbol name => some (":" ++ name)
  | .string ref => some (Quoted.quote (s.text ref))
  | .object ref => some ("#<" ++ s.className (s.objects.read ref).cls ++ ">")
  | .exception ref =>
    some ("#<" ++ s.className (s.exceptions.read ref).cls ++ ": " ++
      (s.exceptions.read ref).message ++ ">")
  | .cls c => some (s.className c)
  | .function closure => some closure.inspect
  | .builtin _ _ => some "builtin function"
  | .fault fault => some fault.inspect
  | .array _ | .pending _ _ => none

/-- A value is a part of another: an element of the array, or what the early return carries. -/
inductive Part (s : Store) : Value → Value → Prop
  | element {ref : ArrayRef} {part : Value} (h : part ∈ s.elements ref) : Part s (.array ref) part
  | payload {serial : Nat} {part : Value} : Part s (.pending serial part) part

/-- A value is a part of a part, and so on, or the value itself. -/
abbrev Contains (s : Store) : Value → Value → Prop := Relation.ReflTransGen s.Part

/-- No array in the value stands inside itself. -/
def Acyclic (s : Store) (value : Value) : Prop :=
  ∀ ⦃ref : ArrayRef⦄, s.Contains value (.array ref) →
    ¬ Relation.TransGen s.Part (.array ref) (.array ref)

theorem not_part_of_ownForm? (h : s.ownForm? value = some text) : ¬ s.Part value inner := by
  rintro (_ | _) <;> cases h

theorem Acyclic.of_contains (h : s.Acyclic value) (hinner : s.Contains value inner) :
    s.Acyclic inner :=
  fun _ href => h (hinner.trans href)

theorem Acyclic.of_part (h : s.Acyclic value) (hpart : s.Part value inner) : s.Acyclic inner :=
  h.of_contains (.single hpart)

/-- An array without cycles is in none of its elements. -/
theorem Acyclic.not_contains (h : s.Acyclic (.array ref)) (hpart : inner ∈ s.elements ref) :
    ¬ s.Contains inner (.array ref) :=
  fun hback => h .refl (.head' (.element hpart) hback)

/-- A cycle through a value is a cycle in one of its parts. -/
theorem acyclic_of_parts (h : ∀ part, s.Part value part → s.Acyclic part) : s.Acyclic value := by
  intro ref href hcycle
  rcases Relation.ReflTransGen.cases_head href with rfl | ⟨part, hpart, href⟩
  · obtain ⟨part, hpart, hback⟩ := Relation.TransGen.head'_iff.1 hcycle
    exact h part hpart hback hcycle
  · exact h part hpart href hcycle

theorem acyclic_array (h : ∀ part ∈ s.elements ref, s.Acyclic part) : s.Acyclic (.array ref) := by
  refine acyclic_of_parts ?_
  rintro part (⟨hpart⟩ | _)
  exact h part hpart

theorem acyclic_of_ownForm? (h : s.ownForm? value = some text) : s.Acyclic value :=
  acyclic_of_parts fun _ hpart => absurd hpart (not_part_of_ownForm? h)

theorem acyclic_pending (serial : Nat) (h : s.Acyclic value) :
    s.Acyclic (.pending serial value) := by
  refine acyclic_of_parts ?_
  rintro _ (_ | _)
  exact h

/-! ### The rule -/

/-- The text of an occurrence of a value inside the arrays of the path. -/
inductive Renders (s : Store) : List ArrayRef → Value → String → Prop
  /-- An array on its own path is cut short. -/
  | cut {path : List ArrayRef} {ref : ArrayRef} (h : ref ∈ path) :
      Renders s path (.array ref) "[...]"
  /-- Any other array shows its elements, which have it on their path. -/
  | array {path : List ArrayRef} {ref : ArrayRef} {texts : List String} (h : ref ∉ path)
      (hlength : (s.elements ref).length = texts.length)
      (helements : ∀ pair ∈ (s.elements ref).zip texts, Renders s (ref :: path) pair.1 pair.2) :
      Renders s path (.array ref) ("[" ++ commaSeparated texts ++ "]")
  | payload {path : List ArrayRef} {serial : Nat} {part : Value} {text : String}
      (h : Renders s path part text) : Renders s path (.pending serial part) text
  | own {path : List ArrayRef} {value : Value} {text : String}
      (h : s.ownForm? value = some text) : Renders s path value text

/-- The same rule without a path: every array shows its elements. -/
inductive RendersPlainly (s : Store) : Value → String → Prop
  | array {ref : ArrayRef} {texts : List String}
      (hlength : (s.elements ref).length = texts.length)
      (helements : ∀ pair ∈ (s.elements ref).zip texts, RendersPlainly s pair.1 pair.2) :
      RendersPlainly s (.array ref) ("[" ++ commaSeparated texts ++ "]")
  | payload {serial : Nat} {part : Value} {text : String} (h : RendersPlainly s part text) :
      RendersPlainly s (.pending serial part) text
  | own {value : Value} {text : String} (h : s.ownForm? value = some text) :
      RendersPlainly s value text

/-- The walk that writes values one after another and has one stack of arrays for all of them: an
array is pushed before its elements are written, and popped after the last of them.  The lists are
the stack before, the values, their texts, and the stack after. -/
inductive Walk (s : Store) : List ArrayRef → List Value → List String → List ArrayRef → Prop
  | done {seen : List ArrayRef} : Walk s seen [] [] seen
  | cut {seen last : List ArrayRef} {ref : ArrayRef} {rest : List Value} {texts : List String}
      (h : ref ∈ seen) (hrest : Walk s seen rest texts last) :
      Walk s seen (.array ref :: rest) ("[...]" :: texts) last
  | array {seen after last : List ArrayRef} {ref : ArrayRef} {rest : List Value}
      {inside texts : List String} (h : ref ∉ seen)
      (hinside : Walk s (ref :: seen) (s.elements ref) inside after)
      (hrest : Walk s after.tail rest texts last) :
      Walk s seen (.array ref :: rest) (("[" ++ commaSeparated inside ++ "]") :: texts) last
  | payload {seen last : List ArrayRef} {serial : Nat} {part : Value} {rest : List Value}
      {texts : List String} (h : Walk s seen (part :: rest) texts last) :
      Walk s seen (.pending serial part :: rest) texts last
  | own {seen last : List ArrayRef} {value : Value} {text : String} {rest : List Value}
      {texts : List String} (h : s.ownForm? value = some text)
      (hrest : Walk s seen rest texts last) : Walk s seen (value :: rest) (text :: texts) last

/-- A value occurs in another one inside the arrays of the path, innermost first. -/
inductive Occurs (s : Store) (value : Value) : List ArrayRef → Value → Prop
  | self : Occurs s value [] value
  | element {path : List ArrayRef} {ref : ArrayRef} {part : Value}
      (h : Occurs s value path (.array ref)) (hpart : part ∈ s.elements ref) :
      Occurs s value (ref :: path) part
  | payload {path : List ArrayRef} {serial : Nat} {part : Value}
      (h : Occurs s value path (.pending serial part)) : Occurs s value path part

/-! ### Its outcome -/

/-- To prove something of every value with a path, one may take it for granted of the elements of an
array that is not on the path, with the array on theirs. -/
@[elab_as_elim]
theorem walk_induction {motive : List ArrayRef → Value → Prop}
    (cut : ∀ path ref, ref ∈ path → motive path (.array ref))
    (array : ∀ path ref, ref ∉ path → (∀ part ∈ s.elements ref, motive (ref :: path) part) →
      motive path (.array ref))
    (payload : ∀ path serial part, motive path part → motive path (.pending serial part))
    (own : ∀ path value text, s.ownForm? value = some text → motive path value)
    (path : List ArrayRef) (value : Value) : motive path value := by
  induction path, value using inspectFrom.induct s with
  | case7 path ref h => exact cut path ref h
  | case8 path ref h _ ih => exact array path ref h fun part _ => ih part
  | case9 path ref h hunknown =>
    refine array path ref h ?_
    rw [elements_of_size_le (Nat.not_lt.1 hunknown)]
    rintro _ ⟨⟩
  | case15 path serial part ih => exact payload path serial part ih
  | _ => exact own _ _ _ rfl

theorem inspectFrom_of_ownForm? (path : List ArrayRef) (h : s.ownForm? value = some text) :
    s.inspectFrom path value = text := by
  cases value <;> cases h <;> rw [inspectFrom]

private theorem eq_map_of_zip {f : Value → String} {values : List Value} {texts : List String}
    (hlength : values.length = texts.length)
    (h : ∀ pair ∈ values.zip texts, pair.2 = f pair.1) : texts = values.map f := by
  have hall : List.Forall₂ (fun value text => text = f value) values texts :=
    List.forall₂_iff_zip.2 ⟨hlength, fun hmem => h _ hmem⟩
  induction hall with
  | nil => rfl
  | cons hhead _ ih =>
    simp only [List.zip_cons_cons, List.forall_mem_cons] at h
    rw [List.map_cons, hhead, ← ih (Nat.succ.inj hlength) h.2]

private theorem of_mem_zip_map {f : Value → String} {values : List Value}
    {R : Value → String → Prop} (h : ∀ value ∈ values, R value (f value)) :
    ∀ pair ∈ values.zip (values.map f), R pair.1 pair.2 := by
  induction values with
  | nil => rintro _ ⟨⟩
  | cons first rest ih =>
    rw [List.map_cons, List.zip_cons_cons, List.forall_mem_cons]
    obtain ⟨hfirst, hrest⟩ := List.forall_mem_cons.1 h
    exact ⟨hfirst, ih hrest⟩

theorem renders_inspectFrom (s : Store) (path : List ArrayRef) (value : Value) :
    s.Renders path value (s.inspectFrom path value) := by
  induction path, value using walk_induction (s := s) with
  | cut path ref h =>
    rw [inspectFrom_array, if_pos h]
    exact .cut h
  | array path ref h ih =>
    rw [inspectFrom_array, if_neg h]
    exact .array h (List.length_map _).symm (of_mem_zip_map ih)
  | payload path serial part ih =>
    rw [inspectFrom_pending]
    exact .payload ih
  | own path value text h =>
    rw [inspectFrom_of_ownForm? path h]
    exact .own h

/-- The rule has one outcome. -/
theorem renders_iff : s.Renders path value text ↔ text = s.inspectFrom path value := by
  constructor
  · intro h
    induction h with
    | cut h => rw [inspectFrom_array, if_pos h]
    | array h hlength _ ih => rw [inspectFrom_array, if_neg h, eq_map_of_zip hlength ih]
    | payload _ ih => rw [inspectFrom_pending, ih]
    | own h => rw [inspectFrom_of_ownForm? _ h]
  · rintro rfl
    exact s.renders_inspectFrom path value

/-- A value that stands first is written as inside the arrays on the stack, and leaves them there. -/
theorem Walk.cons (path : List ArrayRef) (value : Value) :
    ∀ {rest texts last}, s.Walk path rest texts last →
      s.Walk path (value :: rest) (s.inspectFrom path value :: texts) last := by
  induction path, value using walk_induction (s := s) with
  | cut path ref h =>
    intro rest texts last hrest
    rw [inspectFrom_array, if_pos h]
    exact .cut h hrest
  | array path ref h ih =>
    intro rest texts last hrest
    have hinside (parts : List Value) (hparts : ∀ part ∈ parts, part ∈ s.elements ref) :
        s.Walk (ref :: path) parts (parts.map (s.inspectFrom (ref :: path))) (ref :: path) := by
      induction parts with
      | nil => exact .done
      | cons part parts ihparts =>
        obtain ⟨hpart, hparts⟩ := List.forall_mem_cons.1 hparts
        exact ih part hpart (ihparts hparts)
    rw [inspectFrom_array, if_neg h]
    exact .array h (hinside _ fun _ hpart => hpart) hrest
  | payload path serial part ih =>
    intro rest texts last hrest
    rw [inspectFrom_pending]
    exact .payload (ih hrest)
  | own path value text h =>
    intro rest texts last hrest
    rw [inspectFrom_of_ownForm? path h]
    exact .own h hrest

/-- After the walk the stack is what it was before, and the texts are those of the values where they
stand. -/
theorem walk_iff {values : List Value} {texts : List String} :
    s.Walk path values texts other ↔ texts = values.map (s.inspectFrom path) ∧ other = path := by
  constructor
  · intro h
    induction h with
    | done => exact ⟨rfl, rfl⟩
    | cut h _ ih =>
      obtain ⟨rfl, rfl⟩ := ih
      rw [List.map_cons, inspectFrom_array, if_pos h]
      exact ⟨rfl, rfl⟩
    | array h _ _ ihinside ihrest =>
      obtain ⟨rfl, rfl⟩ := ihinside
      obtain ⟨rfl, rfl⟩ := ihrest
      rw [List.map_cons, inspectFrom_array, List.tail_cons, if_neg h]
      exact ⟨rfl, rfl⟩
    | payload _ ih =>
      obtain ⟨rfl, rfl⟩ := ih
      rw [List.map_cons, List.map_cons, inspectFrom_pending]
      exact ⟨rfl, rfl⟩
    | own h _ ih =>
      obtain ⟨rfl, rfl⟩ := ih
      rw [List.map_cons, inspectFrom_of_ownForm? _ h]
      exact ⟨rfl, rfl⟩
  · rintro ⟨rfl, rfl⟩
    induction values with
    | nil => exact .done
    | cons value rest ih => exact ih.cons _ value

/-- The text of a value depends on the path only as far as the arrays on it are in the value. -/
theorem inspectFrom_congr
    (h : ∀ ref, s.Contains value (.array ref) → (ref ∈ path ↔ ref ∈ other)) :
    s.inspectFrom path value = s.inspectFrom other value := by
  induction path, value using walk_induction (s := s) generalizing other with
  | cut path ref hseen =>
    rw [inspectFrom_array, inspectFrom_array, if_pos hseen, if_pos ((h ref .refl).1 hseen)]
  | array path ref hnew ih =>
    rw [inspectFrom_array, inspectFrom_array, if_neg hnew, if_neg (mt (h ref .refl).2 hnew)]
    have hmap : (s.elements ref).map (s.inspectFrom (ref :: path)) =
        (s.elements ref).map (s.inspectFrom (ref :: other)) := by
      refine List.map_congr_left fun part hpart => ih part hpart fun inner hinner => ?_
      have hsame := h inner (.head (.element hpart) hinner)
      rw [List.mem_cons, List.mem_cons, hsame]
    rw [hmap]
  | payload path serial part ih =>
    rw [inspectFrom_pending, inspectFrom_pending]
    exact ih fun inner hinner => h inner (.head .payload hinner)
  | own path value text hown => rw [inspectFrom_of_ownForm? _ hown, inspectFrom_of_ownForm? _ hown]

/-- A part has its own text wherever nothing around it is inside it. -/
theorem inspectFrom_eq_inspect (h : ∀ ref ∈ path, ¬ s.Contains value (.array ref)) :
    s.inspectFrom path value = s.inspect value := by
  refine inspectFrom_congr fun ref href => ?_
  constructor
  · exact fun hmem => absurd href (h ref hmem)
  · rintro ⟨⟩

/-! ### Values without cycles -/

/-- To go down to parts of parts in a value without cycles comes to an end: where it has been before
it does not come again, and new arrays run out. -/
theorem Acyclic.acc (h : s.Acyclic value) (hpath : ∀ ref ∈ path, ¬ s.Contains value (.array ref)) :
    Acc (fun part whole => s.Part whole part) value := by
  induction path, value using walk_induction (s := s) with
  | cut path ref hseen => exact absurd .refl (hpath ref hseen)
  | array path ref _ ih =>
    refine ⟨_, ?_⟩
    rintro part (⟨hpart⟩ | _)
    refine ih part hpart (h.of_part (.element hpart)) (List.forall_mem_cons.2 ⟨?_, ?_⟩)
    · exact h.not_contains hpart
    · exact fun outer houter hin => hpath outer houter (.head (.element hpart) hin)
  | payload path serial part ih =>
    refine ⟨_, ?_⟩
    rintro _ (_ | _)
    exact ih (h.of_part .payload) fun outer houter hin => hpath outer houter (.head .payload hin)
  | own path value text hown => exact ⟨_, fun part hpart => absurd hpart (not_part_of_ownForm? hown)⟩

/-- What holds of a value as soon as it holds of its parts holds of every value without cycles. -/
@[elab_as_elim]
theorem Acyclic.induction {motive : (value : Value) → s.Acyclic value → Prop}
    (step : ∀ value (h : s.Acyclic value),
      (∀ part (hpart : s.Part value part), motive part (h.of_part hpart)) → motive value h)
    {value : Value} (h : s.Acyclic value) : motive value h := by
  have hacc : Acc (fun part whole => s.Part whole part) value :=
    h.acc fun ref href => absurd href List.not_mem_nil
  induction hacc with
  | intro value _ ih => exact step value h fun part hpart => ih part hpart (h.of_part hpart)

/-- An array without cycles shows its elements as they are on their own. -/
theorem Acyclic.inspect_array (h : s.Acyclic (.array ref)) :
    s.inspect (.array ref) = "[" ++ commaSeparated ((s.elements ref).map s.inspect) ++ "]" := by
  have hmap : (s.elements ref).map (s.inspectFrom [ref]) = (s.elements ref).map s.inspect := by
    refine List.map_congr_left fun part hpart => inspectFrom_eq_inspect fun outer houter => ?_
    cases List.mem_singleton.1 houter
    exact h.not_contains hpart
  rw [inspect, inspectFrom_array, if_neg List.not_mem_nil, hmap]

theorem inspect_pending (s : Store) (serial : Nat) (value : Value) :
    s.inspect (.pending serial value) = s.inspect value :=
  s.inspectFrom_pending [] serial value

theorem RendersPlainly.acyclic (h : s.RendersPlainly value text) : s.Acyclic value := by
  induction h with
  | @array ref texts hlength _ ih =>
    refine acyclic_array fun part hpart => ?_
    obtain ⟨i, hi, rfl⟩ := List.mem_iff_getElem.1 hpart
    have hpair : ((s.elements ref)[i], texts[i]) ∈ (s.elements ref).zip texts :=
      List.mem_iff_getElem.2 ⟨i, by simpa [← hlength] using hi, List.getElem_zip⟩
    exact ih _ hpair
  | payload _ ih => exact acyclic_pending _ ih
  | own h => exact acyclic_of_ownForm? h

theorem Acyclic.rendersPlainly (h : s.Acyclic value) : s.RendersPlainly value (s.inspect value) := by
  induction h using Acyclic.induction with
  | step value h ih =>
    cases value with
    | array ref =>
      rw [h.inspect_array]
      exact .array (List.length_map _).symm (of_mem_zip_map fun part hpart => ih part (.element hpart))
    | pending serial part =>
      rw [inspect_pending]
      exact .payload (ih part .payload)
    | _ => exact .own (by rw [inspect, inspectFrom]; rfl)

/-- The plain rule comes to an end for values without cycles only, and then with their text. -/
theorem rendersPlainly_iff :
    s.RendersPlainly value text ↔ s.Acyclic value ∧ text = s.inspect value := by
  constructor
  · intro h
    refine ⟨h.acyclic, ?_⟩
    induction h with
    | array hlength helements ih =>
      have hacyclic := (RendersPlainly.array hlength helements).acyclic
      rw [hacyclic.inspect_array, eq_map_of_zip hlength ih]
    | payload _ ih => rw [inspect_pending, ih]
    | own h => rw [inspect, inspectFrom_of_ownForm? _ h]
  · rintro ⟨h, rfl⟩
    exact h.rendersPlainly

/-! ### Occurrences -/

theorem Occurs.contains (h : s.Occurs value path inner) : s.Contains value inner := by
  induction h with
  | self => exact .refl
  | element _ hpart ih => exact ih.tail (.element hpart)
  | payload _ ih => exact ih.tail .payload

/-- The arrays on its path contain what occurs inside them. -/
theorem Occurs.transGen (h : s.Occurs value path inner) (href : ref ∈ path) :
    Relation.TransGen s.Part (.array ref) inner := by
  induction h with
  | self => cases href
  | element _ hpart ih =>
    rcases List.mem_cons.1 href with rfl | href
    · exact .single (.element hpart)
    · exact (ih href).tail (.element hpart)
  | payload _ ih => exact (ih href).tail .payload

/-- What is contained in an occurrence occurs inside the arrays around it, and maybe more. -/
theorem Occurs.exists_of_contains (h : s.Occurs value path inner) {deeper : Value}
    (hdeeper : s.Contains inner deeper) : ∃ between, s.Occurs value (between ++ path) deeper := by
  induction hdeeper with
  | refl => exact ⟨[], h⟩
  | tail _ hpart ih =>
    obtain ⟨between, ih⟩ := ih
    cases hpart with
    | element hmem => exact ⟨_ :: between, .element ih hmem⟩
    | payload => exact ⟨between, .payload ih⟩

/-- A value has no cycles exactly when no array occurs on its own path in it. -/
theorem acyclic_iff_forall_occurs :
    s.Acyclic value ↔ ∀ path ref, s.Occurs value path (.array ref) → ref ∉ path := by
  constructor
  · exact fun h path ref hoccurs href => h hoccurs.contains (hoccurs.transGen href)
  · intro h ref href hcycle
    have hself : s.Occurs value [] value := .self
    obtain ⟨path, hoccurs⟩ := hself.exists_of_contains href
    -- once around the cycle
    obtain ⟨part, hpart, hback⟩ := Relation.TransGen.head'_iff.1 hcycle
    cases hpart with
    | element hmem =>
      obtain ⟨between, hagain⟩ := (hoccurs.element hmem).exists_of_contains hback
      exact h _ ref hagain (List.mem_append_right _ List.mem_cons_self)

end Store

open Store

/-- **Only cycles are cut short.**  In every store the rule for the text of a value has one outcome,
by which an array is cut short where it stands inside itself; and a walk with one stack that arrays
are pushed on and popped from ends, with this outcome and with the stack empty again.  A part has its
own text in full at every place where nothing around it is inside it, however often it occurs.  No
array stands inside itself exactly when the value has no cycles; and then, and only then, the plain
rule has an outcome, which is the same text. -/
theorem Store.inspect_cuts_cycles (s : Store) (value : Value) :
    (∀ text, s.Renders [] value text ↔ text = s.inspect value) ∧
    (∀ texts last, s.Walk [] [value] texts last ↔ texts = [s.inspect value] ∧ last = []) ∧
    (∀ path part, (∀ ref ∈ path, ¬ s.Contains part (.array ref)) →
      ∀ text, s.Renders path part text ↔ text = s.inspect part) ∧
    (s.Acyclic value ↔ ∀ path ref, s.Occurs value path (.array ref) → ref ∉ path) ∧
    ∀ text, s.RendersPlainly value text ↔ s.Acyclic value ∧ text = s.inspect value := by
  refine ⟨fun text => renders_iff, fun texts last => walk_iff, fun path part hpath text => ?_,
    acyclic_iff_forall_occurs, fun text => rendersPlainly_iff⟩
  rw [renders_iff, inspectFrom_eq_inspect hpath]

/-- An array that stands twice in another, and an array that stands in itself beside it. -/
def Store.sharing : Store :=
  let s := (Store.empty.newArray [.int 1]).2
  let s := (s.newArray [.array ⟨0⟩, .pending 0 (.array ⟨0⟩)]).2
  ((s.newArray [.array ⟨0⟩]).2).push ⟨2⟩ (.array ⟨2⟩)

/-- What is shared is shown at both places, and what is in itself is cut. -/
theorem inspect_cuts_cycles_sharing :
    Store.sharing.RendersPlainly (.array ⟨1⟩) "[[1], [1]]" ∧
      Store.sharing.Renders [⟨1⟩] (.array ⟨0⟩) "[1]" ∧
      Store.sharing.Renders [] (.array ⟨2⟩) "[[1], [...]]" := by
  have hone : Store.sharing.Acyclic (.int 1) := acyclic_of_ownForm? rfl
  have hshared : Store.sharing.Acyclic (.array ⟨0⟩) :=
    acyclic_array (List.forall_mem_singleton.2 hone)
  have hacyclic : Store.sharing.Acyclic (.array ⟨1⟩) :=
    acyclic_array (List.forall_mem_cons.2
      ⟨hshared, List.forall_mem_singleton.2 (acyclic_pending 0 hshared)⟩)
  have hback : ¬ Store.sharing.Contains (.array ⟨0⟩) (.array ⟨1⟩) :=
    hacyclic.not_contains List.mem_cons_self
  obtain ⟨-, -, hpart, -, hplain⟩ := Store.sharing.inspect_cuts_cycles (.array ⟨1⟩)
  obtain ⟨hrenders, -⟩ := Store.sharing.inspect_cuts_cycles (.array ⟨2⟩)
  refine ⟨(hplain _).2 ⟨hacyclic, ?_⟩,
    (hpart _ _ (List.forall_mem_singleton.2 hback) _).2 ?_, (hrenders _).2 ?_⟩
  · cbv
  · cbv
  · cbv

end ObjectModel
