import ObjectModel.Class.Lookup

/-!
# Ancestries

`Store.lineage` walks along superclasses and never follows a link to a younger class, which is
what makes it end in every store whatsoever.  In a store where every superclass is older than its
class nothing is cut short: the lineage of a class is the chain of all its superclasses, down to
one without a superclass, and no class occurs in it twice.

## Main definitions

* `Store.Ancestry` — the chain of superclasses of a class, as a relation.
* `Store.Layered` — every superclass is older than its class.

## Main results

* `Store.ancestry_lineage`, `Store.Ancestry.eq_lineage` — in a layered store the lineage of a class
  is its ancestry.
* `Store.nodup_lineage` — no class occurs twice in a lineage.
* `Store.resolve?_eq_some_iff`, `Store.resolve?_eq_none_iff` — a method is that of the first class
  of the lineage that has the name in its own table.
* `Store.resolve?_congr`, `Store.resolve?_congr_of_prefix` — what a lookup in a class depends on.
-/

namespace ObjectModel.Store

/-- A class followed by its superclass, the superclass of that, and so on to a class without a
superclass. -/
inductive Ancestry (s : Store) : ClassRef → List ClassRef → Prop
  /-- The chain ends at a class without a superclass. -/
  | root {c : ClassRef} (h : s.superclass? c = none) : Ancestry s c [c]
  /-- A class stands before the chain of its superclass. -/
  | cons {c parent : ClassRef} {classes : List ClassRef} (h : s.superclass? c = some parent)
      (hparent : Ancestry s parent classes) : Ancestry s c (c :: classes)

/-- A class is the first in its own ancestry. -/
theorem Ancestry.head?_eq {s : Store} {c : ClassRef} {classes : List ClassRef}
    (h : s.Ancestry c classes) : classes.head? = some c := by
  cases h <;> rfl

/-- Every superclass is older than its class. -/
def Layered (s : Store) : Prop :=
  ∀ ⦃c parent : ClassRef⦄, s.superclass? c = some parent → parent.index < c.index

/-- Superclasses are followed in one way only. -/
theorem Ancestry.unique {s : Store} {c : ClassRef} {as bs : List ClassRef}
    (ha : s.Ancestry c as) (hb : s.Ancestry c bs) : as = bs := by
  induction ha generalizing bs with
  | root h =>
    cases hb with
    | root _ => rfl
    | cons h' _ => rw [h] at h'; cases h'
  | cons h _ ih =>
    cases hb with
    | root h' => rw [h] at h'; cases h'
    | cons h' hparent =>
      rw [h] at h'
      cases h'
      rw [ih hparent]

/-- In a layered store the walk along superclasses leaves nothing out. -/
theorem ancestry_lineage {s : Store} (hs : s.Layered) (c : ClassRef) :
    s.Ancestry c (s.lineage c) := by
  fun_induction lineage s c with
  | case1 c ih =>
    cases h : s.superclass? c with
    | none => exact .root h
    | some parent =>
      have older := hs h
      simp only [older, dite_true]
      exact .cons h (ih parent older)

theorem Ancestry.eq_lineage {s : Store} (hs : s.Layered) {c : ClassRef}
    {classes : List ClassRef} (h : s.Ancestry c classes) : classes = s.lineage c :=
  h.unique (ancestry_lineage hs c)

/-- Classes get strictly older along a lineage, in every store. -/
theorem pairwise_lineage (s : Store) (c : ClassRef) :
    (s.lineage c).Pairwise fun a b => b.index < a.index := by
  fun_induction lineage s c with
  | case1 c ih =>
    cases h : s.superclass? c with
    | none => simp
    | some parent =>
      by_cases older : parent.index < c.index
      · simp only [older, dite_true]
        have hrest := ih parent older
        refine List.pairwise_cons.2 ⟨fun b hb => ?_, hrest⟩
        -- everything further on is at most as young as the head of the rest
        rw [lineage] at hb hrest
        rcases List.mem_cons.1 hb with rfl | hb
        · exact older
        · exact Nat.lt_trans ((List.pairwise_cons.1 hrest).1 b hb) older
      · simp [older]

theorem nodup_lineage (s : Store) (c : ClassRef) : (s.lineage c).Nodup := by
  refine (pairwise_lineage s c).imp fun h heq => ?_
  rw [heq] at h
  exact Nat.lt_irrefl _ h

/-- A lineage goes to older classes. -/
theorem index_le_of_mem_lineage {s : Store} {c d : ClassRef} (h : d ∈ s.lineage c) :
    d.index ≤ c.index := by
  have hpairwise := s.pairwise_lineage c
  rw [lineage] at h hpairwise
  rcases List.mem_cons.1 h with rfl | h
  · exact Nat.le_refl _
  · exact Nat.le_of_lt ((List.pairwise_cons.1 hpairwise).1 d h)

/-! ### The first class that defines a name -/

/-- A method is found in the first class of the lineage with the name in its own table. -/
theorem resolve?_eq_some_iff {s : Store} {c : ClassRef} {name : String} {found : Found} :
    s.resolve? c name = some found ↔
      ∃ before after, s.lineage c = before ++ found.owner :: after ∧
        (∀ d ∈ before, s.localMethod? d name = none) ∧
        s.localMethod? found.owner name = some found.method := by
  rw [resolve?, List.findSome?_eq_some_iff]
  constructor
  · rintro ⟨before, owner, after, hsplit, howner, hbefore⟩
    obtain ⟨method, hmethod, rfl⟩ := Option.map_eq_some_iff.1 howner
    exact ⟨before, after, hsplit, fun d hd => Option.map_eq_none_iff.1 (hbefore d hd), hmethod⟩
  · rintro ⟨before, after, hsplit, hbefore, hmethod⟩
    refine ⟨before, found.owner, after, hsplit, ?_, fun d hd => ?_⟩
    · rw [hmethod]; rfl
    · rw [hbefore d hd]; rfl

theorem resolve?_eq_none_iff {s : Store} {c : ClassRef} {name : String} :
    s.resolve? c name = none ↔ ∀ d ∈ s.lineage c, s.localMethod? d name = none := by
  simp [resolve?, List.findSome?_eq_none_iff]

/-- A class without the name has what its superclass has. -/
theorem resolve?_of_superclass {s : Store} {c parent : ClassRef} {name : String}
    (hparent : s.superclass? c = some parent) (older : parent.index < c.index)
    (hlocal : s.localMethod? c name = none) : s.resolve? c name = s.resolve? parent name := by
  rw [resolve?, lineage_of_superclass hparent older, List.findSome?_cons, hlocal]
  rfl

/-- A search depends on what is searched only. -/
theorem findSome?_eq_of_agree {α β : Type} {f g : α → Option β} {as : List α}
    (h : ∀ a ∈ as, f a = g a) : as.findSome? f = as.findSome? g := by
  induction as with
  | nil => rfl
  | cons a as ih =>
    have has := ih fun b hb => h b (List.mem_cons_of_mem a hb)
    rw [List.findSome?_cons, List.findSome?_cons, h a List.mem_cons_self, has]

/-- Lineages that agree, and tables that agree along them, resolve a name alike. -/
theorem resolve?_congr {s t : Store} {c : ClassRef} {name : String}
    (hlineage : t.lineage c = s.lineage c)
    (hlocal : ∀ d ∈ s.lineage c, t.localMethod? d name = s.localMethod? d name) :
    t.resolve? c name = s.resolve? c name := by
  rw [resolve?, resolve?, hlineage]
  refine findSome?_eq_of_agree fun d hd => ?_
  rw [hlocal d hd]

/-- If a first part of the lineage defines the name, nothing else matters. -/
theorem resolve?_congr_of_prefix {s t : Store} {c : ClassRef} {name : String}
    {before after after' : List ClassRef} (hs : s.lineage c = before ++ after)
    (ht : t.lineage c = before ++ after')
    (hlocal : ∀ d ∈ before, t.localMethod? d name = s.localMethod? d name)
    (hdefined : ∃ d ∈ before, s.localMethod? d name ≠ none) :
    t.resolve? c name = s.resolve? c name := by
  have hagree : before.findSome? (fun owner => (t.localMethod? owner name).map (Found.mk owner)) =
      before.findSome? (fun owner => (s.localMethod? owner name).map (Found.mk owner)) := by
    refine findSome?_eq_of_agree fun d hd => ?_
    rw [hlocal d hd]
  rw [resolve?, resolve?, hs, ht, List.findSome?_append, List.findSome?_append, hagree]
  cases hfound : before.findSome? fun owner => (s.localMethod? owner name).map (Found.mk owner) with
  | some found => rfl
  | none =>
    obtain ⟨d, hd, hne⟩ := hdefined
    have hnone := List.findSome?_eq_none_iff.1 hfound d hd
    exact absurd (Option.map_eq_none_iff.1 hnone) hne

/-! ### Old classes

Classes that are added to a store are above no class that is there. -/

section

variable {s t : Store} {c : ClassRef}

theorem lineage_of_read_eq (hs : s.Layered)
    (hread : ∀ d : ClassRef, d.index < s.classes.size → t.classes.read d = s.classes.read d)
    (hc : c.index < s.classes.size) : t.lineage c = s.lineage c := by
  fun_induction lineage s c with
  | case1 c ih =>
    have hsuper : t.superclass? c = s.superclass? c := by
      rw [superclass?, hread c hc, superclass?]
    rw [lineage, hsuper]
    cases hparent : s.superclass? c with
    | none => rfl
    | some parent =>
      have older := hs hparent
      simp only [older, dite_true]
      rw [ih parent older (Nat.lt_trans older hc)]

/-- A class resolves names as it did, if the cells of all old classes are what they were. -/
theorem resolve?_of_read_eq (hs : s.Layered)
    (hread : ∀ d : ClassRef, d.index < s.classes.size → t.classes.read d = s.classes.read d)
    (hc : c.index < s.classes.size) (name : String) : t.resolve? c name = s.resolve? c name := by
  refine resolve?_congr (lineage_of_read_eq hs hread hc) fun d hd => ?_
  have hd' : d.index < s.classes.size := Nat.lt_of_le_of_lt (index_le_of_mem_lineage hd) hc
  rw [localMethod?, localMethod?, hread d hd']

end

end ObjectModel.Store
