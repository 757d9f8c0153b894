import Mathlib.Data.List.Forall2
import Mathlib.Logic.Relation
import ObjectModel.Value.Equality

/-!
# Equality is bisimilarity

When two values are equal can be said without an order of comparison: each of them has what the
other has.  A bisimulation is a relation between values of which this holds as long as related
values count as equal; two values are equal exactly when some bisimulation relates them.  For arrays
that contain themselves this is more than any finite unfolding says, and the comparison reaches it
although it stops at pairs that it has met before.

That it may stop there is seen from the finite unfoldings.  If the pairs that are being compared
match to the depth `n`, then values that compare as equal match to the depth `n` too, for such a
pair of arrays was itself found to match one level less deep.  So it goes on by induction, and what
matches to every depth is bisimilar because arrays have finitely many elements.

## Main definitions

* `Store.Matches` — two values match, given what counts as equal for their parts.
* `Store.IsBisimulation` — related values match.
* `Store.MatchesTo` — two values match to some depth.

## Main results

* `Store.matchesTo_of_equalFrom` — values that compare as equal match to every depth.
* `Store.IsBisimulation.equalFrom` — values that a bisimulation relates compare as equal.
* `Store.equal_greatest` — equality is the greatest bisimulation, and an equivalence.
-/

namespace ObjectModel.Store

variable {s : Store} {R S : Value → Value → Prop} {a b c : Value} {x y : ArrayRef} {m n : Nat}
  {path : List (ArrayRef × ArrayRef)}

/-- Two values match, given which values count as equal: arrays have as many elements as each other
and these count as equal one by one, early returns carry what counts as equal, strings have the same
characters, faults say the same, or the two are the same object. -/
inductive Matches (s : Store) (R : Value → Value → Prop) : Value → Value → Prop
  | array {x y : ArrayRef} (h : List.Forall₂ R (s.elements x) (s.elements y)) :
      Matches s R (.array x) (.array y)
  | pending {m n : Nat} {a b : Value} (h : R a b) : Matches s R (.pending m a) (.pending n b)
  | string {x y : StringRef} (h : s.text x = s.text y) : Matches s R (.string x) (.string y)
  | fault {f g : Fault} (h : f.message = g.message) : Matches s R (.fault f) (.fault g)
  | identical {a b : Value} (h : a.identical b = true) : Matches s R a b

/-- Whatever the relation relates matches, if what it relates counts as equal. -/
def IsBisimulation (s : Store) (R : Value → Value → Prop) : Prop :=
  ∀ ⦃a b : Value⦄, R a b → s.Matches R a b

/-- Two values match as far as one can see to some depth, where everything counts as equal. -/
def MatchesTo (s : Store) : Nat → Value → Value → Prop
  | 0 => fun _ _ => True
  | n + 1 => s.Matches (s.MatchesTo n)

/-! ### Matching -/

theorem Matches.mono (h : s.Matches R a b) (hRS : ∀ a b, R a b → S a b) : s.Matches S a b := by
  cases h with
  | array h => exact .array (h.imp hRS)
  | pending h => exact .pending (hRS _ _ h)
  | string h => exact .string h
  | fault h => exact .fault h
  | identical h => exact .identical h

/-- Every value matches itself: a fault says what it says, and anything else is the same object. -/
theorem matches_self (s : Store) (R : Value → Value → Prop) (a : Value) : s.Matches R a a := by
  cases h : a.isFault with
  | false => exact .identical (Value.identical_iff.2 ⟨h, rfl⟩)
  | true =>
    cases a with
    | fault f => exact .fault rfl
    | _ => cases h

theorem Matches.symm (h : s.Matches R a b) : s.Matches (flip R) b a := by
  cases h with
  | array h => exact .array (List.Forall₂.flip h)
  | pending h => exact .pending h
  | string h => exact .string h.symm
  | fault h => exact .fault h.symm
  | identical h => exact .identical (Value.identical_comm a b ▸ h)

private theorem forall₂_comp {as bs cs : List Value} (h : List.Forall₂ R as bs)
    (h' : List.Forall₂ S bs cs) : List.Forall₂ (Relation.Comp R S) as cs := by
  induction h generalizing cs with
  | nil =>
    cases h'
    exact .nil
  | cons hhead _ ih =>
    cases h' with
    | cons hhead' htail' => exact .cons ⟨_, hhead, hhead'⟩ (ih htail')

/-- What matches by way of a third value matches, if every value counts as equal to itself. -/
theorem Matches.trans (hR : ∀ a, R a a) (hS : ∀ a, S a a) (h : s.Matches R a b)
    (h' : s.Matches S b c) : s.Matches (Relation.Comp R S) a c := by
  have left : ∀ a b, R a b → Relation.Comp R S a b := fun _ b hab => ⟨b, hab, hS b⟩
  have right : ∀ a b, S a b → Relation.Comp R S a b := fun a _ hab => ⟨a, hR a, hab⟩
  cases h with
  | identical h =>
    obtain ⟨-, rfl⟩ := Value.identical_iff.1 h
    exact h'.mono right
  | array h =>
    cases h' with
    | array h' => exact .array (forall₂_comp h h')
    | identical h' =>
      obtain ⟨-, rfl⟩ := Value.identical_iff.1 h'
      exact (Matches.array h).mono left
  | pending h =>
    cases h' with
    | pending h' => exact .pending ⟨_, h, h'⟩
    | identical h' =>
      obtain ⟨-, rfl⟩ := Value.identical_iff.1 h'
      exact (Matches.pending h).mono left
  | string h =>
    cases h' with
    | string h' => exact .string (h.trans h')
    | identical h' =>
      obtain ⟨-, rfl⟩ := Value.identical_iff.1 h'
      exact .string h
  | fault h =>
    cases h' with
    | fault h' => exact .fault (h.trans h')
    | identical h' =>
      obtain ⟨hfault, -⟩ := Value.identical_iff.1 h'
      cases hfault

theorem Matches.elements (hrefl : ∀ a, R a a) (h : s.Matches R (.array x) (.array y)) :
    List.Forall₂ R (s.elements x) (s.elements y) := by
  cases h with
  | array h => exact h
  | identical h =>
    obtain ⟨-, heq⟩ := Value.identical_iff.1 h
    cases heq
    exact List.forall₂_same.2 fun a _ => hrefl a

theorem Matches.payload (hrefl : ∀ a, R a a) (h : s.Matches R (.pending m a) (.pending n b)) :
    R a b := by
  cases h with
  | pending h => exact h
  | identical h =>
    obtain ⟨-, heq⟩ := Value.identical_iff.1 h
    cases heq
    exact hrefl a

/-! ### Finite unfoldings -/

theorem matchesTo_self (s : Store) (n : Nat) (a : Value) : s.MatchesTo n a a := by
  cases n with
  | zero => trivial
  | succ n => exact s.matches_self _ a

/-- What matches one level deeper matches. -/
theorem MatchesTo.pred (h : s.MatchesTo (n + 1) a b) : s.MatchesTo n a b := by
  induction n generalizing a b with
  | zero => trivial
  | succ n ih => exact Matches.mono h fun _ _ => ih

private theorem forall₂_forall {R : Nat → Value → Value → Prop} {as bs : List Value}
    (h : ∀ n, List.Forall₂ (R n) as bs) : List.Forall₂ (fun a b => ∀ n, R n a b) as bs := by
  refine List.forall₂_iff_zip.2 ⟨(h 0).length_eq, fun hmem n => ?_⟩
  exact List.forall₂_zip (h n) hmem

/-- What matches to every depth is bisimilar. -/
theorem isBisimulation_matchesTo (s : Store) :
    s.IsBisimulation fun a b => ∀ n, s.MatchesTo n a b := by
  intro a b h
  have hrefl (n : Nat) (a : Value) : s.MatchesTo n a a := s.matchesTo_self n a
  -- the first level tells how the two match, and it is the same way at every level
  cases h 1 with
  | array => exact .array (forall₂_forall fun n => Matches.elements (hrefl n) (h (n + 1)))
  | pending => exact .pending fun n => Matches.payload (hrefl n) (h (n + 1))
  | string hstring => exact .string hstring
  | fault hfault => exact .fault hfault
  | identical hidentical => exact .identical hidentical

/-! ### The comparison -/

/-- The rule for arrays, in terms of their elements. -/
theorem equalFrom_array_iff : s.equalFrom path (.array x) (.array y) = true ↔
    x = y ∨ (x, y) ∈ path ∨
      List.Forall₂ (fun a b => s.equalFrom ((x, y) :: path) a b = true) (s.elements x)
        (s.elements y) := by
  rw [equalFrom_array, List.forall₂_iff_zip]
  simp [or_assoc]

/-- **Values that compare as equal match to every depth**, as far as the pairs that are being
compared do. -/
theorem matchesTo_of_equalFrom
    (hpath : ∀ pair ∈ path, s.MatchesTo n (.array pair.1) (.array pair.2))
    (h : s.equalFrom path a b = true) : s.MatchesTo n a b := by
  induction n generalizing path a b with
  | zero => trivial
  | succ n ih =>
    have hpath' : ∀ pair ∈ path, s.MatchesTo n (.array pair.1) (.array pair.2) :=
      fun pair hpair => (hpath pair hpair).pred
    by_cases harrays : ∃ x y, a = .array x ∧ b = .array y
    · obtain ⟨x, y, rfl, rfl⟩ := harrays
      -- the pair itself matches one level less deep, which is enough for its elements
      have hself : s.MatchesTo n (.array x) (.array y) := ih hpath' h
      rcases equalFrom_array_iff.1 h with rfl | hseen | helements
      · exact s.matchesTo_self _ _
      · exact hpath (x, y) hseen
      · exact .array (helements.imp fun _ _ => ih (List.forall_mem_cons.2 ⟨hself, hpath'⟩))
    · revert h
      fun_cases equalFrom s path a b with
      | case1 x y => exact fun h => .string (eq_of_beq h)
      | case7 m x n y => exact fun h => .pending (ih hpath' h)
      | case8 f g => exact fun h => .fault (eq_of_beq h)
      | case9 => exact .identical
      | _ => exact absurd ⟨_, _, rfl, rfl⟩ harrays

/-- **Values that a bisimulation relates compare as equal**, whatever is being compared. -/
theorem IsBisimulation.equalFrom (hR : s.IsBisimulation R) (hrefl : ∀ a, R a a) (h : R a b)
    (path : List (ArrayRef × ArrayRef)) : s.equalFrom path a b = true := by
  have hmatches := hR h
  fun_induction Store.equalFrom s path a b with
  | case1 path x y =>
    cases hmatches with
    | string h => exact beq_iff_eq.2 h
    | identical h =>
      obtain ⟨-, heq⟩ := Value.identical_iff.1 h
      cases heq
      exact beq_self_eq_true _
  | case4 path x y _ _ hlength => exact absurd (hmatches.elements hrefl).length_eq hlength
  | case5 path x y _ _ _ _ ih =>
    refine List.all_eq_true.2 fun pair hpair => ?_
    have hpair' : R pair.1 pair.2 := List.forall₂_zip (hmatches.elements hrefl) hpair
    exact ih pair hpair' (hR hpair')
  | case7 path m x n y ih =>
    have hpayload := hmatches.payload hrefl
    exact ih hpayload (hR hpayload)
  | case8 path f g =>
    cases hmatches with
    | fault h => exact beq_iff_eq.2 h
    | identical h =>
      obtain ⟨hfault, -⟩ := Value.identical_iff.1 h
      cases hfault
  | case9 path a b hstring harray hpending hfault =>
    cases hmatches with
    | array => exact absurd rfl (harray _ _ · rfl)
    | pending => exact absurd rfl (hpending _ _ _ _ · rfl)
    | string => exact absurd rfl (hstring _ _ · rfl)
    | fault => exact absurd rfl (hfault _ _ · rfl)
    | identical h => exact h
  | _ => rfl

/-! ### Equality -/

/-- To be the same value may be added to every bisimulation. -/
theorem IsBisimulation.orEq (hR : s.IsBisimulation R) :
    s.IsBisimulation fun a b => R a b ∨ a = b := by
  rintro a b (h | rfl)
  · exact (hR h).mono fun _ _ => .inl
  · exact s.matches_self _ a

/-- Values are equal exactly when they match to every depth. -/
theorem equal_iff_matchesTo : s.equal a b = true ↔ ∀ n, s.MatchesTo n a b := by
  constructor
  · intro h n
    refine matchesTo_of_equalFrom ?_ h
    rintro _ ⟨⟩
  · exact fun h => s.isBisimulation_matchesTo.equalFrom (fun a n => s.matchesTo_self n a) h []

/-- Values are equal exactly when some bisimulation relates them. -/
theorem equal_iff_bisimilar : s.equal a b = true ↔ ∃ R, s.IsBisimulation R ∧ R a b := by
  constructor
  · exact fun h => ⟨_, s.isBisimulation_matchesTo, equal_iff_matchesTo.1 h⟩
  · rintro ⟨R, hR, h⟩
    exact hR.orEq.equalFrom (fun _ => .inr rfl) (.inl h) []

/-- Equality is itself a bisimulation. -/
theorem isBisimulation_equal (s : Store) : s.IsBisimulation fun a b => s.equal a b = true := by
  intro a b h
  refine (s.isBisimulation_matchesTo (equal_iff_matchesTo.1 h)).mono fun _ _ => ?_
  exact equal_iff_matchesTo.2

/-- Values that match, with equality for their parts, are equal. -/
theorem equal_of_matches (h : s.Matches (fun a b => s.equal a b = true) a b) :
    s.equal a b = true := by
  have hstep : s.IsBisimulation (s.Matches fun a b => s.equal a b = true) :=
    fun _ _ h => h.mono fun _ _ hpart => s.isBisimulation_equal hpart
  exact equal_iff_bisimilar.2 ⟨_, hstep, h⟩

theorem equal_self (s : Store) (a : Value) : s.equal a a = true :=
  equal_iff_matchesTo.2 fun n => s.matchesTo_self n a

theorem equal_symm (h : s.equal a b = true) : s.equal b a = true := by
  refine equal_iff_bisimilar.2 ⟨flip fun a b => s.equal a b = true, fun a b h => ?_, h⟩
  exact (s.isBisimulation_equal h).symm

theorem equal_trans (h : s.equal a b = true) (h' : s.equal b c = true) : s.equal a c = true := by
  let E : Value → Value → Prop := fun a b => s.equal a b = true
  have hcomp : s.IsBisimulation (Relation.Comp E E) := by
    rintro a c ⟨b, hab, hbc⟩
    exact (s.isBisimulation_equal hab).trans s.equal_self s.equal_self (s.isBisimulation_equal hbc)
  exact equal_iff_bisimilar.2 ⟨_, hcomp, b, h, h'⟩

/-- To take pairs as equal that are equal changes the answer of no comparison. -/
theorem equalFrom_eq_equal
    (hpath : ∀ pair ∈ path, s.equal (.array pair.1) (.array pair.2) = true) (a b : Value) :
    s.equalFrom path a b = s.equal a b := by
  rw [Bool.eq_iff_iff]
  constructor
  · refine fun h => equal_iff_matchesTo.2 fun n => matchesTo_of_equalFrom (fun pair hpair => ?_) h
    exact equal_iff_matchesTo.1 (hpath pair hpair) n
  · exact fun h => s.isBisimulation_equal.equalFrom s.equal_self h path

end ObjectModel.Store

namespace ObjectModel

open Store

/-- **Equality is the greatest bisimulation.**  In every store two values are equal exactly when
some bisimulation relates them, however the arrays of the store contain each other.  So equality is
an equivalence; what is assumed of pairs while they are compared makes no values equal that are
not; and one and the same object is equal to itself.  To be the same object is symmetric and
transitive, and reflexive except on faults. -/
theorem Store.equal_greatest (s : Store) :
    (∀ a b, s.equal a b = true ↔ ∃ R, s.IsBisimulation R ∧ R a b) ∧
    Equivalence (fun a b => s.equal a b = true) ∧
    (∀ path, (∀ pair ∈ path, s.equal (.array pair.1) (.array pair.2) = true) →
      ∀ a b, s.equalFrom path a b = s.equal a b) ∧
    (∀ a b, a.identical b = true → s.equal a b = true) ∧
    (∀ a b : Value, a.identical b = b.identical a) ∧
    (∀ a b c : Value, a.identical b = true → b.identical c = true → a.identical c = true) ∧
    ∀ a : Value, a.identical a = !a.isFault := by
  refine ⟨fun a b => equal_iff_bisimilar, ⟨s.equal_self, equal_symm, equal_trans⟩,
    fun path => equalFrom_eq_equal, fun a b h => ?_, Value.identical_comm, fun a b c h h' => ?_,
    fun a => ?_⟩
  · obtain ⟨-, rfl⟩ := Value.identical_iff.1 h
    exact s.equal_self a
  · obtain ⟨-, rfl⟩ := Value.identical_iff.1 h
    exact h'
  · rw [Value.identical, beq_self_eq_true, Bool.and_true]

/-- Three arrays in two loops: the first contains itself, the other two contain each other. -/
def Store.loops : Store :=
  let s := (((Store.empty.newArray []).2.newArray []).2.newArray []).2
  ((s.push ⟨0⟩ (.array ⟨0⟩)).push ⟨1⟩ (.array ⟨2⟩)).push ⟨2⟩ (.array ⟨1⟩)

/-- Loops of different lengths are equal if they have the same unfolding. -/
theorem equal_greatest_loops : Store.loops.equal (.array ⟨0⟩) (.array ⟨1⟩) = true ∧
    Store.loops.equal (.array ⟨1⟩) (.array ⟨0⟩) = true := by
  obtain ⟨hiff, hequivalence, -⟩ := Store.loops.equal_greatest
  have hequal : Store.loops.equal (.array ⟨0⟩) (.array ⟨1⟩) = true := by
    refine (hiff _ _).2 ⟨fun a b => a = .array ⟨0⟩ ∧ (b = .array ⟨1⟩ ∨ b = .array ⟨2⟩), ?_, rfl,
      .inl rfl⟩
    rintro a b ⟨rfl, rfl | rfl⟩
    · exact .array (.cons ⟨rfl, .inr rfl⟩ .nil)
    · exact .array (.cons ⟨rfl, .inl rfl⟩ .nil)
  exact ⟨hequal, hequivalence.symm hequal⟩

end ObjectModel
