import ObjectModel.Proofs.Locals
import ObjectModel.Proofs.Reachable

/-!
# Who sees a binding

Scopes are shared.  What is bound through one handle to a scope is seen through every other, and
from the scopes inside it, among them those that functions were made in.  A scope sees the nearest
binding outward and no other, so a change of one binding is seen from exactly those scopes for
which it is the nearest, and from everywhere else every name means what it meant.

An assignment goes outward in the same way as a lookup.  It therefore changes the binding that the
scope sees, and makes one in the scope itself if it sees none.

## Main definitions

* `Store.Enclosure` — the scopes from one outward, as a relation.
* `Store.BoundAt` — the nearest scope outward that binds a name.
* `Store.Rebound` — what a changed binding amounts to, for every scope of the store.

## Main results

* `Store.boundAt_iff_find?` — the walk outward finds the nearest scope.
* `Store.BoundAt.valueOf?_eq` — a name means what the nearest scope binds it to.
* `Store.Nested.rebound_setVar` — the effect of a binding.
* `Reachable.assign_rebound` — the effect of an assignment, in every reachable store.
-/

namespace ObjectModel

namespace Store

variable {strict : Bool} {s t : Store} {scope parent target nearer other : ScopeRef}
  {name key : String} {value : Value}

/-! ### The way outward -/

/-- A scope followed by the scope around it, the scope around that, and so on to one that lies in
no other. -/
inductive Enclosure (s : Store) : ScopeRef → List ScopeRef → Prop
  | outermost {scope : ScopeRef} (h : s.parentScope? scope = none) : Enclosure s scope [scope]
  | cons {scope parent : ScopeRef} {scopes : List ScopeRef}
      (h : s.parentScope? scope = some parent) (hparent : Enclosure s parent scopes) :
      Enclosure s scope (scope :: scopes)

/-- On the way outward from a scope, the first scope that binds the name is `target`. -/
inductive BoundAt (s : Store) (name : String) : ScopeRef → ScopeRef → Prop
  | here {target : ScopeRef} (h : s.binds target name = true) : BoundAt s name target target
  | outward {scope parent target : ScopeRef} (h : s.binds scope name = false)
      (hparent : s.parentScope? scope = some parent) (hat : BoundAt s name parent target) :
      BoundAt s name scope target

/-- Every scope is younger than the scope around it. -/
def Nested (s : Store) : Prop :=
  ∀ ⦃scope parent : ScopeRef⦄, s.parentScope? scope = some parent → parent.index < scope.index

/-- The walk outward leaves nothing out, and it ends. -/
theorem enclosure_scopeChain (hs : s.Nested) (scope : ScopeRef) :
    s.Enclosure scope (s.scopeChain scope) := by
  fun_induction scopeChain s scope with
  | case1 scope ih =>
    cases h : s.parentScope? scope with
    | none => exact .outermost h
    | some parent =>
      have older := hs h
      simp only [older, dite_true]
      exact .cons h (ih parent older)

/-- The way outward goes to older scopes. -/
theorem index_le_of_mem_scopeChain (h : other ∈ s.scopeChain scope) :
    other.index ≤ scope.index := by
  fun_induction scopeChain s scope with
  | case1 scope ih =>
    rcases List.mem_cons.1 h with rfl | h
    · exact Nat.le_refl _
    · split at h
      · next parent hparent =>
        split at h
        · next older => exact Nat.le_trans (ih parent older h) (Nat.le_of_lt older)
        · cases h
      · cases h

/-- No scope lies in a scope that lies in it. -/
theorem not_mem_scopeChain_of_mem (h : other ∈ s.scopeChain scope) (hne : other ≠ scope) :
    scope ∉ s.scopeChain other := by
  intro hback
  have hle : other.index ≤ scope.index := index_le_of_mem_scopeChain h
  have hge : scope.index ≤ other.index := index_le_of_mem_scopeChain hback
  exact hne (congrArg Ref.mk (Nat.le_antisymm hle hge))

/-- Nor does it lie in a scope beside it. -/
theorem Nested.not_mem_scopeChain_of_sibling (hs : s.Nested) (hne : other ≠ scope)
    (hparent : s.parentScope? other = s.parentScope? scope) : scope ∉ s.scopeChain other := by
  intro hmem
  cases h : s.parentScope? scope with
  | none =>
    rw [h] at hparent
    rw [scopeChain_of_outermost hparent] at hmem
    exact hne (List.mem_singleton.1 hmem).symm
  | some parent =>
    rw [h] at hparent
    rw [scopeChain_of_parent hparent (hs hparent)] at hmem
    rcases List.mem_cons.1 hmem with rfl | hmem
    · exact hne rfl
    · exact Nat.lt_irrefl _ (Nat.lt_of_le_of_lt (index_le_of_mem_scopeChain hmem) (hs h))

/-! ### The nearest binding -/

/-- What is looked for on the way outward is the nearest scope. -/
theorem boundAt_iff_find? (hs : s.Nested) : s.BoundAt name scope target ↔
    (s.scopeChain scope).find? (fun outer => s.binds outer name) = some target := by
  constructor
  · intro h
    induction h with
    | here h => rw [scopeChain, List.find?_cons, h]
    | outward h hparent _ ih =>
      rw [scopeChain_of_parent hparent (hs hparent), List.find?_cons, h]
      exact ih
  · intro h
    fun_induction scopeChain s scope with
    | case1 scope ih =>
      rw [List.find?_cons] at h
      cases hbinds : s.binds scope name with
      | true =>
        rw [hbinds] at h
        cases h
        exact .here hbinds
      | false =>
        rw [hbinds] at h
        cases hparent : s.parentScope? scope with
        | none =>
          rw [hparent] at h
          cases h
        | some parent =>
          have older := hs hparent
          simp only [hparent, older, dite_true] at h
          exact .outward hbinds hparent (ih parent older h)

/-- There is at most one nearest scope. -/
theorem BoundAt.unique (hs : s.Nested) (h : s.BoundAt name scope target)
    (h' : s.BoundAt name scope nearer) : target = nearer := by
  rw [boundAt_iff_find? hs] at h h'
  rw [h] at h'
  exact Option.some.inj h'

theorem BoundAt.binds (h : s.BoundAt name scope target) : s.binds target name = true := by
  induction h with
  | here h => exact h
  | outward _ _ _ ih => exact ih

theorem BoundAt.mem_scopeChain (hs : s.Nested) (h : s.BoundAt name scope target) :
    target ∈ s.scopeChain scope :=
  List.mem_of_find?_eq_some ((boundAt_iff_find? hs).1 h)

/-- A name means what the nearest scope binds it to. -/
theorem BoundAt.valueOf?_eq (hs : s.Nested) (h : s.BoundAt name scope target) :
    s.valueOf? scope name = s.localValue? target name := by
  induction h with
  | here h =>
    obtain ⟨value, hvalue⟩ := Option.isSome_iff_exists.1 h
    rw [valueOf?, scopeChain, List.findSome?_cons, hvalue]
  | outward h hparent _ ih =>
    have hnone := Option.not_isSome_iff_eq_none.1 (Bool.eq_false_iff.1 h)
    rw [valueOf?, scopeChain_of_parent hparent (hs hparent), List.findSome?_cons, hnone]
    exact ih

/-- A name that no scope outward binds means nothing. -/
theorem valueOf?_of_unbound (hs : s.Nested) (h : ∀ target, ¬ s.BoundAt name scope target) :
    s.valueOf? scope name = none := by
  have hfind : (s.scopeChain scope).find? (fun outer => s.binds outer name) = none :=
    Option.eq_none_iff_forall_ne_some.2 fun target hfound =>
      h target ((boundAt_iff_find? hs).2 hfound)
  refine List.findSome?_eq_none_iff.2 fun outer houter => ?_
  exact Option.not_isSome_iff_eq_none.1 (List.find?_eq_none.1 hfind outer houter)

/-- An assignment is to the nearest scope that binds the name. -/
theorem BoundAt.assignee_eq (hs : s.Nested) (h : s.BoundAt name scope target) :
    s.assignee scope name = target := by
  rw [assignee, (boundAt_iff_find? hs).1 h, Option.getD_some]

/-- If no scope outward binds the name it is to the scope itself. -/
theorem assignee_of_unbound (hs : s.Nested) (h : ∀ target, ¬ s.BoundAt name scope target) :
    s.assignee scope name = scope := by
  unfold assignee
  cases hfound : (s.scopeChain scope).find? fun outer => s.binds outer name with
  | none => rfl
  | some target => exact absurd ((boundAt_iff_find? hs).2 hfound) (h target)

/-! ### Changing a binding -/

/-- What is seen of the binding of a name in a scope after it has changed, and what is not. -/
structure Rebound (s t : Store) (target : ScopeRef) (name : String) (value : Value) : Prop where
  bound : t.localValue? target name = some value
  /-- No other binding has changed, and no scope has moved. -/
  others : ∀ ⦃scope : ScopeRef⦄ ⦃key : String⦄, ¬(scope = target ∧ key = name) →
    t.localValue? scope key = s.localValue? scope key
  links : ∀ scope : ScopeRef, t.parentScope? scope = s.parentScope? scope
  /-- The change is seen from wherever the scope is now the nearest that binds the name. -/
  seen : ∀ ⦃scope : ScopeRef⦄, t.BoundAt name scope target → t.valueOf? scope name = some value
  /-- From everywhere else, and for every other name, nothing has changed. -/
  unseen : ∀ ⦃scope : ScopeRef⦄ ⦃key : String⦄, ¬(key = name ∧ t.BoundAt name scope target) →
    t.valueOf? scope key = s.valueOf? scope key
  /-- A nearer binding hides the change. -/
  hidden : ∀ ⦃scope nearer : ScopeRef⦄, t.BoundAt name scope nearer → nearer ≠ target →
    t.valueOf? scope name = s.valueOf? scope name
  /-- The scopes around it do not see it. -/
  around : ∀ outer ∈ s.scopeChain target, outer ≠ target → ∀ key : String,
    t.valueOf? outer key = s.valueOf? outer key
  /-- Neither do the scopes beside it. -/
  beside : ∀ ⦃sibling : ScopeRef⦄, sibling ≠ target →
    s.parentScope? sibling = s.parentScope? target → ∀ key : String,
      t.valueOf? sibling key = s.valueOf? sibling key

section

variable (hs : s.Nested) (htarget : target.index < s.scopes.size)

include htarget

theorem binds_setVar : (s.setVar target name value).binds other key =
    (decide (other = target ∧ key = name) || s.binds other key) := by
  rw [binds, s.localValue?_setVar name value htarget]
  by_cases h : other = target ∧ key = name
  · rw [if_pos h, decide_eq_true h]
    rfl
  · rw [if_neg h, decide_eq_false h]
    rfl

/-- A scope that was nearest before is still nearest, if what is bound is bound there. -/
theorem BoundAt.setVar (h : s.BoundAt name scope target) :
    (s.setVar target name value).BoundAt name scope target := by
  induction h with
  | here h => exact .here (by rw [binds_setVar htarget, h, Bool.or_true])
  | @outward scope parent target h hparent hat ih =>
    have hne : scope ≠ target := by
      rintro rfl
      rw [hat.binds] at h
      cases h
    refine .outward ?_ ?_ (ih htarget)
    · rw [binds_setVar htarget, h, decide_eq_false fun heq => hne heq.1]
      rfl
    · rw [parentScope?_setVar, hparent]

/-- A scope that is nearest after a binding elsewhere, or of another name, was so before. -/
theorem BoundAt.of_setVar (h : (s.setVar target name value).BoundAt key scope nearer)
    (hne : ¬(nearer = target ∧ key = name)) : s.BoundAt key scope nearer := by
  induction h with
  | here h =>
    rw [binds_setVar htarget, decide_eq_false hne, Bool.false_or] at h
    exact .here h
  | outward h hparent _ ih =>
    rw [binds_setVar htarget, Bool.or_eq_false_iff] at h
    rw [parentScope?_setVar] at hparent
    exact .outward h.2 hparent (ih hne)

/-- A name that was bound outward is still bound outward. -/
theorem BoundAt.exists_setVar (h : s.BoundAt key scope nearer) :
    ∃ nearest, (s.setVar target name value).BoundAt key scope nearest := by
  induction h with
  | @here nearer h => exact ⟨nearer, .here (by rw [binds_setVar htarget, h, Bool.or_true])⟩
  | @outward scope parent nearer h hparent _ ih =>
    cases hbinds : (s.setVar target name value).binds scope key with
    | true => exact ⟨scope, .here hbinds⟩
    | false =>
      obtain ⟨nearest, hnearest⟩ := ih
      exact ⟨nearest, .outward hbinds (by rw [parentScope?_setVar, hparent]) hnearest⟩

include hs

omit htarget in
theorem Nested.setVar : (s.setVar target name value).Nested := by
  intro scope parent hparent
  rw [parentScope?_setVar] at hparent
  exact hs hparent

/-- From where a binding is not the nearest, every name means what it meant. -/
theorem Nested.valueOf?_setVar_of_not_boundAt
    (h : ¬(key = name ∧ (s.setVar target name value).BoundAt name scope target)) :
    (s.setVar target name value).valueOf? scope key = s.valueOf? scope key := by
  by_cases hbound : ∃ nearest, (s.setVar target name value).BoundAt key scope nearest
  · obtain ⟨nearest, hnearest⟩ := hbound
    have hne : ¬(nearest = target ∧ key = name) := by
      rintro ⟨rfl, rfl⟩
      exact h ⟨rfl, hnearest⟩
    rw [hnearest.valueOf?_eq hs.setVar, (hnearest.of_setVar htarget hne).valueOf?_eq hs,
      s.localValue?_setVar name value htarget, if_neg hne]
  · -- a name that was bound outward would still be
    have hnone : ∀ nearest, ¬ s.BoundAt key scope nearest :=
      fun nearest hnearest => hbound (hnearest.exists_setVar htarget)
    rw [valueOf?_of_unbound hs hnone,
      valueOf?_of_unbound hs.setVar fun nearest hnearest => hbound ⟨nearest, hnearest⟩]

/-- From where it is not on the way outward, it is not the nearest. -/
theorem Nested.valueOf?_setVar_of_not_mem (h : target ∉ s.scopeChain scope) (key : String) :
    (s.setVar target name value).valueOf? scope key = s.valueOf? scope key := by
  refine hs.valueOf?_setVar_of_not_boundAt htarget ?_
  rintro ⟨-, hat⟩
  have hmem := hat.mem_scopeChain hs.setVar
  rw [scopeChain_congr (s.parentScope?_setVar target name value)] at hmem
  exact h hmem

/-- The effect of a binding. -/
theorem Nested.rebound_setVar (name : String) (value : Value) :
    s.Rebound (s.setVar target name value) target name value := by
  have hlocal := s.localValue?_setVar name value htarget
  have hbound : (s.setVar target name value).localValue? target name = some value := by
    rw [hlocal, if_pos ⟨rfl, rfl⟩]
  refine ⟨hbound, fun scope key hne => ?_, s.parentScope?_setVar target name value,
    fun scope hat => ?_, fun scope key => hs.valueOf?_setVar_of_not_boundAt htarget,
    fun scope nearer hat hne => ?_, fun outer houter hne => ?_, fun sibling hne hparent => ?_⟩
  · rw [hlocal, if_neg hne]
  · rw [hat.valueOf?_eq hs.setVar, hbound]
  · refine hs.valueOf?_setVar_of_not_boundAt htarget ?_
    rintro ⟨-, hat'⟩
    exact hne (hat.unique hs.setVar hat')
  · exact hs.valueOf?_setVar_of_not_mem htarget (not_mem_scopeChain_of_mem houter hne)
  · exact hs.valueOf?_setVar_of_not_mem htarget (hs.not_mem_scopeChain_of_sibling hne hparent)

end

end Store

open Store

/-- **Who sees an assignment.**  In every reachable store the scopes from one outward come to an
end.  An assignment in a scope changes the nearest binding outward of the name, or makes one in the
scope itself if there is none, and the scope then sees it.  It is seen from exactly the scopes for
which that binding is the nearest; what a name means from any other scope, and what any other name
means from any scope, has not changed.  The same holds of a binding in the scope itself. -/
theorem Reachable.assign_rebound {strict : Bool} {s : Store} (h : Reachable strict s)
    {scope : ScopeRef} (hscope : scope.index < s.scopes.size) (name : String) (value : Value) :
    (∃ scopes, s.Enclosure scope scopes) ∧
    (∃ target, (s.BoundAt name scope target ∨
        target = scope ∧ ∀ outer, ¬ s.BoundAt name scope outer) ∧
      s.Rebound (s.assign scope name value) target name value ∧
      (s.assign scope name value).valueOf? scope name = some value) ∧
    s.Rebound (s.setVar scope name value) scope name value := by
  have hs : s.Nested := h.sound.parent_older
  refine ⟨⟨_, enclosure_scopeChain hs scope⟩, ?_, hs.rebound_setVar hscope name value⟩
  by_cases hbound : ∃ target, s.BoundAt name scope target
  · obtain ⟨target, hat⟩ := hbound
    have htarget := index_lt_of_binds hat.binds
    have heffect := hs.rebound_setVar htarget name value
    rw [assign, hat.assignee_eq hs]
    exact ⟨target, .inl hat, heffect, heffect.seen (hat.setVar htarget)⟩
  · have hunbound : ∀ target, ¬ s.BoundAt name scope target :=
      fun target hat => hbound ⟨target, hat⟩
    have heffect := hs.rebound_setVar hscope name value
    have hbinds : (s.setVar scope name value).binds scope name = true := by
      rw [binds, heffect.bound]
      rfl
    rw [assign, assignee_of_unbound hs hunbound]
    exact ⟨scope, .inr ⟨rfl, hunbound⟩, heffect, heffect.seen (.here hbinds)⟩

/-- A scope that binds a number, and an empty scope inside it. -/
def Store.withInnerScope : Store :=
  (((Store.initial.newScope none).2.setVar ⟨0⟩ "n" (.int 1)).newScope (some ⟨0⟩)).2

theorem reachable_withInnerScope : Reachable false Store.withInnerScope := by
  have houter : Step false Core.initial Store.initial (Store.initial.newScope none).2 :=
    .newScope nofun
  have hbound : Step false Core.initial (Store.initial.newScope none).2
      ((Store.initial.newScope none).2.setVar ⟨0⟩ "n" (.int 1)) := .setVar trivial
  have hinner : Step false Core.initial ((Store.initial.newScope none).2.setVar ⟨0⟩ "n" (.int 1))
      Store.withInnerScope := by
    refine .newScope ?_
    rintro _ ⟨⟩
    decide +kernel
  exact ((Relation.ReflTransGen.single (.step houter)).tail (.step hbound)).tail (.step hinner)

/-- An assignment in the inner scope is seen from the outer one, which binds the name. -/
theorem assign_rebound_withInnerScope :
    Reachable false Store.withInnerScope ∧
      (⟨1⟩ : ScopeRef).index < Store.withInnerScope.scopes.size ∧
      (Store.withInnerScope.assign ⟨1⟩ "n" (.int 2)).valueOf? ⟨0⟩ "n" = some (.int 2) := by
  have h := reachable_withInnerScope
  have hscope : (⟨1⟩ : ScopeRef).index < Store.withInnerScope.scopes.size := by decide +kernel
  have hnear : Store.withInnerScope.BoundAt "n" ⟨1⟩ ⟨0⟩ := by
    have hinner : Store.withInnerScope.binds ⟨1⟩ "n" = false := by decide +kernel
    have hparent : Store.withInnerScope.parentScope? ⟨1⟩ = some ⟨0⟩ := by decide +kernel
    have houter : Store.withInnerScope.binds ⟨0⟩ "n" = true := by decide +kernel
    exact .outward hinner hparent (.here houter)
  obtain ⟨-, ⟨target, htarget, heffect, -⟩, -⟩ := h.assign_rebound hscope "n" (.int 2)
  refine ⟨h, hscope, ?_⟩
  rcases htarget with hat | ⟨-, hnone⟩
  · cases hnear.unique h.sound.parent_older hat
    have hbinds : (Store.withInnerScope.assign ⟨1⟩ "n" (.int 2)).binds ⟨0⟩ "n" = true := by
      rw [binds, heffect.bound]
      rfl
    exact heffect.seen (.here hbinds)
  · exact absurd hnear (hnone _)

end ObjectModel
