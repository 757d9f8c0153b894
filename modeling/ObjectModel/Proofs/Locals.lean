import ObjectModel.Host.Body
import ObjectModel.Proofs.Evaluation
import ObjectModel.Proofs.Step

/-!
# Locals

A body runs in a scope that is made for it.  An assignment in it rebinds a name where it is bound,
or else binds it in that scope, so a body may give another value to a name that a scope around it
binds, but it never adds a name to a scope that was there before.  The same holds of everything that
the body sends, calls and runs in turn, however deep it goes and whatever functions it makes on the
way.  A program that runs in a given scope may add names to that scope and to no other.

Native functions of a host could bind names wherever they like.  The host is therefore asked not to
bind any itself; what it sends and calls is covered by the theorem.

## Main definitions

* `Discipline.sparing` — the rule that no name is added to the scopes of a given set.
* `Host.SparesScopes` — native functions that bind no names themselves.

## Main results

* `Store.boundNames_assign`, `Store.boundNames_enter` — assignments and calls add no name elsewhere.
* `Discipline.sparing_lawful` — every operation on the store keeps to the rule.
* `Host.ofBodies_sparesScopes` — so do the native functions of a table of bodies.
* `boundNames_evaluator` — neither bodies nor programs add a name to an old scope.
-/

namespace ObjectModel

namespace Store

variable {s : Store} {scope other : ScopeRef} {name : String}

/-! ### Names of a scope -/

/-- Only a scope that is in the store binds names. -/
theorem index_lt_of_binds (h : s.binds scope name = true) : scope.index < s.scopes.size := by
  refine Nat.lt_of_not_le fun hout => ?_
  rw [binds, localValue?, Cells.read_of_size_le hout] at h
  cases h

theorem boundNames_setVar_of_ne (s : Store) (name : String) (value : Value) (h : other ≠ scope) :
    (s.setVar scope name value).boundNames other = s.boundNames other :=
  congrArg (fun cell : ScopeCell => cell.bindings.names) (s.scopes.read_modify_of_ne _ h)

/-- To rebind a name adds none. -/
theorem boundNames_setVar_of_binds (value : Value) (h : s.binds scope name = true) :
    (s.setVar scope name value).boundNames scope = s.boundNames scope := by
  have hread : (s.setVar scope name value).scopes.read scope = _ :=
    s.scopes.read_modify_self _ (index_lt_of_binds h)
  rw [boundNames, hread, boundNames]
  exact NameTable.names_insert _ value h

/-- What is assigned to binds the name already, or is the scope of the assignment. -/
theorem assignee_eq_or_binds (s : Store) (scope : ScopeRef) (name : String) :
    s.assignee scope name = scope ∨ s.binds (s.assignee scope name) name = true := by
  unfold assignee
  cases hfound : (s.scopeChain scope).find? fun outer => s.binds outer name with
  | none => exact .inl rfl
  | some outer =>
    have hbinds := List.find?_some hfound
    exact .inr hbinds

/-- An assignment adds no name to a scope other than its own. -/
theorem boundNames_assign (s : Store) (name : String) (value : Value) (h : other ≠ scope) :
    (s.assign scope name value).boundNames other = s.boundNames other := by
  unfold assign
  by_cases heq : other = s.assignee scope name
  · rcases s.assignee_eq_or_binds scope name with hown | hbinds
    · exact absurd (heq.trans hown) h
    · rw [heq]
      exact boundNames_setVar_of_binds value hbinds
  · exact boundNames_setVar_of_ne s name value heq

theorem boundNames_setVars_of_ne (s : Store) (bindings : List (String × Value))
    (h : other ≠ scope) : (s.setVars scope bindings).boundNames other = s.boundNames other := by
  induction bindings generalizing s with
  | nil => rfl
  | cons binding bindings ih =>
    have hrest := ih (s.setVar scope binding.1 binding.2)
    rw [boundNames_setVar_of_ne s _ _ h] at hrest
    exact hrest

theorem size_scopes_setVars (s : Store) (bindings : List (String × Value)) :
    (s.setVars scope bindings).scopes.size = s.scopes.size := by
  induction bindings generalizing s with
  | nil => rfl
  | cons binding bindings ih =>
    have hrest := ih (s.setVar scope binding.1 binding.2)
    rw [setVar, Cells.size_modify] at hrest
    exact hrest

/-! ### Entering a function -/

variable (closure : Closure) (receiver? : Option Value) (args : List Value)

/-- A call binds names in its own scope, which is new. -/
theorem enter_fst (s : Store) : (s.enter closure receiver? args).1 = s.scopes.next := by
  cases receiver? <;> rfl

theorem size_scopes_enter (s : Store) :
    (s.enter closure receiver? args).2.scopes.size = s.scopes.size + 1 := by
  have hbound : ((s.newScope (some closure.scope)).2.setVars s.scopes.next
      (closure.params.zip args)).scopes.size = s.scopes.size + 1 := by
    rw [size_scopes_setVars, newScope, Cells.size_add]
  cases receiver? with
  | none => exact hbound
  | some receiver => exact (Cells.size_modify _ _ _).trans hbound

/-- A call adds no name to a scope that was there before. -/
theorem boundNames_enter (h : other.index < s.scopes.size) :
    (s.enter closure receiver? args).2.boundNames other = s.boundNames other := by
  have hne : other ≠ s.scopes.next := by
    rintro rfl
    exact Nat.lt_irrefl _ h
  have hold : (s.newScope (some closure.scope)).2.boundNames other = s.boundNames other :=
    congrArg (fun cell : ScopeCell => cell.bindings.names) (s.scopes.read_add_of_lt _ h)
  have hbound := boundNames_setVars_of_ne (s.newScope (some closure.scope)).2
    (closure.params.zip args) hne
  rw [hold] at hbound
  cases receiver? with
  | none => exact hbound
  | some receiver => exact (boundNames_setVar_of_ne _ _ _ hne).trans hbound

/-! ### Eigenclasses -/

variable {core : Core} {t : Store} {value : Value}

/-- An eigenclass has nothing to do with scopes. -/
theorem scopes_ensureEigenclass {e : ClassRef} (h : s.ensureEigenclass core value = .ok (e, t)) :
    t.scopes = s.scopes := by
  rcases ensureEigenclass_eq_ok h with ⟨-, rfl⟩ | ⟨_, _, -, -, -, -, rfl⟩
  · rfl
  · rfl

/-- Neither has a method for one object. -/
theorem scopes_defineOnObject {method : Method}
    (h : s.defineOnObject core value name method = .ok t) : t.scopes = s.scopes := by
  cases hmade : s.ensureEigenclass core value with
  | error fault =>
    rw [defineOnObject, hmade] at h
    cases h
  | ok made =>
    obtain ⟨e, u⟩ := made
    rw [defineOnObject, hmade] at h
    cases h
    have hu : u.scopes = s.scopes := scopes_ensureEigenclass hmade
    exact hu

end Store

/-! ### The rule -/

/-- Some scopes, all of them in the store, are spared: they keep the names that they bind, and no
tree is evaluated in one of them. -/
def Discipline.sparing (spared : ScopeRef → Prop) : Discipline where
  Inv s := ∀ scope, spared scope → scope.index < s.scopes.size
  Leads s t := ∀ scope, spared scope → t.boundNames scope = s.boundNames scope
  Fit _ _ := True
  FitMethod _ _ := True
  FitScope _ scope := ¬ spared scope

namespace Discipline

variable {spared : ScopeRef → Prop} {core : Core} {s t : Store}

/-- What leaves all scopes alone spares them. -/
theorem sparing_to (hs : (sparing spared).Inv s) (hscopes : t.scopes = s.scopes) :
    (sparing spared).To s t := by
  constructor
  · intro scope hspared
    rw [hscopes]
    exact hs scope hspared
  · intro scope _
    rw [Store.boundNames, hscopes, Store.boundNames]

theorem sparing_lawful (spared : ScopeRef → Prop) (core : Core) :
    (sparing spared).Lawful core where
  refl := fun _ _ _ => rfl
  trans := fun h h' scope hspared => (h' scope hspared).trans (h scope hspared)
  fit_mono := fun _ h => h
  method_mono := fun _ h => h
  scope_mono := fun _ h => h
  fit_nil := fun _ => trivial
  fit_bool := fun _ _ => trivial
  fit_int := fun _ _ => trivial
  fit_symbol := fun _ _ => trivial
  fit_payload := fun _ => trivial
  fit_function := fun _ => trivial
  fit_core := fun _ _ => trivial
  fit_birth := fun _ _ _ => trivial
  fit_superclass := fun _ _ _ => trivial
  fit_found := fun _ _ _ => trivial
  fit_variable := fun _ _ _ => trivial
  fit_ivar := fun _ _ _ => trivial
  newString := fun _ hs => ⟨sparing_to hs rfl, trivial⟩
  newArray := fun hs _ => ⟨sparing_to hs rfl, trivial⟩
  newException := fun _ hs _ _ => ⟨sparing_to hs rfl, trivial⟩
  newPending := fun hs _ => sparing_to hs rfl
  allocate := fun hs _ hmade => by
    refine ⟨sparing_to hs ?_, trivial⟩
    rcases Store.allocate_eq_ok hmade with ⟨tag, -, heq⟩ | ⟨-, heq⟩
    · cases heq
      rfl
    · cases heq
      rfl
  ensureEigenclass := fun hs _ hmade =>
    ⟨sparing_to hs (Store.scopes_ensureEigenclass hmade), trivial⟩
  makeFunction := fun hs _ hmade => by
    obtain ⟨-, rfl⟩ := Store.makeFunction_eq_ok hmade
    exact ⟨sparing_to hs rfl, trivial⟩
  assign := fun hs hscope _ => by
    constructor
    · intro scope hspared
      rw [Store.assign, Store.setVar, Cells.size_modify]
      exact hs scope hspared
    · intro scope hspared
      apply Store.boundNames_assign
      rintro rfl
      exact hscope hspared
  setIvar := fun hs _ _ => sparing_to hs rfl
  enter := fun {s closure receiver? args} hs _ _ _ => by
    refine ⟨⟨?_, ?_⟩, ?_⟩
    · intro scope hspared
      rw [Store.size_scopes_enter]
      exact Nat.lt_succ_of_lt (hs scope hspared)
    · intro scope hspared
      exact Store.boundNames_enter closure receiver? args (hs scope hspared)
    · -- the scope of the call was not in the store before, so it is not spared
      intro hspared
      rw [Store.enter_fst] at hspared
      exact Nat.lt_irrefl _ (hs _ hspared)

end Discipline

/-! ### Native functions -/

/-- Native functions that bind no names themselves: whichever scopes are spared by the messages that
they send and the calls that they make, they spare. -/
def Host.SparesScopes (host : Host) (core : Core) : Prop :=
  ∀ spared, (Discipline.sparing spared).HostObeys core host

namespace Body

variable {spared : ScopeRef → Prop} {s : Store} (core : Core)
  (hs : (Discipline.sparing spared).Inv s) (receiver : Value) (args : List Value)

include core hs

theorem keeps_append : (Discipline.sparing spared).Keeps s (append receiver args)
    (Discipline.sparing spared).Answer := by
  have hD := Discipline.sparing_lawful spared core
  unfold append
  split
  · refine .bind hD (Q := fun _ _ => True) (.change (Discipline.sparing_to hs rfl) trivial) ?_
    intro t _ hto _
    exact hD.keeps_fit hto.1 trivial
  · exact .get_bind (hD.keeps_fit hs trivial)

theorem keeps_defineMethod : (Discipline.sparing spared).Keeps s (defineMethod receiver args)
    (Discipline.sparing spared).Answer := by
  have hD := Discipline.sparing_lawful spared core
  unfold defineMethod
  split
  · refine .get_bind ?_
    split
    · refine .bind hD (Q := fun _ _ => True) (.change (Discipline.sparing_to hs rfl) trivial) ?_
      intro t _ hto _
      exact hD.keeps_fit hto.1 trivial
    · exact hD.keeps_fit hs trivial
  · exact .get_bind (hD.keeps_fit hs trivial)

theorem keeps_defineOnObject (core? : Option Core) :
    (Discipline.sparing spared).Keeps s (defineOnObject core? receiver args)
      (Discipline.sparing spared).Answer := by
  have hD := Discipline.sparing_lawful spared core
  unfold defineOnObject
  refine .get_bind ?_
  split
  · exact hD.keeps_fit hs trivial
  · next name closure _ =>
    refine .bind hD (.attempt hD hs (Q := fun _ _ => True) ?_ fun _ _ => trivial) ?_
    · intro _ t hmade
      refine ⟨Discipline.sparing_to hs ?_, trivial⟩
      cases core? with
      | none => cases hmade
      | some own =>
        -- what `defineOnObject` answers is passed on with the new store
        simp only at hmade
        cases hdefined : s.defineOnObject own receiver name (.user closure) with
        | error fault =>
          rw [hdefined] at hmade
          cases hmade
        | ok u =>
          rw [hdefined] at hmade
          cases hmade
          exact Store.scopes_defineOnObject hdefined
    · intro t defined hto _
      split
      · exact hD.keeps_fit hto.1 trivial
      · exact hD.keeps_fit hto.1 trivial

theorem keeps_makeSubclass : (Discipline.sparing spared).Keeps s (makeSubclass receiver args)
    (Discipline.sparing spared).Answer := by
  have hD := Discipline.sparing_lawful spared core
  unfold makeSubclass
  refine .get_bind ?_
  split
  · split
    · exact hD.keeps_fit hs trivial
    · refine .bind hD (.attempt hD hs (Q := fun _ _ => True) ?_ fun _ _ => trivial) ?_
      · intro _ t hmade
        obtain ⟨-, -, rfl⟩ := Store.makeClass_eq_ok hmade
        exact ⟨Discipline.sparing_to hs rfl, trivial⟩
      · intro t made hto _
        split
        · exact hD.keeps_fit hto.1 trivial
        · exact hD.keeps_fit hto.1 trivial
  · exact hD.keeps_fit hs trivial

/-- No body binds names itself.  With a context it may have others bind some, which spare what they
should. -/
theorem keeps_run (body : Body) {ctx? : Option NativeContext}
    (hctx : ∀ ctx ∈ ctx?, (Discipline.sparing spared).Context core ctx) :
    (Discipline.sparing spared).Keeps s (body.run ctx? receiver args)
      (Discipline.sparing spared).Answer := by
  have hD := Discipline.sparing_lawful spared core
  have hall (values : List Value) : (Discipline.sparing spared).FitAll s values :=
    fun _ _ => trivial
  cases body with
  | const | nth | recv | count => exact hD.keeps_fit hs trivial
  | args => exact .change (Discipline.sparing_to hs rfl) (.inl trivial)
  | retFirst => exact .change (Discipline.sparing_to hs rfl) (.inl trivial)
  | send name =>
    cases ctx? with
    | none => exact hD.keeps_fit hs trivial
    | some ctx => exact (hctx ctx rfl).send hs trivial (hall args)
  | callFirst =>
    cases ctx? with
    | none => exact hD.keeps_fit hs trivial
    | some ctx =>
      cases args with
      | nil => exact hD.keeps_fit hs trivial
      | cons callee rest => exact (hctx ctx rfl).call hs trivial (hall rest)
  | add => exact .get_bind (hD.keeps_fit hs trivial)
  | push => exact keeps_append core hs receiver args
  | defMethod => exact keeps_defineMethod core hs receiver args
  | defOnObject => exact keeps_defineOnObject core hs receiver args _
  | subclass => exact keeps_makeSubclass core hs receiver args

/-- As a function of no class it has no context in which it could. -/
theorem keeps_runAlone (body : Body) : (Discipline.sparing spared).Keeps s (body.runAlone args)
    (Discipline.sparing spared).Answer := by
  have hctx : ∀ ctx ∈ (none : Option NativeContext),
      (Discipline.sparing spared).Context core ctx := by
    rintro _ ⟨⟩
  unfold runAlone
  split
  · exact keeps_run core hs _ _ _ hctx
  · exact keeps_run core hs _ _ _ hctx
  · exact keeps_run core hs _ _ _ hctx

end Body

/-- The functions of a table of bodies bind no names themselves. -/
theorem Host.ofBodies_sparesScopes (bodies : Array Body) (core : Core) :
    (Host.ofBodies bodies).SparesScopes core := by
  intro spared
  have hD := Discipline.sparing_lawful spared core
  constructor
  · intro ctx s entry name arity receiver args hctx hs _ _ _
    simp only [Host.ofBodies]
    split
    · refine Body.keeps_run core hs receiver args _ ?_
      rintro _ ⟨⟩
      exact hctx
    · exact hD.keeps_fit hs trivial
  · intro s entry name args hs _ _
    simp only [Host.ofBodies]
    split
    · exact Body.keeps_runAlone core hs args _
    · exact hD.keeps_fit hs trivial

/-! ### Bodies and programs -/

/-- **Names do not leak.**  Let the native functions of a host bind no names themselves.  When a
body has run, on whatever receiver and arguments, each scope that was there before binds the names
that it bound before.  When a program has run, so does each such scope but its own. -/
theorem boundNames_evaluator {core : Core} {host : Host} (hhost : host.SparesScopes core) :
    (∀ depth closure receiver? args s answer t,
      evaluator core host depth closure receiver? args s = some (answer, t) →
        ∀ scope : ScopeRef, scope.index < s.scopes.size →
          t.boundNames scope = s.boundNames scope) ∧
    ∀ depth env block s answer t,
      Machine.runProgram core host depth env block s = some (answer, t) →
        ∀ scope : ScopeRef, scope.index < s.scopes.size → scope ≠ env →
          t.boundNames scope = s.boundNames scope := by
  constructor
  · intro depth closure receiver? args s answer t hrun
    -- a body runs in a new scope, so all that are there may be spared
    let spared : ScopeRef → Prop := fun scope => scope.index < s.scopes.size
    have hD := Discipline.sparing_lawful spared core
    have hs : (Discipline.sparing spared).Inv s := fun _ h => h
    have hrunner := hD.evaluator (hhost spared) depth
    obtain ⟨⟨-, hleads⟩, -⟩ :=
      hrunner hs trivial (fun _ _ => trivial) (fun _ _ => trivial) hrun
    exact hleads
  · intro depth env block s answer t hrun
    let spared : ScopeRef → Prop := fun scope => scope.index < s.scopes.size ∧ scope ≠ env
    have hD := Discipline.sparing_lawful spared core
    have hs : (Discipline.sparing spared).Inv s := fun _ h => h.1
    have henv : (Discipline.sparing spared).FitScope s env := fun h => h.2 rfl
    obtain ⟨⟨-, hleads⟩, -⟩ := hD.runProgram (hhost spared) depth hs henv block hrun
    exact fun scope hold hne => hleads scope ⟨hold, hne⟩

/-- A scope that binds a number, an empty scope inside it, and a method of the host on `Object`. -/
def Store.withNestedScope : Store :=
  let apply : Method := .native (.host 0 "apply" .any)
  let outer := ((Store.initial.defineMethod Core.initial.object "apply" apply).newScope none).2
  ((outer.setVar ⟨0⟩ "n" (.int 1)).newScope (some ⟨0⟩)).2

/-- A program that hands a function to the host.  The function rebinds a name of the outer scope and
binds a name of its own. -/
def rebindThroughHost : Block :=
  [.expr (.sendSelf "apply"
    [.fn ["x"] [.expr (.assign (.ident "n") (.ident "x")), .expr (.assign (.ident "y") (.int 3))],
      .int 2])]

/-- The host calls the function, and the outer scope binds no other name than before. -/
theorem boundNames_evaluator_rebindThroughHost :
    (Host.ofBodies #[.callFirst]).SparesScopes Core.initial ∧
      ∃ answer t, Machine.runProgram Core.initial (Host.ofBodies #[.callFirst]) 2 ⟨1⟩
          rebindThroughHost Store.withNestedScope = some (answer, t) ∧
        t.boundNames ⟨0⟩ = ["n"] := by
  have hhost := Host.ofBodies_sparesScopes #[.callFirst] Core.initial
  have hfinishes : (Machine.runProgram Core.initial (Host.ofBodies #[.callFirst]) 2 ⟨1⟩
      rebindThroughHost Store.withNestedScope).isSome = true := by decide +kernel
  have hold : (⟨0⟩ : ScopeRef).index < Store.withNestedScope.scopes.size := by decide +kernel
  have hnames : Store.withNestedScope.boundNames ⟨0⟩ = ["n"] := by decide +kernel
  obtain ⟨⟨answer, t⟩, hrun⟩ := Option.isSome_iff_exists.1 hfinishes
  obtain ⟨-, hprogram⟩ := boundNames_evaluator hhost
  have hkept := hprogram 2 ⟨1⟩ rebindThroughHost Store.withNestedScope answer t hrun ⟨0⟩ hold
    (by decide)
  exact ⟨hhost, answer, t, hrun, hkept.trans hnames⟩

end ObjectModel
