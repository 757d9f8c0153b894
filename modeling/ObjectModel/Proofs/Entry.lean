import ObjectModel.Proofs.Frame
import ObjectModel.Proofs.Transparency
import ObjectModel.Proofs.Visibility

/-!
# Where a body starts

A body is evaluated in a scope that is made for this one run of it.  The parameters are bound there
one after the other and then the receiver, all in the same scope, so of two bindings of one name the
later one counts.  That every parameter has its own argument when the first statement begins is due
to the check that functions are made with: no name occurs twice among the parameters of a function.
Only the receiver wins over a parameter, one that is called `self`.

The scope lies in the one that the function was made in, not in that of the caller.  Every name that
is not bound by the call means what it means where the function was made.

## Main definitions

* `Closure.entries` — what a call binds, in this order.
* `Store.Entered` — a function has been entered in a scope.
* `Discipline.growing` — the rule that stores only grow.

## Main results

* `Store.enter_eq` — to enter a function is to add one scope, with all its bindings.
* `Store.entered_enter` — what names mean in it.
* `Discipline.growing_lawful`, `Frame.During.grows` — stores only grow in the course of a run,
  whatever store it begins in.
* `Store.body_starts_in` — the scope in which the evaluator starts a body.
-/

namespace ObjectModel

variable {s t u : Store} {closure : Closure} {receiver? : Option Value} {args : List Value}
  {scope : ScopeRef} {name : String}

/-! ### Bindings of a call -/

namespace Closure

/-- What a call binds in its scope, in this order: the parameters to the arguments, and then `self`
to the receiver, if there is one. -/
def entries (closure : Closure) (receiver? : Option Value) (args : List Value) :
    List (String × Value) :=
  closure.params.zip args ++ (receiver?.map fun receiver => ("self", receiver)).toList

/-- The receiver comes last, so it counts. -/
theorem get?_entries_receiver (closure : Closure) (receiver : Value) (args : List Value) :
    ((∅ : NameTable Value).insertAll (closure.entries (some receiver) args)).get? "self" =
      some receiver := by
  rw [entries, NameTable.insertAll_append]
  exact NameTable.get?_insert_self _ _ _

/-- What is not `self` is bound as if there were no receiver. -/
theorem get?_entries_of_ne_self (hself : name = "self" → receiver? = none) :
    ((∅ : NameTable Value).insertAll (closure.entries receiver? args)).get? name =
      ((∅ : NameTable Value).insertAll (closure.params.zip args)).get? name := by
  rw [entries, NameTable.insertAll_append]
  refine NameTable.get?_insertAll_of_not_mem _ ?_
  cases receiver? with
  | none => exact List.not_mem_nil
  | some receiver =>
    intro hmem
    cases hself (List.mem_singleton.1 hmem)

/-- Every parameter is bound to its own argument, since no other one has its name. -/
theorem get?_entries_of_param (hnodup : closure.params.Nodup)
    (hcount : closure.arity = args.length) {i : Nat} (hname : closure.params[i]? = some name)
    (hself : name = "self" → receiver? = none) : ∃ arg, args[i]? = some arg ∧
      ((∅ : NameTable Value).insertAll (closure.entries receiver? args)).get? name = some arg := by
  have hi : i < args.length := by
    obtain ⟨hi, -⟩ := List.getElem?_eq_some_iff.1 hname
    exact Nat.lt_of_lt_of_eq hi hcount
  have harg : args[i]? = some args[i] := List.getElem?_eq_getElem hi
  have hnames : (closure.params.zip args).map (·.1) = closure.params :=
    List.map_fst_zip (Nat.le_of_eq hcount)
  have hmem : (name, args[i]) ∈ closure.params.zip args :=
    List.mem_of_getElem? (List.getElem?_zip_eq_some.2 ⟨hname, harg⟩)
  refine ⟨args[i], harg, ?_⟩
  rw [get?_entries_of_ne_self hself]
  exact NameTable.get?_insertAll_of_mem ∅ (by rwa [hnames]) hmem

/-- No other name is bound. -/
theorem get?_entries_of_not_mem (hcount : closure.arity = args.length)
    (hname : name ∉ closure.params) (hself : name = "self" → receiver? = none) :
    ((∅ : NameTable Value).insertAll (closure.entries receiver? args)).get? name = none := by
  have hnames : (closure.params.zip args).map (·.1) = closure.params :=
    List.map_fst_zip (Nat.le_of_eq hcount)
  rw [← hnames] at hname
  rw [get?_entries_of_ne_self hself, NameTable.get?_insertAll_of_not_mem ∅ hname,
    NameTable.get?_empty]

end Closure

namespace Store

/-- Names that are bound in a scope that has just been added could as well be added with it. -/
theorem setVars_of_added (s : Store) (scopes : Cells .scope ScopeCell) (table : NameTable Value)
    (parent? : Option ScopeRef) (bindings : List (String × Value)) :
    ({ s with scopes := scopes.add ⟨table, parent?⟩ } : Store).setVars scopes.next bindings =
      { s with scopes := scopes.add ⟨table.insertAll bindings, parent?⟩ } := by
  induction bindings generalizing table with
  | nil => rfl
  | cons binding bindings ih =>
    have hbound := scopes.modify_add_next ⟨table, parent?⟩ fun cell =>
      { cell with bindings := cell.bindings.insert binding.1 binding.2 }
    have hrest := ih (table.insert binding.1 binding.2)
    rw [← hbound] at hrest
    exact hrest

/-- **To enter a function is to add one scope**, inside the one that the function was made in, and
with what the call binds. -/
theorem enter_eq (s : Store) (closure : Closure) (receiver? : Option Value) (args : List Value) :
    s.enter closure receiver? args =
      (s.scopes.next,
        { s with
          scopes := s.scopes.add
            ⟨(∅ : NameTable Value).insertAll (closure.entries receiver? args),
              some closure.scope⟩ }) := by
  have hparams := setVars_of_added s s.scopes ∅ (some closure.scope) (closure.params.zip args)
  cases receiver? with
  | none =>
    rw [Closure.entries, Option.map_none, Option.toList_none, List.append_nil, ← hparams]
    rfl
  | some receiver =>
    have hself := setVars_of_added s s.scopes
      ((∅ : NameTable Value).insertAll (closure.params.zip args)) (some closure.scope)
      [("self", receiver)]
    rw [← hparams] at hself
    rw [Closure.entries, Option.map_some, Option.toList_some, NameTable.insertAll_append, ← hself]
    rfl

/-! ### Names in the scope of a call -/

/-- A name means what the scope itself binds it to, or else what it means in the scope around. -/
theorem valueOf?_of_parent {parent : ScopeRef} (h : s.parentScope? scope = some parent)
    (older : parent.index < scope.index) (name : String) :
    s.valueOf? scope name = (s.localValue? scope name).or (s.valueOf? parent name) := by
  rw [valueOf?, scopeChain_of_parent h older, List.findSome?_cons]
  cases s.localValue? scope name <;> rfl

/-- What is outward of a scope depends on no younger scope. -/
theorem scopeChain_of_older (h : ∀ other : ScopeRef, other.index ≤ scope.index →
    t.scopes.get? other = s.scopes.get? other) : t.scopeChain scope = s.scopeChain scope := by
  fun_induction scopeChain s scope with
  | case1 scope ih =>
    have hparent : t.parentScope? scope = s.parentScope? scope := by
      rw [parentScope?, Cells.read, h scope (Nat.le_refl _)]
      rfl
    rw [scopeChain, hparent]
    cases hs : s.parentScope? scope with
    | none => rfl
    | some parent =>
      by_cases older : parent.index < scope.index
      · have hrest := ih parent older fun other hle => h other (by omega)
        simp only [older, dite_true, hrest]
      · simp only [older, dite_false]

/-- Neither does what a name means there. -/
theorem valueOf?_of_older (h : ∀ other : ScopeRef, other.index ≤ scope.index →
    t.scopes.get? other = s.scopes.get? other) (name : String) :
    t.valueOf? scope name = s.valueOf? scope name := by
  rw [valueOf?, valueOf?, scopeChain_of_older h]
  refine findSome?_eq_of_agree fun outer houter => ?_
  rw [localValue?, Cells.read, h outer (index_le_of_mem_scopeChain houter)]
  rfl

/-- The function has been entered: `t` is the store `s` with one more scope, in which everything is
bound that the call binds, and nothing else is. -/
structure Entered (s t : Store) (closure : Closure) (receiver? : Option Value)
    (args : List Value) (scope : ScopeRef) : Prop where
  /-- The scope was not there before. -/
  fresh : s.scopes.size ≤ scope.index
  added : scope.index < t.scopes.size
  /-- It lies in the scope that the function was made in, and not in that of the caller. -/
  chain : t.scopeChain scope = scope :: s.scopeChain closure.scope
  /-- The receiver is `self`. -/
  receiver : ∀ receiver ∈ receiver?, t.valueOf? scope "self" = some receiver
  /-- Each parameter has its own argument, unless it is called `self` and there is a receiver. -/
  param : ∀ (i : Nat) (name : String), closure.params[i]? = some name →
    (name = "self" → receiver? = none) →
      ∃ arg, args[i]? = some arg ∧ t.valueOf? scope name = some arg
  /-- Every other name means what it means in the scope that the function was made in. -/
  other : ∀ name, name ∉ closure.params → (name = "self" → receiver? = none) →
    t.valueOf? scope name = t.valueOf? closure.scope name
  /-- No scope that was there before has changed, and no name means anything else from there. -/
  kept : ∀ old : ScopeRef, old.index < s.scopes.size →
    t.scopes.get? old = s.scopes.get? old ∧ ∀ name, t.valueOf? old name = s.valueOf? old name
  /-- Nothing but scopes has changed. -/
  rest : t = { s with scopes := t.scopes }

/-- **What names mean where a body starts.** -/
theorem entered_enter (hnodup : closure.params.Nodup)
    (hclosure : closure.scope.index < s.scopes.size) (hcount : closure.arity = args.length)
    (receiver? : Option Value) :
    s.Entered (s.enter closure receiver? args).2 closure receiver? args
      (s.enter closure receiver? args).1 := by
  rw [enter_eq]
  let table := (∅ : NameTable Value).insertAll (closure.entries receiver? args)
  let t : Store := { s with scopes := s.scopes.add ⟨table, some closure.scope⟩ }
  have hkept (old : ScopeRef) (hold : old.index < s.scopes.size) :
      t.scopes.get? old = s.scopes.get? old := by
    refine s.scopes.get?_add_of_ne _ ?_
    rintro rfl
    exact Nat.lt_irrefl _ hold
  have holder (old : ScopeRef) (hold : old.index < s.scopes.size) :
      ∀ other : ScopeRef, other.index ≤ old.index → t.scopes.get? other = s.scopes.get? other :=
    fun other hle => hkept other (by omega)
  have hread : t.scopes.read s.scopes.next = ⟨table, some closure.scope⟩ :=
    s.scopes.read_add_next _
  have hparent : t.parentScope? s.scopes.next = some closure.scope :=
    congrArg ScopeCell.parent? hread
  have hlocal (name : String) : t.localValue? s.scopes.next name = table.get? name :=
    congrArg (fun cell : ScopeCell => cell.bindings.get? name) hread
  have hvalue (name : String) :
      t.valueOf? s.scopes.next name = (table.get? name).or (t.valueOf? closure.scope name) := by
    rw [valueOf?_of_parent hparent hclosure, hlocal]
  refine ⟨Nat.le_refl _, s.scopes.next_lt_size_add _, ?_, ?_, ?_, ?_, ?_, rfl⟩
  · rw [scopeChain_of_parent hparent hclosure, scopeChain_of_older (holder _ hclosure)]
  · rintro receiver ⟨⟩
    rw [hvalue, closure.get?_entries_receiver receiver args, Option.some_or]
  · intro i name hname hself
    obtain ⟨arg, harg, hbound⟩ := Closure.get?_entries_of_param hnodup hcount hname hself
    exact ⟨arg, harg, by rw [hvalue, hbound, Option.some_or]⟩
  · intro name hname hself
    rw [hvalue, Closure.get?_entries_of_not_mem hcount hname hself, Option.none_or]
  · exact fun old hold => ⟨hkept old hold, valueOf?_of_older (holder old hold)⟩

/-- To enter a function goes up in the order of stores. -/
theorem grows_enter (s : Store) (closure : Closure) (receiver? : Option Value)
    (args : List Value) : s.Grows (s.enter closure receiver? args).2 := by
  rw [enter_eq]
  exact { Grows.refl s with scopes := .add ScopeCell.Grows.refl _ _ }

end Store

/-! ### Runs go up in the order of stores -/

/-- The rule that stores only grow. -/
def Discipline.growing : Discipline where
  Inv _ := True
  Leads := Store.Grows
  Fit _ _ := True
  FitMethod _ _ := True
  FitScope _ _ := True

/-- Every operation keeps to it, in whatever store. -/
theorem Discipline.growing_lawful (core : Core) : growing.Lawful core where
  refl := Store.Grows.refl
  trans := Store.Grows.trans
  fit_mono := fun _ _ => trivial
  method_mono := fun _ _ => trivial
  scope_mono := fun _ _ => trivial
  fit_nil := fun _ => trivial
  fit_bool := fun _ _ => trivial
  fit_int := fun _ _ => trivial
  fit_symbol := fun _ _ => trivial
  fit_payload := fun _ => trivial
  fit_function := fun _ => trivial
  fit_core := fun _ _ => trivial
  fit_birth := fun _ _ _ => trivial
  fit_superclass := fun _ _ _ => trivial
  fit_found := fun _ _ _ => trivial
  fit_variable := fun _ _ _ => trivial
  fit_ivar := fun _ _ _ => trivial
  newString := fun {s} text _ => ⟨⟨trivial, s.grows_newString text⟩, trivial⟩
  newArray := fun {s elements} _ _ => ⟨⟨trivial, s.grows_newArray elements⟩, trivial⟩
  newException := fun {s c} message _ _ _ =>
    ⟨⟨trivial, s.grows_newException c message⟩, trivial⟩
  newPending := fun {s value} _ _ => ⟨trivial, s.grows_newPending value⟩
  allocate := fun {s _ c _} _ _ hmade => by
    rcases Store.allocate_eq_ok hmade with ⟨tag, -, heq⟩ | ⟨-, heq⟩
    · cases heq
      exact ⟨⟨trivial, s.grows_newObject c tag⟩, trivial⟩
    · cases heq
      exact ⟨⟨trivial, s.grows_newException c _⟩, trivial⟩
  ensureEigenclass := fun {s _ _ _} _ _ hmade => by
    rcases Store.ensureEigenclass_eq_ok hmade with
      ⟨-, rfl⟩ | ⟨carrier, birth, -, hcarried, -, rfl, rfl⟩
    · exact ⟨⟨trivial, .refl _⟩, trivial⟩
    · exact ⟨⟨trivial, (s.grows_addClass _).trans (Store.grows_attach _ hcarried)⟩, trivial⟩
  makeFunction := fun {s _ params body scope _} _ _ hmade => by
    obtain ⟨-, rfl⟩ := Store.makeFunction_eq_ok hmade
    exact ⟨⟨trivial, s.grows_newClosure params body scope⟩, trivial⟩
  assign := fun {s scope name value} _ _ _ =>
    ⟨trivial, s.grows_setVar (s.assignee scope name) name value⟩
  setIvar := fun {s ref name value} _ _ _ => ⟨trivial, s.grows_setIvar ref name value⟩
  enter := fun {s closure receiver? args} _ _ _ _ =>
    ⟨⟨trivial, s.grows_enter closure receiver? args⟩, trivial⟩

variable {core : Core} {host : Host} {f g : Frame}

/-- Every frame begins by this rule. -/
theorem Frame.admitted_growing (f : Frame) : f.Admitted .growing := by
  obtain ⟨task, calls, natives, store⟩ := f
  refine ⟨trivial, ?_⟩
  cases task with
  | expr | exprs | stmt => trivial
  | stmts => exact ⟨trivial, trivial⟩
  | send | call => exact ⟨trivial, fun _ _ => trivial⟩
  | body => exact ⟨trivial, fun _ _ => trivial, fun _ _ => trivial⟩

/-- Whatever is started in the course of a run, it begins in a later store. -/
theorem Frame.During.grows (hhost : Discipline.growing.HostObeys core host)
    (h : During core host f g) : f.store.Grows g.store :=
  (h.leadsTo (Discipline.growing_lawful core) hhost f.admitted_growing).1

/-! ### Bodies -/

/-- The parameters of a function are pairwise distinct. -/
theorem Store.params_nodup_of_makeFunction {params : List String} {body : Block}
    {env : ScopeRef} (h : s.makeFunction params body env = .ok (closure, t)) :
    closure.params.Nodup := by
  obtain ⟨rfl, -⟩ := makeFunction_eq_ok h
  exact (makeFunction_eq_ok_iff.1 h).1

/-- **The scope a body starts in.**  Let a function have been made over a scope that is still in the
store, and let it be run on as many arguments as it has parameters, with a receiver or without.  The
evaluator enters it in a scope of its own and evaluates the statements of the body there, with
nothing done in between.  This scope is not that of any function that is entered later, so neither
that of a run that is started while this one is active. -/
theorem Store.body_starts_in {s₀ s₁ : Store} {params : List String} {body : Block}
    {env : ScopeRef} (hmade : s₀.makeFunction params body env = .ok (closure, s₁))
    (hclosure : closure.scope.index < s.scopes.size) (hcount : closure.arity = args.length)
    (receiver? : Option Value) :
    ∃ scope t, s.Entered t closure receiver? args scope ∧
      (∀ core host depth, evaluator core host (depth + 1) closure receiver? args s =
        (do
          let outcome ← (Block.eval ((Machine.evaluating core host depth).context (depth + 1))
            scope closure.body).run
          modifyGet fun s => s.outcomeValue outcome : Action Value) t) ∧
      (∀ u, t.Grows u → ∀ inner receiver? args, (u.enter inner receiver? args).1 ≠ scope) ∧
      ∀ core host, Discipline.growing.HostObeys core host → ∀ depth g,
        Frame.During core host ⟨.stmts scope .nil closure.body, depth, depth + 1, t⟩ g →
          ∀ inner receiver? args, g.task = .body inner receiver? args →
            (g.store.enter inner receiver? args).1 ≠ scope := by
  have hentered := entered_enter (params_nodup_of_makeFunction hmade) hclosure hcount receiver?
  have hlater (u : Store) (hu : (s.enter closure receiver? args).2.Grows u) (inner : Closure)
      (receiver'? : Option Value) (args' : List Value) :
      (u.enter inner receiver'? args').1 ≠ (s.enter closure receiver? args).1 := by
    intro heq
    have hsize := Nat.lt_of_lt_of_le hentered.added hu.scopes.size_le
    rw [← heq, enter_eq] at hsize
    exact Nat.lt_irrefl _ hsize
  refine ⟨_, _, hentered, fun core host depth => ?_, hlater, ?_⟩
  · exact evaluator_succ core host depth closure receiver? args s
  · intro core host hhost depth g hduring inner receiver'? args' _
    exact hlater _ (hduring.grows hhost) inner receiver'? args'

/-- A caller with a local of its own, inside a scope that binds a number. -/
def Store.withCaller : Store := withInnerScope.setVar ⟨1⟩ "m" (.int 2)

theorem Host.growing_returning (core : Core) : Discipline.growing.HostObeys core returning where
  method := fun _ hs _ _ _ => (Discipline.growing_lawful core).keeps_fit hs trivial
  builtin := fun hs _ _ => (Discipline.growing_lawful core).keeps_fit hs trivial

/-- A function of the outer scope with a parameter `self` is run on a receiver: the receiver counts,
the number of the outer scope can be seen, and the local of the caller cannot. -/
theorem body_starts_in_withCaller :
    Store.withCaller.makeFunction ["a", "self"] [] ⟨0⟩ =
        .ok (Store.withCaller.newClosure ["a", "self"] [] ⟨0⟩) ∧
      (Store.withCaller.valueOf? ⟨1⟩ "m" = some (.int 2)) ∧
      ∃ scope t, t.valueOf? scope "a" = some (.int 3) ∧
        t.valueOf? scope "self" = some (.int 7) ∧ t.valueOf? scope "n" = some (.int 1) ∧
        t.valueOf? scope "m" = none ∧
        ∀ depth g,
          Frame.During Core.initial .returning ⟨.stmts scope .nil [], depth, depth + 1, t⟩ g →
            ∀ inner receiver? args, g.task = .body inner receiver? args →
              (g.store.enter inner receiver? args).1 ≠ scope := by
  let closure : Closure := (Store.withCaller.newClosure ["a", "self"] [] ⟨0⟩).1
  have hmade : Store.withCaller.makeFunction ["a", "self"] [] ⟨0⟩ =
      .ok (Store.withCaller.newClosure ["a", "self"] [] ⟨0⟩) := rfl
  have hlocal : Store.withCaller.valueOf? ⟨1⟩ "m" = some (.int 2) := by decide +kernel
  have houter : Store.withCaller.valueOf? ⟨0⟩ "n" = some (.int 1) := by decide +kernel
  have hhidden : Store.withCaller.valueOf? ⟨0⟩ "m" = none := by decide +kernel
  have hclosure : closure.scope.index < Store.withCaller.scopes.size := by decide +kernel
  have hcount : closure.arity = [Value.int 3, .int 4].length := rfl
  obtain ⟨scope, t, hentered, -, -, hrun⟩ :=
    Store.body_starts_in hmade hclosure hcount (some (.int 7))
  obtain ⟨arg, harg, ha⟩ := hentered.param 0 "a" rfl nofun
  cases harg
  have hother (name : String) (hname : name ∉ ["a", "self"]) (hself : name ≠ "self") :
      t.valueOf? scope name = Store.withCaller.valueOf? ⟨0⟩ name := by
    rw [hentered.other name hname fun h => absurd h hself]
    exact (hentered.kept ⟨0⟩ hclosure).2 name
  refine ⟨hmade, hlocal, scope, t, ha, hentered.receiver _ rfl, ?_, ?_, ?_⟩
  · rw [hother "n" (by decide) (by decide), houter]
  · rw [hother "m" (by decide) (by decide), hhidden]
  · exact hrun Core.initial .returning (Host.growing_returning Core.initial)

end ObjectModel
