import Mathlib.Logic.Relation
import ObjectModel.Proofs.Evaluation

/-!
# The parts of a run

A run of a program evaluates expressions and statements, sends messages, calls functions and runs
bodies, each as a part of another.  A frame is such a part together with the store in which it
begins and with the depths that are left to it.  `Frame.parts` lists the frames that a frame starts
itself, in the order in which it starts them; it follows the evaluator clause by clause and takes
each later store from what the evaluator answers.  What a native function of the host does is left
to the host.

## Main definitions

* `Task`, `Frame` — something to do, and where it begins.
* `Frame.parts` — what a frame starts.
* `Frame.Finishes` — a frame has an answer.
* `Frame.During` — a frame is started in the course of another.
* `Frame.Admitted`, `Frame.LeadsTo` — a frame begins by the rules of a discipline, and after another.

## Main results

* `Frame.finishes_of_mem_parts` — a frame that finishes starts only frames that finish.
* `Frame.leadsTo_of_mem_parts` — a frame that begins by the rules of a discipline starts only
  frames that do.
* `Frame.During.finishes`, `Frame.During.leadsTo` — so it is in the whole course of a run.
-/

namespace ObjectModel

/-- Something that a run has to do. -/
inductive Task where
  | expr (scope : ScopeRef) (e : Expr)
  /-- Arguments, from left to right. -/
  | exprs (scope : ScopeRef) (es : List Expr)
  | stmt (scope : ScopeRef) (statement : Stmt)
  /-- The rest of a block, after a statement with the value `last`. -/
  | stmts (scope : ScopeRef) (last : Value) (statements : List Stmt)
  | send (receiver : Value) (name : String) (args : List Value)
  | call (callee : Value) (args : List Value)
  /-- The body of a function, on a receiver if it is run as a method. -/
  | body (closure : Closure) (receiver? : Option Value) (args : List Value)

/-- A part of a run: what is done, how deep bodies and natives may nest in it, and the store in
which it begins. -/
structure Frame where
  task : Task
  calls : Nat
  natives : Nat
  store : Store

/-! ### One after the other -/

section

variable {α β : Type} {s t : Store}

/-- What comes after an action begins with its answer, where it has one. -/
theorem Action.bind_eq {action : Action α} {next : α → Action β} {x : α}
    (h : action s = some (x, t)) : (action >>= next) s = next x t := by
  change (action s).bind _ = _
  rw [h, Option.bind_some]

/-- What comes after an evaluation begins with its value. -/
theorem Eval.bind_eq_of_ok {evaluation : Eval α} {next : α → Eval β} {x : α}
    (h : evaluation s = some (.ok x, t)) : (evaluation >>= next) s = next x t :=
  Action.bind_eq h

/-- Nothing comes after an early end. -/
theorem Eval.bind_eq_of_error {evaluation : Eval α} {next : α → Eval β} {abrupt : Abrupt}
    (h : evaluation s = some (.error abrupt, t)) :
    (evaluation >>= next) s = some (.error abrupt, t) :=
  Action.bind_eq h

end

/-! ### What instances and bodies go on with -/

section

variable {ctx : NativeContext} {args : List Value} {s t : Store}

/-- An instance that is no exception is sent `initialize` when it has been allocated. -/
theorem Kernel.instantiate_of_allocate {c : ClassRef} {made : Value}
    (hlayout : ¬ (s.classes.read c).layout? = some .exception)
    (hmade : s.allocate c = .ok (made, t)) :
    Kernel.instantiate ctx (.cls c) args s =
      (do
        let initialized ← ctx.send made "initialize" args
        return if initialized.isFault then initialized else made : Action Value) t := by
  have hallocate : Action.attempt (fun s => s.allocate c) s = some (.ok made, t) := by
    rw [Action.attempt, hmade]
  simp only [Kernel.instantiate]
  rw [Action.get_bind, if_neg hlayout, Action.bind_eq hallocate]

/-- A body evaluates its statements in a scope of its own. -/
theorem evaluator_succ (core : Core) (host : Host) (calls : Nat) (closure : Closure)
    (receiver? : Option Value) (args : List Value) (s : Store) :
    evaluator core host (calls + 1) closure receiver? args s =
      (do
        let outcome ← (Block.eval ((Machine.evaluating core host calls).context (calls + 1))
          (s.enter closure receiver? args).1 closure.body).run
        modifyGet fun s => s.outcomeValue outcome : Action Value)
          (s.enter closure receiver? args).2 := rfl

end

namespace Frame

variable {core : Core} {host : Host} {f g : Frame}

/-! ### What a frame starts -/

/-- What evaluation is given in a frame. -/
def context (core : Core) (host : Host) (f : Frame) : NativeContext :=
  (Machine.evaluating core host f.calls).context f.natives

theorem context_core (core : Core) (host : Host) (f : Frame) :
    (f.context core host).core = core := by
  rw [context]
  cases f.natives <;> rfl

/-- Something else that is done at the same depth. -/
def next (f : Frame) (task : Task) (store : Store) : Frame := { f with task, store }

/-- What is started after an evaluation: nothing if it ends early. -/
def after {α : Type} (result : Option (Except Abrupt α × Store))
    (start : α → Store → List Frame) : List Frame :=
  match result with
  | some (.ok x, t) => start x t
  | _ => []

/-- A receiver or a callee, then the arguments, and then the message or the call. -/
def operandParts (core : Core) (host : Host) (f : Frame) (scope : ScopeRef) (operand : Expr)
    (args : List Expr) (task : Value → List Value → Task) : List Frame :=
  f.next (.expr scope operand) f.store ::
    after (Expr.eval (f.context core host) scope operand f.store) fun value t =>
      f.next (.exprs scope args) t ::
        after (Expr.evalAll (f.context core host) scope args t) fun values u =>
          [f.next (task value values) u]

/-- What an expression starts. -/
def exprParts (core : Core) (host : Host) (f : Frame) (scope : ScopeRef) : Expr → List Frame
  | .ident name =>
    match f.store.valueOf? scope name, core.find? name with
    | none, none => [f.next (.send (f.store.selfValue scope) name []) f.store]
    | _, _ => []
  | .assign _ value => [f.next (.expr scope value) f.store]
  | .send receiver name args =>
    f.operandParts core host scope receiver args fun value values => .send value name values
  | .sendSelf name args =>
    f.next (.exprs scope args) f.store ::
      after (Expr.evalAll (f.context core host) scope args f.store) fun xs t =>
        [f.next (.send (f.store.selfValue scope) name xs) t]
  | .call callee args => f.operandParts core host scope callee args .call
  | .int _ | .str _ | .sym _ | .bool _ | .nil | .self | .ivar _ | .fn _ _ => []

/-- What a method starts.  A user-defined method runs its body, and `new` sends `initialize` to an
instance that is no exception; every other kernel method answers at once. -/
def methodParts (f : Frame) (natives : Nat) (receiver : Value) (method : Method)
    (args : List Value) : List Frame :=
  match method with
  | .user closure =>
    if closure.arity = args.length then
      [f.next (.body closure (some receiver) args) f.store]
    else []
  | .native (.kernel _ .new) =>
    match receiver with
    | .cls c =>
      if (f.store.classes.read c).layout? = some .exception then []
      else
        match f.store.allocate c with
        | .ok (made, t) => [⟨.send made "initialize" args, f.calls, natives, t⟩]
        | .error _ => []
    | _ => []
  | .native _ => []

/-- What a message starts. -/
def sendParts (core : Core) (f : Frame) (receiver : Value) (name : String) (args : List Value) :
    List Frame :=
  match f.natives with
  | 0 => []
  | natives + 1 =>
    match receiver.payload with
    | .fault _ => []
    | receiver =>
      match f.store.methodFor core receiver name with
      | .ok found => f.methodParts natives receiver found.method args
      | .error _ => []

/-- What a direct call starts. -/
def callParts (f : Frame) (callee : Value) (args : List Value) : List Frame :=
  match f.natives with
  | 0 => []
  | _ + 1 =>
    match callee.payload with
    | .function closure =>
      if closure.arity = args.length then [f.next (.body closure none args) f.store] else []
    | _ => []

/-- What a body starts: its statements, in a scope of their own. -/
def bodyParts (f : Frame) (closure : Closure) (receiver? : Option Value) (args : List Value) :
    List Frame :=
  match f.calls with
  | 0 => []
  | calls + 1 =>
    let (scope, t) := f.store.enter closure receiver? args
    [⟨.stmts scope .nil closure.body, calls, calls + 1, t⟩]

/-- The frames that a frame starts, in their order. -/
def parts (core : Core) (host : Host) (f : Frame) : List Frame :=
  match f.task with
  | .expr scope e => f.exprParts core host scope e
  | .exprs _ [] => []
  | .exprs scope (e :: es) =>
    f.next (.expr scope e) f.store ::
      after (Expr.eval (f.context core host) scope e f.store) fun _ t =>
        [f.next (.exprs scope es) t]
  | .stmt scope (.expr e) | .stmt scope (.ret e) => [f.next (.expr scope e) f.store]
  | .stmt _ .retNil => []
  | .stmts _ _ [] => []
  | .stmts scope _ (statement :: statements) =>
    f.next (.stmt scope statement) f.store ::
      after (Stmt.eval (f.context core host) scope statement f.store) fun value t =>
        [f.next (.stmts scope value statements) t]
  | .send receiver name args => f.sendParts core receiver name args
  | .call callee args => f.callParts callee args
  | .body closure receiver? args => f.bodyParts closure receiver? args

/-- A frame is started in the course of another: by it, or by what it starts, and so on. -/
def During (core : Core) (host : Host) : Frame → Frame → Prop :=
  Relation.ReflTransGen fun f g => g ∈ f.parts core host

/-- The frame of a whole program. -/
def program (depth : Nat) (scope : ScopeRef) (block : Block) (store : Store) : Frame :=
  ⟨.stmts scope .nil block, depth, depth, store⟩

theorem mem_after {α : Type} {result : Option (Except Abrupt α × Store)}
    {start : α → Store → List Frame} :
    g ∈ after result start ↔ ∃ x t, result = some (.ok x, t) ∧ g ∈ start x t := by
  match result with
  | none => simp [after]
  | some (.ok x, t) =>
    constructor
    · exact fun hg => ⟨x, t, rfl, hg⟩
    · rintro ⟨_, _, ⟨⟩, hg⟩
      exact hg
  | some (.error abrupt, t) => simp [after]

/-! ### Frames that finish -/

/-- A frame has an answer: its calls do not nest too deep. -/
def Finishes (core : Core) (host : Host) (f : Frame) : Prop :=
  match f.task with
  | .expr scope e => (Expr.eval (f.context core host) scope e f.store).isSome
  | .exprs scope es => (Expr.evalAll (f.context core host) scope es f.store).isSome
  | .stmt scope statement => (Stmt.eval (f.context core host) scope statement f.store).isSome
  | .stmts scope last statements =>
    (Stmt.evalAll (f.context core host) scope last statements f.store).isSome
  | .send receiver name args => ((f.context core host).send receiver name args f.store).isSome
  | .call callee args => ((f.context core host).call callee args f.store).isSome
  | .body closure receiver? args =>
    (evaluator core host f.calls closure receiver? args f.store).isSome

section

variable {α β : Type} {s t : Store}

/-- If two actions one after the other have an answer, the first has. -/
theorem isSome_of_bind {action : Action α} {next : α → Action β}
    (h : ((action >>= next) s).isSome) : (action s).isSome := by
  obtain ⟨y, hy⟩ := Option.isSome_iff_exists.1 h
  obtain ⟨x, hx, -⟩ := Option.bind_eq_some_iff.1 hy
  rw [hx]
  rfl

/-- The same for evaluations, of which the second begins only if the first has a value. -/
theorem isSome_of_evalBind {evaluation : Eval α} {next : α → Eval β}
    (h : ((evaluation >>= next) s).isSome) : (evaluation s).isSome :=
  isSome_of_bind h

theorem isSome_rest_of_evalBind {evaluation : Eval α} {next : α → Eval β} {x : α}
    (h : ((evaluation >>= next) s).isSome) (hx : evaluation s = some (.ok x, t)) :
    (next x t).isSome := by
  rwa [Eval.bind_eq_of_ok hx] at h

theorem isSome_of_lift {action : Action α} (h : ((monadLift action : Eval α) s).isSome) :
    (action s).isSome := by
  change ((action >>= fun x => pure (Except.ok x)) s).isSome at h
  exact isSome_of_bind h

end

theorem finishes_of_mem_operandParts {scope : ScopeRef} {operand : Expr} {args : List Expr}
    {task : Value → List Value → Task} {act : Value → List Value → Action Value}
    (htask : ∀ {value values t}, (act value values t).isSome →
      (f.next (task value values) t).Finishes core host)
    (hf : ((do
      let value ← Expr.eval (f.context core host) scope operand
      let values ← Expr.evalAll (f.context core host) scope args
      Eval.settle (← act value values) : Eval Value) f.store).isSome)
    (hg : g ∈ f.operandParts core host scope operand args task) : g.Finishes core host := by
  rcases List.mem_cons.1 hg with rfl | hg
  · exact isSome_of_evalBind hf
  obtain ⟨value, t, hvalue, hg⟩ := mem_after.1 hg
  have hrest := isSome_rest_of_evalBind hf hvalue
  rcases List.mem_cons.1 hg with rfl | hg
  · exact isSome_of_evalBind hrest
  obtain ⟨values, u, hvalues, hg⟩ := mem_after.1 hg
  have hlast := isSome_rest_of_evalBind hrest hvalues
  cases List.mem_singleton.1 hg
  exact htask (isSome_of_lift (isSome_of_evalBind hlast))

theorem finishes_of_mem_exprParts {scope : ScopeRef} {e : Expr}
    (hf : (Expr.eval (f.context core host) scope e f.store).isSome)
    (hg : g ∈ f.exprParts core host scope e) : g.Finishes core host := by
  cases e with
  | ident name =>
    have hident : (evalIdent (f.context core host) scope name f.store).isSome :=
      isSome_of_lift (isSome_of_evalBind hf)
    rw [exprParts] at hg
    split at hg
    · next hvalue hcore =>
      cases List.mem_singleton.1 hg
      unfold evalIdent at hident
      rw [Action.get_bind] at hident
      simp only [hvalue, context_core, hcore] at hident
      exact hident
    · cases hg
  | assign target value =>
    cases List.mem_singleton.1 hg
    exact isSome_of_evalBind hf
  | send receiver name args => exact finishes_of_mem_operandParts id hf hg
  | sendSelf name args =>
    have hargs := isSome_rest_of_evalBind (x := f.store) (t := f.store) hf rfl
    rcases List.mem_cons.1 hg with rfl | hg
    · exact isSome_of_evalBind hargs
    obtain ⟨xs, t, hxs, hg⟩ := mem_after.1 hg
    have hlast := isSome_rest_of_evalBind hargs hxs
    cases List.mem_singleton.1 hg
    exact isSome_of_lift (isSome_of_evalBind hlast)
  | call callee args => exact finishes_of_mem_operandParts id hf hg
  | _ => cases hg

theorem finishes_of_mem_methodParts {natives : Nat} {receiver : Value} {name : String}
    {method : Method} {args : List Value}
    (hf : ((Machine.evaluating core host f.calls).perform
      ((Machine.evaluating core host f.calls).context natives) receiver name method args
        f.store).isSome)
    (hg : g ∈ f.methodParts natives receiver method args) : g.Finishes core host := by
  unfold methodParts at hg
  split at hg
  · split at hg
    · next hcount =>
      rw [Machine.perform_user hcount] at hf
      cases List.mem_singleton.1 hg
      exact isSome_of_bind hf
    · cases hg
  · split at hg
    · next c =>
      split at hg
      · cases hg
      · next hlayout =>
        split at hg
        · next made t hmade =>
          -- `new` waits for `initialize`
          change (Kernel.instantiate _ (.cls c) args f.store).isSome at hf
          rw [Kernel.instantiate_of_allocate hlayout hmade] at hf
          cases List.mem_singleton.1 hg
          exact isSome_of_bind hf
        · cases hg
    · cases hg
  · cases hg

theorem finishes_of_mem_sendParts {receiver : Value} {name : String} {args : List Value}
    (hf : ((f.context core host).send receiver name args f.store).isSome)
    (hg : g ∈ f.sendParts core receiver name args) : g.Finishes core host := by
  rw [context] at hf
  unfold sendParts at hg
  split at hg
  · cases hg
  · next natives hnatives =>
    rw [hnatives] at hf
    change ((Machine.evaluating core host f.calls).send
      ((Machine.evaluating core host f.calls).context natives) receiver name args f.store).isSome
        at hf
    split at hg
    · cases hg
    · next hreceiver =>
      split at hg
      · next found hfound =>
        rw [Machine.send_of_found hreceiver hfound] at hf
        exact finishes_of_mem_methodParts hf hg
      · cases hg

theorem finishes_of_mem_callParts {callee : Value} {args : List Value}
    (hf : ((f.context core host).call callee args f.store).isSome)
    (hg : g ∈ f.callParts callee args) : g.Finishes core host := by
  rw [context] at hf
  unfold callParts at hg
  split at hg
  · cases hg
  · next natives hnatives =>
    rw [hnatives] at hf
    change ((Machine.evaluating core host f.calls).call callee args f.store).isSome at hf
    split at hg
    · next closure hclosure =>
      split at hg
      · next hcount =>
        rw [Machine.call_function hclosure hcount] at hf
        cases List.mem_singleton.1 hg
        exact isSome_of_bind hf
      · cases hg
    · cases hg

theorem finishes_of_mem_bodyParts {closure : Closure} {receiver? : Option Value}
    {args : List Value} (hf : (evaluator core host f.calls closure receiver? args f.store).isSome)
    (hg : g ∈ f.bodyParts closure receiver? args) : g.Finishes core host := by
  unfold bodyParts at hg
  split at hg
  · cases hg
  · next calls hcalls =>
    rw [hcalls, evaluator_succ] at hf
    cases List.mem_singleton.1 hg
    exact isSome_of_bind hf

/-- **A frame that finishes starts only frames that finish.** -/
theorem finishes_of_mem_parts (hf : f.Finishes core host) (hg : g ∈ f.parts core host) :
    g.Finishes core host := by
  obtain ⟨task, calls, natives, store⟩ := f
  cases task with
  | expr scope e => exact finishes_of_mem_exprParts hf hg
  | exprs scope es =>
    cases es with
    | nil => cases hg
    | cons e es =>
      rcases List.mem_cons.1 hg with rfl | hg
      · exact isSome_of_evalBind hf
      obtain ⟨x, t, hx, hg⟩ := mem_after.1 hg
      have hrest := isSome_rest_of_evalBind hf hx
      cases List.mem_singleton.1 hg
      exact isSome_of_evalBind hrest
  | stmt scope statement =>
    cases statement with
    | expr e =>
      cases List.mem_singleton.1 hg
      exact hf
    | ret e =>
      cases List.mem_singleton.1 hg
      exact isSome_of_evalBind hf
    | retNil => cases hg
  | stmts scope last statements =>
    cases statements with
    | nil => cases hg
    | cons statement statements =>
      rcases List.mem_cons.1 hg with rfl | hg
      · exact isSome_of_evalBind hf
      obtain ⟨value, t, hvalue, hg⟩ := mem_after.1 hg
      have hrest := isSome_rest_of_evalBind hf hvalue
      cases List.mem_singleton.1 hg
      exact hrest
  | send receiver name args => exact finishes_of_mem_sendParts hf hg
  | call callee args => exact finishes_of_mem_callParts hf hg
  | body closure receiver? args => exact finishes_of_mem_bodyParts hf hg

/-- So it is in the whole course of a run. -/
theorem During.finishes (h : During core host f g) (hf : f.Finishes core host) :
    g.Finishes core host := by
  induction h with
  | refl => exact hf
  | tail _ hstart ih => exact finishes_of_mem_parts ih hstart

/-! ### Frames by the rules -/

/-- A frame begins by the rules of a discipline, in a store and with values that they admit. -/
def Admitted (D : Discipline) (f : Frame) : Prop :=
  D.Inv f.store ∧
    match f.task with
    | .expr scope _ | .exprs scope _ | .stmt scope _ => D.FitScope f.store scope
    | .stmts scope last _ => D.FitScope f.store scope ∧ D.Fit f.store last
    | .send value _ args | .call value args => D.Fit f.store value ∧ D.FitAll f.store args
    | .body closure receiver? args =>
      D.FitMethod f.store (.user closure) ∧ (∀ receiver ∈ receiver?, D.Fit f.store receiver) ∧
        D.FitAll f.store args

/-- One frame leads to another by the rules: the other begins by them, and in a store that the one
in which the first begins may have become. -/
def LeadsTo (D : Discipline) (f g : Frame) : Prop := D.Leads f.store g.store ∧ g.Admitted D

section

variable {D : Discipline} (hD : D.Lawful core) (hhost : D.HostObeys core host)

include hD hhost in
theorem lawful_context (f : Frame) : D.Context core (f.context core host) :=
  Discipline.Lawful.context (m := Machine.evaluating core host f.calls) hD hhost
    (hD.evaluator hhost f.calls) f.natives

include hD hhost in
theorem leadsTo_of_mem_operandParts {scope : ScopeRef} {operand : Expr} {args : List Expr}
    {task : Value → List Value → Task} (hs : D.Inv f.store) (hscope : D.FitScope f.store scope)
    (htask : ∀ {t value values}, D.Inv t → D.Fit t value → D.FitAll t values →
      (f.next (task value values) t).Admitted D)
    (hg : g ∈ f.operandParts core host scope operand args task) : f.LeadsTo D g := by
  have hctx := lawful_context hD hhost f
  rcases List.mem_cons.1 hg with rfl | hg
  · exact ⟨hD.refl _, hs, hscope⟩
  obtain ⟨value, t, hvalue, hg⟩ := mem_after.1 hg
  obtain ⟨hto, hfit⟩ := hD.expr hctx hs hscope operand hvalue
  have hscope' := hD.scope_mono hto.2 hscope
  rcases List.mem_cons.1 hg with rfl | hg
  · exact ⟨hto.2, hto.1, hscope'⟩
  obtain ⟨values, u, hvalues, hg⟩ := mem_after.1 hg
  obtain ⟨hto', hfits⟩ := hD.exprs hctx hto.1 hscope' args hvalues
  cases List.mem_singleton.1 hg
  exact ⟨hD.trans hto.2 hto'.2, htask hto'.1 (hD.fit_mono hto'.2 hfit) hfits⟩

include hD hhost in
theorem leadsTo_of_mem_exprParts {scope : ScopeRef} {e : Expr} (hs : D.Inv f.store)
    (hscope : D.FitScope f.store scope) (hg : g ∈ f.exprParts core host scope e) :
    f.LeadsTo D g := by
  have hctx := lawful_context hD hhost f
  have hself := hD.fit_selfValue hs hscope
  cases e with
  | ident name =>
    rw [exprParts] at hg
    split at hg
    · cases List.mem_singleton.1 hg
      refine ⟨hD.refl _, hs, hself, ?_⟩
      rintro _ ⟨⟩
    · cases hg
  | assign target value =>
    cases List.mem_singleton.1 hg
    exact ⟨hD.refl _, hs, hscope⟩
  | send receiver name args =>
    refine leadsTo_of_mem_operandParts hD hhost hs hscope ?_ hg
    intro t value values ht hvalue hvalues
    exact ⟨ht, hvalue, hvalues⟩
  | sendSelf name args =>
    rcases List.mem_cons.1 hg with rfl | hg
    · exact ⟨hD.refl _, hs, hscope⟩
    obtain ⟨xs, t, hxs, hg⟩ := mem_after.1 hg
    obtain ⟨hto, hfits⟩ := hD.exprs hctx hs hscope args hxs
    cases List.mem_singleton.1 hg
    exact ⟨hto.2, hto.1, hD.fit_mono hto.2 hself, hfits⟩
  | call callee args =>
    refine leadsTo_of_mem_operandParts hD hhost hs hscope ?_ hg
    intro t value values ht hvalue hvalues
    exact ⟨ht, hvalue, hvalues⟩
  | _ => cases hg

include hD in
theorem leadsTo_of_mem_methodParts {natives : Nat} {receiver : Value} {method : Method}
    {args : List Value} (hs : D.Inv f.store) (hreceiver : D.Fit f.store receiver)
    (hmethod : D.FitMethod f.store method) (hargs : D.FitAll f.store args)
    (hg : g ∈ f.methodParts natives receiver method args) : f.LeadsTo D g := by
  unfold methodParts at hg
  split at hg
  · split at hg
    · cases List.mem_singleton.1 hg
      refine ⟨hD.refl _, hs, hmethod, ?_, hargs⟩
      rintro _ ⟨⟩
      exact hreceiver
    · cases hg
  · split at hg
    · split at hg
      · cases hg
      · split at hg
        · next made t hmade =>
          cases List.mem_singleton.1 hg
          obtain ⟨hto, hfit⟩ := hD.allocate hs hreceiver hmade
          exact ⟨hto.2, hto.1, hfit, hD.fitAll_mono hto.2 hargs⟩
        · cases hg
    · cases hg
  · cases hg

include hD in
theorem leadsTo_of_mem_sendParts {receiver : Value} {name : String} {args : List Value}
    (hs : D.Inv f.store) (hreceiver : D.Fit f.store receiver) (hargs : D.FitAll f.store args)
    (hg : g ∈ f.sendParts core receiver name args) : f.LeadsTo D g := by
  have hpayload := hD.fit_payload_payload hreceiver
  unfold sendParts at hg
  split at hg
  · cases hg
  · split at hg
    · cases hg
    · split at hg
      · next found hfound =>
        exact leadsTo_of_mem_methodParts hD hs hpayload (hD.fit_found hs hpayload hfound) hargs hg
      · cases hg

include hD in
theorem leadsTo_of_mem_callParts {callee : Value} {args : List Value} (hs : D.Inv f.store)
    (hcallee : D.Fit f.store callee) (hargs : D.FitAll f.store args)
    (hg : g ∈ f.callParts callee args) : f.LeadsTo D g := by
  have hpayload := hD.fit_payload_payload hcallee
  unfold callParts at hg
  split at hg
  · cases hg
  · split at hg
    · next closure heq =>
      rw [heq] at hpayload
      split at hg
      · cases List.mem_singleton.1 hg
        refine ⟨hD.refl _, hs, hD.fit_function hpayload, ?_, hargs⟩
        rintro _ ⟨⟩
      · cases hg
    · cases hg

include hD in
theorem leadsTo_of_mem_bodyParts {closure : Closure} {receiver? : Option Value}
    {args : List Value} (hs : D.Inv f.store) (hclosure : D.FitMethod f.store (.user closure))
    (hreceiver : ∀ receiver ∈ receiver?, D.Fit f.store receiver) (hargs : D.FitAll f.store args)
    (hg : g ∈ f.bodyParts closure receiver? args) : f.LeadsTo D g := by
  unfold bodyParts at hg
  split at hg
  · cases hg
  · obtain ⟨hto, hscope⟩ := hD.enter hs hclosure hreceiver hargs
    cases List.mem_singleton.1 hg
    exact ⟨hto.2, hto.1, hscope, hD.fit_nil _⟩

include hD hhost

/-- **A frame that begins by the rules starts only frames that do**, and the rules lead there. -/
theorem leadsTo_of_mem_parts (hf : f.Admitted D) (hg : g ∈ f.parts core host) :
    f.LeadsTo D g := by
  have hctx := lawful_context hD hhost f
  obtain ⟨task, calls, natives, store⟩ := f
  obtain ⟨hs, hf⟩ := hf
  cases task with
  | expr scope e => exact leadsTo_of_mem_exprParts hD hhost hs hf hg
  | exprs scope es =>
    cases es with
    | nil => cases hg
    | cons e es =>
      rcases List.mem_cons.1 hg with rfl | hg
      · exact ⟨hD.refl _, hs, hf⟩
      obtain ⟨x, t, hx, hg⟩ := mem_after.1 hg
      obtain ⟨hto, -⟩ := hD.expr hctx hs hf e hx
      cases List.mem_singleton.1 hg
      exact ⟨hto.2, hto.1, hD.scope_mono hto.2 hf⟩
  | stmt scope statement =>
    cases statement with
    | expr e | ret e =>
      cases List.mem_singleton.1 hg
      exact ⟨hD.refl _, hs, hf⟩
    | retNil => cases hg
  | stmts scope last statements =>
    cases statements with
    | nil => cases hg
    | cons statement statements =>
      rcases List.mem_cons.1 hg with rfl | hg
      · exact ⟨hD.refl _, hs, hf.1⟩
      obtain ⟨value, t, hvalue, hg⟩ := mem_after.1 hg
      obtain ⟨hto, hfit⟩ := hD.stmt hctx hs hf.1 statement hvalue
      cases List.mem_singleton.1 hg
      exact ⟨hto.2, hto.1, hD.scope_mono hto.2 hf.1, hfit⟩
  | send receiver name args => exact leadsTo_of_mem_sendParts hD hs hf.1 hf.2 hg
  | call callee args => exact leadsTo_of_mem_callParts hD hs hf.1 hf.2 hg
  | body closure receiver? args =>
    exact leadsTo_of_mem_bodyParts hD hs hf.1 hf.2.1 hf.2.2 hg

/-- So it is in the whole course of a run. -/
theorem During.leadsTo (h : During core host f g) (hf : f.Admitted D) : f.LeadsTo D g := by
  induction h with
  | refl => exact ⟨hD.refl _, hf⟩
  | tail _ hstart ih =>
    obtain ⟨hleads, hadmitted⟩ := leadsTo_of_mem_parts hD hhost ih.2 hstart
    exact ⟨hD.trans ih.1 hleads, hadmitted⟩

theorem During.admitted (h : During core host f g) (hf : f.Admitted D) : g.Admitted D :=
  (h.leadsTo hD hhost hf).2

end

end Frame

end ObjectModel
