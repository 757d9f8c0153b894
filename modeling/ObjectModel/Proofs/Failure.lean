import ObjectModel.Proofs.Course
import ObjectModel.Proofs.Transience

/-!
# Faults are never lost

When an expression ends with a fault, the frame that started it starts nothing else, ends with the
same fault, and leaves the store alone; and so does the frame that started that one, up to the whole
program.  A fault is handed on in three forms on its way, as an early end of an evaluation, as the
value of a body and as the answer to a message, and no form gets lost in another.

So the answer of a program tells whether an expression of it has failed, and the first expression to
fail is where the program stops.

## Main definitions

* `Frame.Fails` — a frame ends with a fault.
* `Event.Raises` — an expression has just ended with a fault.

## Main results

* `Frame.fails_of_mem_parts`, `Frame.During.fails` — a frame fails as what it starts fails.
* `Frame.parts_pairwise`, `Frame.course_pairwise` — nothing is started after a failure.
* `Machine.runProgram_raises` — no fault of a program is lost, and nothing comes after one.
-/

namespace ObjectModel

variable {core : Core} {host : Host} {s t : Store} {fault : Fault}

namespace Frame

variable {f g : Frame}

/-- A frame ends with a fault, and leaves a store behind. -/
def Fails (core : Core) (host : Host) (fault : Fault) (t : Store) (f : Frame) : Prop :=
  match f.task with
  | .expr scope e =>
    Expr.eval (f.context core host) scope e f.store = some (.error (.fault fault), t)
  | .exprs scope es =>
    Expr.evalAll (f.context core host) scope es f.store = some (.error (.fault fault), t)
  | .stmt scope statement =>
    Stmt.eval (f.context core host) scope statement f.store = some (.error (.fault fault), t)
  | .stmts scope last statements =>
    Stmt.evalAll (f.context core host) scope last statements f.store =
      some (.error (.fault fault), t)
  | .send receiver name args =>
    (f.context core host).send receiver name args f.store = some (.fault fault, t)
  | .call callee args => (f.context core host).call callee args f.store = some (.fault fault, t)
  | .body closure receiver? args =>
    evaluator core host f.calls closure receiver? args f.store = some (.fault fault, t)

/-! ### A fault is handed on -/

/-- An answer that is a fault ends the evaluation that waits for it. -/
theorem settle_of_fault {action : Action Value} (h : action s = some (.fault fault, t)) :
    (do Eval.settle (← action) : Eval Value) s = some (.error (.fault fault), t) := by
  have hlift : (monadLift action : Eval Value) s = some (.ok (.fault fault), t) := by
    change (action >>= fun x => pure (Except.ok x)) s = _
    rw [Action.bind_eq h]
    rfl
  rw [Eval.bind_eq_of_ok hlift]
  rfl

theorem fails_of_mem_operandParts {scope : ScopeRef} {operand : Expr} {args : List Expr}
    {task : Value → List Value → Task} {act : Value → List Value → Action Value}
    (htask : ∀ {value values u}, (f.next (task value values) u).Fails core host fault t →
      act value values u = some (.fault fault, t))
    (hg : g ∈ f.operandParts core host scope operand args task)
    (hfails : g.Fails core host fault t) :
    (do
      let value ← Expr.eval (f.context core host) scope operand
      let values ← Expr.evalAll (f.context core host) scope args
      Eval.settle (← act value values) : Eval Value) f.store =
        some (.error (.fault fault), t) := by
  rcases List.mem_cons.1 hg with rfl | hg
  · exact Eval.bind_eq_of_error hfails
  obtain ⟨value, u, hvalue, hg⟩ := mem_after.1 hg
  rw [Eval.bind_eq_of_ok hvalue]
  rcases List.mem_cons.1 hg with rfl | hg
  · exact Eval.bind_eq_of_error hfails
  obtain ⟨values, v, hvalues, hg⟩ := mem_after.1 hg
  rw [Eval.bind_eq_of_ok hvalues]
  cases List.mem_singleton.1 hg
  exact settle_of_fault (htask hfails)

theorem fails_of_mem_exprParts {scope : ScopeRef} {e : Expr}
    (hg : g ∈ f.exprParts core host scope e) (hfails : g.Fails core host fault t) :
    Expr.eval (f.context core host) scope e f.store = some (.error (.fault fault), t) := by
  cases e with
  | ident name =>
    rw [exprParts] at hg
    split at hg
    · next hvalue hcore =>
      cases List.mem_singleton.1 hg
      have hident : evalIdent (f.context core host) scope name f.store =
          some (.fault fault, t) := by
        unfold evalIdent
        rw [Action.get_bind]
        simp only [hvalue, context_core, hcore]
        exact hfails
      exact settle_of_fault hident
    · cases hg
  | assign target value =>
    cases List.mem_singleton.1 hg
    exact Eval.bind_eq_of_error hfails
  | send receiver name args => exact fails_of_mem_operandParts id hg hfails
  | sendSelf name args =>
    rw [Expr.eval, Eval.bind_eq_of_ok (x := f.store) (t := f.store) rfl]
    rcases List.mem_cons.1 hg with rfl | hg
    · exact Eval.bind_eq_of_error hfails
    obtain ⟨xs, u, hxs, hg⟩ := mem_after.1 hg
    rw [Eval.bind_eq_of_ok hxs]
    cases List.mem_singleton.1 hg
    exact settle_of_fault hfails
  | call callee args => exact fails_of_mem_operandParts id hg hfails
  | _ => cases hg

/-- The body of a function hands on the fault that its statements end with. -/
theorem fails_of_mem_bodyParts {closure : Closure} {receiver? : Option Value} {args : List Value}
    (hg : g ∈ f.bodyParts closure receiver? args) (hfails : g.Fails core host fault t) :
    evaluator core host f.calls closure receiver? args f.store = some (.fault fault, t) := by
  unfold bodyParts at hg
  split at hg
  · cases hg
  · next calls hcalls =>
    cases List.mem_singleton.1 hg
    rw [hcalls, evaluator_succ]
    exact Action.bind_eq hfails

/-- And so does the call of a function, since a fault is its own payload. -/
theorem runBody_of_fault {m : Machine} {closure : Closure} {receiver? : Option Value}
    {args : List Value} (h : m.runner closure receiver? args s = some (.fault fault, t)) :
    m.runBody closure receiver? args s = some (.fault fault, t) := by
  rw [Machine.runBody, Action.bind_eq h]
  rfl

theorem fails_of_mem_methodParts {natives : Nat} {receiver : Value} {name : String}
    {method : Method} {args : List Value} (hg : g ∈ f.methodParts natives receiver method args)
    (hfails : g.Fails core host fault t) :
    (Machine.evaluating core host f.calls).perform
      ((Machine.evaluating core host f.calls).context natives) receiver name method args f.store =
        some (.fault fault, t) := by
  unfold methodParts at hg
  split at hg
  · split at hg
    · next hcount =>
      rw [Machine.perform_user hcount]
      cases List.mem_singleton.1 hg
      exact runBody_of_fault hfails
    · cases hg
  · split at hg
    · next c =>
      split at hg
      · cases hg
      · next hlayout =>
        split at hg
        · next made u hmade =>
          -- the fault of `initialize` takes the place of the instance
          change Kernel.instantiate _ (.cls c) args f.store = _
          rw [Kernel.instantiate_of_allocate hlayout hmade]
          cases List.mem_singleton.1 hg
          exact Action.bind_eq hfails
        · cases hg
    · cases hg
  · cases hg

theorem fails_of_mem_sendParts {receiver : Value} {name : String} {args : List Value}
    (hg : g ∈ f.sendParts core receiver name args) (hfails : g.Fails core host fault t) :
    (f.context core host).send receiver name args f.store = some (.fault fault, t) := by
  unfold sendParts at hg
  split at hg
  · cases hg
  · next natives hnatives =>
    rw [context, hnatives]
    change (Machine.evaluating core host f.calls).send
      ((Machine.evaluating core host f.calls).context natives) receiver name args f.store = _
    split at hg
    · cases hg
    · next hreceiver =>
      split at hg
      · next found hfound =>
        rw [Machine.send_of_found hreceiver hfound]
        exact fails_of_mem_methodParts hg hfails
      · cases hg

theorem fails_of_mem_callParts {callee : Value} {args : List Value}
    (hg : g ∈ f.callParts callee args) (hfails : g.Fails core host fault t) :
    (f.context core host).call callee args f.store = some (.fault fault, t) := by
  unfold callParts at hg
  split at hg
  · cases hg
  · next natives hnatives =>
    rw [context, hnatives]
    change (Machine.evaluating core host f.calls).call callee args f.store = _
    split at hg
    · next closure hclosure =>
      split at hg
      · next hcount =>
        rw [Machine.call_function hclosure hcount]
        cases List.mem_singleton.1 hg
        exact runBody_of_fault hfails
      · cases hg
    · cases hg

/-- **A frame fails as what it starts fails**, with the same fault and in the same store. -/
theorem fails_of_mem_parts (hg : g ∈ f.parts core host) (hfails : g.Fails core host fault t) :
    f.Fails core host fault t := by
  obtain ⟨task, calls, natives, store⟩ := f
  cases task with
  | expr scope e => exact fails_of_mem_exprParts hg hfails
  | exprs scope es =>
    cases es with
    | nil => cases hg
    | cons e es =>
      rcases List.mem_cons.1 hg with rfl | hg
      · exact Eval.bind_eq_of_error hfails
      obtain ⟨x, u, hx, hg⟩ := mem_after.1 hg
      cases List.mem_singleton.1 hg
      refine (Eval.bind_eq_of_ok hx).trans ?_
      exact Eval.bind_eq_of_error hfails
  | stmt scope statement =>
    cases statement with
    | expr e =>
      cases List.mem_singleton.1 hg
      exact hfails
    | ret e =>
      cases List.mem_singleton.1 hg
      exact Eval.bind_eq_of_error hfails
    | retNil => cases hg
  | stmts scope last statements =>
    cases statements with
    | nil => cases hg
    | cons statement statements =>
      rcases List.mem_cons.1 hg with rfl | hg
      · exact Eval.bind_eq_of_error hfails
      obtain ⟨value, u, hvalue, hg⟩ := mem_after.1 hg
      cases List.mem_singleton.1 hg
      exact (Eval.bind_eq_of_ok hvalue).trans hfails
  | send receiver name args => exact fails_of_mem_sendParts hg hfails
  | call callee args => exact fails_of_mem_callParts hg hfails
  | body closure receiver? args => exact fails_of_mem_bodyParts hg hfails

/-- So does every frame in the course of which a frame fails. -/
theorem During.fails (h : During core host f g) (hfails : g.Fails core host fault t) :
    f.Fails core host fault t := by
  induction h using Relation.ReflTransGen.head_induction_on with
  | refl => exact hfails
  | head hpart _ ih => exact fails_of_mem_parts hpart ih

/-! ### Nothing comes after a failure -/

/-- The frame does not end with a fault. -/
def Unfailing (core : Core) (host : Host) (f : Frame) : Prop :=
  ∀ fault t, ¬ f.Fails core host fault t

/-- What is started after an evaluation is started only if the evaluation does not fail. -/
theorem pairwise_cons_after {α : Type} {result : Option (Except Abrupt α × Store)}
    {start : α → Store → List Frame}
    (hg : ∀ fault t, g.Fails core host fault t → result = some (.error (.fault fault), t))
    (hstart : ∀ x u, (start x u).Pairwise fun g _ => g.Unfailing core host) :
    (g :: after result start).Pairwise fun g _ => g.Unfailing core host := by
  refine List.pairwise_cons.2 ⟨fun h hh fault t hfails => ?_, ?_⟩
  · obtain ⟨x, u, hx, -⟩ := mem_after.1 hh
    rw [hg fault t hfails] at hx
    cases hx
  · match result with
    | some (.ok x, u) => exact hstart x u
    | some (.error _, _) => exact .nil
    | none => exact .nil

theorem pairwise_operandParts (core : Core) (host : Host) (f : Frame) (scope : ScopeRef)
    (operand : Expr) (args : List Expr) (task : Value → List Value → Task) :
    (f.operandParts core host scope operand args task).Pairwise fun g _ =>
      g.Unfailing core host := by
  refine pairwise_cons_after (fun _ _ hfails => hfails) fun value t => ?_
  exact pairwise_cons_after (fun _ _ hfails => hfails) fun values u => List.pairwise_singleton _ _

/-- A message starts one frame at most. -/
theorem length_sendParts_le (receiver : Value) (name : String) (args : List Value) :
    (f.sendParts core receiver name args).length ≤ 1 := by
  have hmethod (natives : Nat) (receiver : Value) (method : Method) :
      (f.methodParts natives receiver method args).length ≤ 1 := by
    unfold methodParts
    repeat' split
    all_goals simp
  unfold sendParts
  repeat' split
  all_goals simp [hmethod]

/-- And so does a call. -/
theorem length_callParts_le (callee : Value) (args : List Value) :
    (f.callParts callee args).length ≤ 1 := by
  unfold callParts
  repeat' split
  all_goals simp

private theorem pairwise_of_length_le {α : Type} {R : α → α → Prop} {xs : List α}
    (h : xs.length ≤ 1) : xs.Pairwise R := by
  match xs with
  | [] => exact .nil
  | [x] => exact List.pairwise_singleton R x

/-- **Only the last frame that a frame starts can fail.** -/
theorem parts_pairwise (core : Core) (host : Host) (f : Frame) :
    (f.parts core host).Pairwise fun g _ => g.Unfailing core host := by
  obtain ⟨task, calls, natives, store⟩ := f
  cases task with
  | expr scope e =>
    cases e with
    | ident name =>
      refine pairwise_of_length_le ?_
      change (exprParts core host _ scope (.ident name)).length ≤ 1
      rw [exprParts]
      split <;> simp
    | assign target value => exact List.pairwise_singleton _ _
    | send receiver name args => exact pairwise_operandParts core host _ scope receiver args _
    | sendSelf name args =>
      refine pairwise_cons_after (fun _ _ hfails => hfails) fun xs t => ?_
      exact List.pairwise_singleton _ _
    | call callee args => exact pairwise_operandParts core host _ scope callee args _
    | _ => exact .nil
  | exprs scope es =>
    cases es with
    | nil => exact .nil
    | cons e es =>
      refine pairwise_cons_after (fun _ _ hfails => hfails) fun x t => ?_
      exact List.pairwise_singleton _ _
  | stmt scope statement =>
    cases statement with
    | expr e | ret e => exact List.pairwise_singleton _ _
    | retNil => exact .nil
  | stmts scope last statements =>
    cases statements with
    | nil => exact .nil
    | cons statement statements =>
      refine pairwise_cons_after (fun _ _ hfails => hfails) fun value t => ?_
      exact List.pairwise_singleton _ _
  | send receiver name args => exact pairwise_of_length_le (length_sendParts_le receiver name args)
  | call callee args => exact pairwise_of_length_le (length_callParts_le callee args)
  | body closure receiver? args =>
    refine pairwise_of_length_le ?_
    change (bodyParts _ closure receiver? args).length ≤ 1
    unfold bodyParts
    split <;> simp

/-- **Nothing begins after a frame has failed.**  The induction is on the course: what comes after a
part that fails is the end of the frame that started it. -/
theorem course_pairwise (core : Core) (host : Host) (f : Frame) :
    (f.course core host).Pairwise fun x y =>
      ∀ g fault t, x = .ends g → g.Fails core host fault t → ∀ h, y ≠ .begins h := by
  induction f using course.induct core host with
  | case1 f ih =>
    have hparts : ((f.parts core host).flatMap (course core host)).Pairwise fun x y =>
        ∀ g fault t, x = .ends g → g.Fails core host fault t → ∀ h, y ≠ .begins h := by
      refine List.pairwise_flatMap.2 ⟨fun part hpart => ih ⟨part, hpart⟩, ?_⟩
      refine (parts_pairwise core host f).imp fun hunfailing x hx y _ g fault t heq hfails => ?_
      -- a part in the course of which a frame fails would fail itself
      have hduring := ends_mem_course.1 (heq ▸ hx)
      exact absurd (hduring.fails hfails) (hunfailing fault t)
    rw [course_eq]
    refine List.pairwise_cons.2 ⟨?_, List.pairwise_append.2 ⟨hparts, ?_, ?_⟩⟩
    · intro y _ g fault t heq
      cases heq
    · exact List.pairwise_singleton _ _
    · intro x _ y hy g fault t _ _ h heq
      rw [List.mem_singleton.1 hy] at heq
      cases heq

/-! ### Where a failure comes from -/

/-- A statement fails only because its expression does. -/
theorem exists_expr_of_stmt_fails {scope : ScopeRef} {statement : Stmt}
    (htask : f.task = .stmt scope statement) (hfails : f.Fails core host fault t) :
    ∃ g e, g ∈ f.parts core host ∧ g.task = .expr scope e ∧ g.Fails core host fault t := by
  obtain ⟨task, calls, natives, store⟩ := f
  cases htask
  cases statement with
  | expr e => exact ⟨_, e, List.mem_singleton_self _, rfl, hfails⟩
  | ret e =>
    refine ⟨_, e, List.mem_singleton_self _, rfl, ?_⟩
    obtain ⟨⟨outcome, u⟩, heval, hrest⟩ := Option.bind_eq_some_iff.1 hfails
    cases outcome with
    | ok value => cases hrest
    | error abrupt =>
      cases hrest
      exact heval
  | retNil => cases hfails

/-- Statements fail only because the expression of one of them does. -/
theorem exists_expr_of_stmts_fails {scope : ScopeRef} {last : Value} {statements : List Stmt}
    (htask : f.task = .stmts scope last statements) (hfails : f.Fails core host fault t) :
    ∃ g e, During core host f g ∧ g.task = .expr scope e ∧ g.Fails core host fault t := by
  induction statements generalizing f last with
  | nil =>
    obtain ⟨task, calls, natives, store⟩ := f
    cases htask
    cases hfails
  | cons statement statements ih =>
    obtain ⟨task, calls, natives, store⟩ := f
    cases htask
    obtain ⟨⟨outcome, u⟩, heval, hrest⟩ := Option.bind_eq_some_iff.1 hfails
    cases outcome with
    | ok value =>
      -- the statement has a value, so one of those after it fails
      obtain ⟨g, e, hduring, hg⟩ := ih
        (f := ⟨.stmts scope value statements, calls, natives, u⟩) rfl hrest
      refine ⟨g, e, .head ?_ hduring, hg⟩
      exact List.mem_cons_of_mem _ (mem_after.2 ⟨value, u, heval, List.mem_singleton_self _⟩)
    | error abrupt =>
      cases hrest
      obtain ⟨g, e, hpart, hg⟩ := exists_expr_of_stmt_fails
        (f := ⟨.stmt scope statement, calls, natives, store⟩) rfl heval
      exact ⟨g, e, .head List.mem_cons_self (.single hpart), hg⟩

end Frame

/-- An expression has just ended with a fault, and has left a store behind. -/
inductive Event.Raises (core : Core) (host : Host) : Event → Fault → Store → Prop
  | ends {f : Frame} {scope : ScopeRef} {e : Expr} {fault : Fault} {t : Store}
      (htask : f.task = .expr scope e)
      (heval : Expr.eval (f.context core host) scope e f.store = some (.error (.fault fault), t)) :
      Raises core host (.ends f) fault t

/-- What raises a fault is the end of a frame that fails. -/
theorem Event.Raises.fails {event : Event} (h : event.Raises core host fault t) :
    ∃ f, event = .ends f ∧ f.Fails core host fault t := by
  cases h with
  | @ends f scope e _ _ htask heval =>
    obtain ⟨task, calls, natives, store⟩ := f
    cases htask
    exact ⟨_, rfl, heval⟩

/-- A program answers the fault that its statements end with. -/
theorem Frame.runProgram_of_fails {depth : Nat} {scope : ScopeRef} {block : Block}
    (hfails : (Frame.program depth scope block s).Fails core host fault t) :
    Machine.runProgram core host depth scope block s = some (.fault fault, t) :=
  Action.bind_eq hfails

/-- And it answers no other fault, if its statements have no event for a value. -/
theorem Frame.fails_of_runProgram {depth : Nat} {scope : ScopeRef} {block : Block}
    (hs : s.Ordinary)
    (hrun : Machine.runProgram core host depth scope block s = some (.fault fault, t)) :
    (Frame.program depth scope block s).Fails core host fault t := by
  have hD := Discipline.transient_lawful core
  have hhost := Discipline.transient_host core host
  have hctx := Frame.lawful_context hD hhost (Frame.program depth scope block s)
  have hscope : Discipline.transient.FitScope s scope := trivial
  obtain ⟨⟨outcome, u⟩, heval, hanswer⟩ := Option.bind_eq_some_iff.1 hrun
  obtain ⟨-, hends⟩ := hD.stmts hctx hs hscope (hD.fit_nil s) block heval
  match outcome, hends, hanswer with
  | .ok value, hordinary, hanswer =>
    cases hanswer
    cases hordinary
  | .error (.ret value), hordinary, hanswer =>
    cases hanswer
    cases hordinary
  | .error (.fault other), _, hanswer =>
    cases hanswer
    exact heval

/-- A kernel method other than `new` starts nothing: it answers the same where nothing can be sent
or called. -/
theorem KernelMethod.run_eq_exhausted {method : KernelMethod} (h : method ≠ .new)
    (ctx : NativeContext) : method.run ctx = method.run (.exhausted ctx.core) := by
  cases method with
  | new => exact absurd rfl h
  | _ => rfl

/-- **No fault is lost, and nothing comes after one.**  Let no event and no function of the host be
held by a store, and let all its native methods be those of the kernel.  If an expression ends with
a fault in the course of a program, at whatever depth, then the fault is the answer of the program,
the store at that moment is the store at the end, and no frame begins any more.  If the program
answers a fault then an expression has ended with it.  The course leaves nothing out, because no
message and no call gets to a function of the host, and no method of the kernel but `new` starts
anything. -/
theorem Machine.runProgram_raises {depth : Nat} {scope : ScopeRef} {block : Block}
    {answer : Value} (hevents : s.EventFree) (hbuiltins : s.BuiltinFree)
    (hnatives : s.KernelNatives)
    (hrun : Machine.runProgram core host depth scope block s = some (answer, t)) :
    (∀ event ∈ (Frame.program depth scope block s).course core host, ∀ fault u,
      event.Raises core host fault u → answer = .fault fault ∧ t = u) ∧
    ((Frame.program depth scope block s).course core host).Pairwise (fun x y =>
      ∀ fault u, x.Raises core host fault u → ∀ f, y ≠ .begins f) ∧
    (∀ fault, answer = .fault fault →
      ∃ event ∈ (Frame.program depth scope block s).course core host,
        event.Raises core host fault t) ∧
    ∀ f, .begins f ∈ (Frame.program depth scope block s).course core host →
      (∀ receiver name args owner native, f.task = .send receiver name args →
        f.store.methodFor core receiver.payload name = .ok ⟨owner, .native native⟩ →
        ∃ home method, native = .kernel home method ∧
          (method ≠ .new → ∀ ctx, ctx.core = core →
            method.run ctx = method.run (.exhausted core))) ∧
      ∀ callee args entry name, f.task = .call callee args →
        callee.payload ≠ .builtin entry name := by
  have hD := Discipline.transient_lawful core
  have hhost := Discipline.transient_host core host
  have hs : s.Ordinary := Store.ordinary_iff.2 ⟨hevents, hbuiltins, hnatives⟩
  refine ⟨fun event hevent fault u hraises => ?_, ?_, ?_, fun f hf => ?_⟩
  · obtain ⟨f, rfl, hfails⟩ := hraises.fails
    have hprogram := (Frame.ends_mem_course.1 hevent).fails hfails
    rw [Frame.runProgram_of_fails hprogram] at hrun
    cases hrun
    exact ⟨rfl, rfl⟩
  · refine (Frame.course_pairwise core host _).imp fun hpair fault u hraises => ?_
    obtain ⟨f, heq, hfails⟩ := hraises.fails
    exact hpair f fault u heq hfails
  · rintro fault rfl
    have hprogram := Frame.fails_of_runProgram hs hrun
    obtain ⟨g, e, hduring, htask, hg⟩ := Frame.exists_expr_of_stmts_fails rfl hprogram
    refine ⟨.ends g, Frame.ends_mem_course.2 hduring, .ends htask ?_⟩
    rw [Frame.Fails, htask] at hg
    exact hg
  · have hadmitted : (Frame.program depth scope block s).Admitted .transient := ⟨hs, trivial, rfl⟩
    obtain ⟨hinv, hf⟩ := (Frame.begins_mem_course.1 hf).admitted hD hhost hadmitted
    constructor
    · intro receiver name args owner native htask hfound
      rw [htask] at hf
      have hinternal := hD.fit_found hinv (hD.fit_payload_payload hf.1) hfound
      cases native with
      | host => cases hinternal
      | kernel home method =>
        refine ⟨home, method, rfl, fun hne ctx hcore => ?_⟩
        rw [← hcore]
        exact KernelMethod.run_eq_exhausted hne ctx
    · intro callee args entry name htask heq
      rw [htask] at hf
      have hordinary := hD.fit_payload_payload hf.1
      rw [heq] at hordinary
      cases hordinary

/-- A program that sends a message which `nil` does not understand, and then assigns a variable. -/
def unknownMessage : Block :=
  [.expr (.assign (.ident "x") (.send .nil "unknown" [])), .expr (.assign (.ident "x") (.int 2))]

/-- The message is the end of the program, which never gets to the second assignment. -/
theorem runProgram_raises_unknownMessage :
    Store.withScope.EventFree ∧ Store.withScope.BuiltinFree ∧ Store.withScope.KernelNatives ∧
      ∃ fault t, Machine.runProgram Core.initial ⟨fun _ _ _ _ => pure .nil, fun _ _ => pure .nil⟩
          2 ⟨0⟩ unknownMessage Store.withScope = some (.fault fault, t) ∧
        t.valueOf? ⟨0⟩ "x" = none ∧
        ∃ event ∈ (Frame.program 2 ⟨0⟩ unknownMessage Store.withScope).course Core.initial
            ⟨fun _ _ _ _ => pure .nil, fun _ _ => pure .nil⟩,
          event.Raises Core.initial ⟨fun _ _ _ _ => pure .nil, fun _ _ => pure .nil⟩ fault t := by
  obtain ⟨hevents, hbuiltins, hnatives⟩ := Store.ordinary_iff.1 Store.ordinary_withScope
  have hfails : (Machine.runProgram Core.initial
      ⟨fun _ _ _ _ => pure .nil, fun _ _ => pure .nil⟩ 2 ⟨0⟩ unknownMessage
        Store.withScope).map (fun result => (result.1.isFault, result.2.valueOf? ⟨0⟩ "x")) =
          some (true, none) := by decide +kernel
  obtain ⟨⟨answer, t⟩, hrun, hresult⟩ := Option.map_eq_some_iff.1 hfails
  obtain ⟨hfault, hvariable⟩ := Prod.ext_iff.1 hresult
  cases answer with
  | fault fault =>
    obtain ⟨-, -, hraised, -⟩ := Machine.runProgram_raises hevents hbuiltins hnatives hrun
    exact ⟨hevents, hbuiltins, hnatives, fault, t, hrun, hvariable, hraised fault rfl⟩
  | _ => cases hfault

end ObjectModel
