import ObjectModel.Proofs.Discipline

/-!
# Evaluation by the rules

If every operation on the store keeps to the rules of a discipline, so does the evaluation of
program trees.  An expression comes to a fit value; a fault may end it early, and so may an early
return, but only one that is itself fit to be met as a value.  A statement may return any fit value.

## Main definitions

* `Discipline.Yields` — an evaluation that keeps to the rules and ends as stated.

## Main results

* `Discipline.Lawful.expr`, `Discipline.Lawful.exprs` — expressions and lists of arguments.
* `Discipline.Lawful.stmts` — blocks.
* `Discipline.Lawful.evaluator` — the evaluator, as an evaluator of bodies.
* `Discipline.Lawful.runProgram` — whole programs.
-/

namespace ObjectModel

namespace Discipline

variable {D : Discipline} {core : Core} {host : Host} {ctx : NativeContext} {s : Store}
  {scope : ScopeRef} {α β : Type}

/-- How an evaluation may end: with an answer of which `Q` holds, with a return of a value of which
`R` holds, or with a fault. -/
def Ends (R : Store → Value → Prop) (Q : Store → α → Prop) (t : Store) :
    Except Abrupt α → Prop
  | .ok x => Q t x
  | .error (.ret value) => R t value
  | .error (.fault _) => True

/-- Begun in the store `s`, the evaluation keeps to the rules and ends as stated. -/
def Yields (D : Discipline) (R : Store → Value → Prop) (s : Store) (evaluation : Eval α)
    (Q : Store → α → Prop) : Prop :=
  D.Keeps s evaluation.run (Ends R Q)

/-- What may be returned out of an expression: the payload of a fit early return. -/
def Returned (D : Discipline) (t : Store) (value : Value) : Prop :=
  ∃ serial, D.Fit t (.pending serial value)

/-! ### Putting evaluations together -/

namespace Yields

variable {R : Store → Value → Prop} {Q : Store → α → Prop} {Q' : Store → β → Prop}

theorem pure (hD : D.Lawful core) (hs : D.Inv s) {x : α} (hx : Q s x) :
    D.Yields R s (Pure.pure x) Q :=
  Keeps.pure hD hs (Q := Ends R Q) hx

theorem bind (hD : D.Lawful core) {evaluation : Eval α} {next : α → Eval β}
    (h : D.Yields R s evaluation Q)
    (hnext : ∀ ⦃t x⦄, D.To s t → Q t x → D.Yields R t (next x) Q') :
    D.Yields R s (evaluation >>= next) Q' := by
  refine Keeps.bind hD h fun t outcome hto hends => ?_
  cases outcome with
  | ok x => exact hnext hto hends
  | error abrupt =>
    -- an early end is the end of the whole evaluation
    refine Keeps.pure hD hto.1 ?_
    cases abrupt <;> exact hends

/-- An action that cannot end early. -/
theorem lift (hD : D.Lawful core) {action : Action α} (h : D.Keeps s action Q) :
    D.Yields R s (monadLift action) Q := by
  change D.Keeps s (action >>= fun x => Pure.pure (Except.ok x)) (Ends R Q)
  exact Keeps.bind hD h fun _ _ hto hQ => Keeps.pure hD hto.1 hQ

theorem get_bind {next : Store → Eval β} (h : D.Yields R s (next s) Q') :
    D.Yields R s (get >>= next) Q' := h

theorem modify {f : Store → Store} (hto : D.To s (f s)) :
    D.Yields R s (modify f) fun _ _ => True := by
  intro outcome t h
  cases h
  exact ⟨hto, trivial⟩

theorem fault (hD : D.Lawful core) (hs : D.Inv s) (fault : Fault) :
    D.Yields R s (throw (.fault fault)) Q :=
  Keeps.pure hD hs (Q := Ends R Q) trivial

theorem ret (hD : D.Lawful core) (hs : D.Inv s) {value : Value} (h : R s value) :
    D.Yields R s (throw (.ret value)) Q :=
  Keeps.pure hD hs (Q := Ends R Q) h

/-- An answer ends an evaluation early if it is an event in flight. -/
theorem settle (hD : D.Lawful core) (hs : D.Inv s) {value : Value} (h : D.Answer s value) :
    D.Yields D.Returned s (Eval.settle value) D.Fit := by
  refine Keeps.pure hD hs ?_
  rcases h with hfit | hfault
  · cases value with
    | pending serial payload => exact ⟨serial, hfit⟩
    | fault => trivial
    | _ => exact hfit
  · cases value with
    | fault => trivial
    | _ => cases hfault

theorem mono {R₁ R₂ : Store → Value → Prop} {evaluation : Eval α}
    (h : D.Yields R₁ s evaluation Q) (himp : ∀ ⦃t value⦄, R₁ t value → R₂ t value) :
    D.Yields R₂ s evaluation Q := by
  refine Keeps.mono h fun t outcome hends => ?_
  match outcome, hends with
  | .ok _, hends => exact hends
  | .error (.ret _), hends => exact himp hends
  | .error (.fault _), _ => trivial

end Yields

namespace Lawful

/-! ### Names and assignments -/

theorem ident (hD : D.Lawful core) (hctx : D.Context core ctx) (hs : D.Inv s)
    (hscope : D.FitScope s scope) (name : String) :
    D.Keeps s (evalIdent ctx scope name) D.Answer := by
  refine .get_bind ?_
  split
  · next hvalue => exact hD.keeps_fit hs (hD.fit_variable hs hscope hvalue)
  · split
    · next hcore =>
      rw [hctx.core_eq] at hcore
      exact hD.keeps_fit hs (hD.fit_core hs hcore)
    · refine hctx.send hs (hD.fit_selfValue hs hscope) ?_
      rintro _ ⟨⟩

theorem ivar (hD : D.Lawful core) (hs : D.Inv s) (hscope : D.FitScope s scope) (name : String) :
    D.Keeps s (evalIvar scope name) D.Answer := by
  have hself := hD.fit_selfValue hs hscope
  refine .get_bind ?_
  split
  · next ref heq =>
    rw [heq] at hself
    refine hD.keeps_fit hs ?_
    cases hvalue : s.ivar? ref name with
    | none => exact hD.fit_nil s
    | some value => exact hD.fit_ivar hs hself hvalue
  · exact hD.keeps_fit hs (hD.fit_nil s)

theorem assignTo (hD : D.Lawful core) (hs : D.Inv s) (hscope : D.FitScope s scope)
    (target : Expr) {value : Value} (hvalue : D.Fit s value) :
    D.Yields D.Returned s (assignTo scope target value) fun _ _ => True := by
  have hself := hD.fit_selfValue hs hscope
  unfold ObjectModel.assignTo
  split
  · exact .modify (hD.assign hs hscope hvalue)
  · refine .get_bind ?_
    split
    · next ref heq =>
      rw [heq] at hself
      exact .modify (hD.setIvar hs hself hvalue)
    · exact .fault hD hs _
  · exact .fault hD hs _

theorem fn (hD : D.Lawful core) (hs : D.Inv s) (hscope : D.FitScope s scope)
    (params : List String) (body : Block) :
    D.Yields D.Returned s (evalFn scope params body) D.Fit := by
  refine .bind hD (.lift hD (Keeps.attempt hD hs
    (Q := fun t made => ∀ closure, made = .ok closure → D.Fit t (.function closure)) ?_ ?_)) ?_
  · intro closure t hmade
    obtain ⟨hto, hfit⟩ := hD.makeFunction hs hscope hmade
    exact ⟨hto, fun _ h => by cases h; exact hfit⟩
  · intro _ _ _ h
    cases h
  · intro t made hto hmade
    split
    · next closure => exact .pure hD hto.1 (hmade closure rfl)
    · exact .fault hD hto.1 _

/-! ### Expressions -/

mutual

/-- Expressions keep to the rules.  The induction is on the tree; what has been evaluated stays fit
while the rest is evaluated. -/
theorem expr (hD : D.Lawful core) (hctx : D.Context core ctx) {s : Store} (hs : D.Inv s)
    (hscope : D.FitScope s scope) (e : Expr) :
    D.Yields D.Returned s (Expr.eval ctx scope e) D.Fit := by
  cases e with
  | int n => exact .pure hD hs (hD.fit_int s n)
  | str text =>
    obtain ⟨hto, hfit⟩ := hD.newString text hs
    exact .lift hD (.change hto hfit)
  | sym name => exact .pure hD hs (hD.fit_symbol s name)
  | bool b => exact .pure hD hs (hD.fit_bool s b)
  | nil => exact .pure hD hs (hD.fit_nil s)
  | self => exact .get_bind (.settle hD hs (.inl (hD.fit_selfValue hs hscope)))
  | ident name =>
    refine .bind hD (.lift hD (hD.ident hctx hs hscope name)) fun t value hto hanswer => ?_
    exact .settle hD hto.1 hanswer
  | ivar name =>
    refine .bind hD (.lift hD (hD.ivar hs hscope name)) fun t value hto hanswer => ?_
    exact .settle hD hto.1 hanswer
  | assign target value =>
    -- the value of the assignment was fit before it, and the assignment keeps it so
    refine .bind hD (expr hD hctx hs hscope value) fun t x hto hx => ?_
    refine .bind hD (hD.assignTo hto.1 (hD.scope_mono hto.2 hscope) target hx) ?_
    intro u _ hto' _
    exact .pure hD hto'.1 (hD.fit_mono hto'.2 hx)
  | send receiver method args =>
    refine .bind hD (expr hD hctx hs hscope receiver) fun t r hto hr => ?_
    refine .bind hD (exprs hD hctx hto.1 (hD.scope_mono hto.2 hscope) args) ?_
    intro u xs hto' hxs
    refine .bind hD (.lift hD (hctx.send hto'.1 (hD.fit_mono hto'.2 hr) hxs)) ?_
    exact fun w answer hto'' hanswer => .settle hD hto''.1 hanswer
  | sendSelf method args =>
    -- the receiver is read before the arguments are evaluated
    refine .get_bind ?_
    have hself := hD.fit_selfValue hs hscope
    refine .bind hD (exprs hD hctx hs hscope args) fun t xs hto hxs => ?_
    refine .bind hD (.lift hD (hctx.send hto.1 (hD.fit_mono hto.2 hself) hxs)) ?_
    exact fun u answer hto' hanswer => .settle hD hto'.1 hanswer
  | call callee args =>
    refine .bind hD (expr hD hctx hs hscope callee) fun t f hto hf => ?_
    refine .bind hD (exprs hD hctx hto.1 (hD.scope_mono hto.2 hscope) args) ?_
    intro u xs hto' hxs
    refine .bind hD (.lift hD (hctx.call hto'.1 (hD.fit_mono hto'.2 hf) hxs)) ?_
    exact fun w answer hto'' hanswer => .settle hD hto''.1 hanswer
  | fn params body => exact hD.fn hs hscope params body

/-- So do arguments, one after the other. -/
theorem exprs (hD : D.Lawful core) (hctx : D.Context core ctx) {s : Store} (hs : D.Inv s)
    (hscope : D.FitScope s scope) (es : List Expr) :
    D.Yields D.Returned s (Expr.evalAll ctx scope es) D.FitAll := by
  cases es with
  | nil =>
    refine .pure hD hs ?_
    rintro _ ⟨⟩
  | cons e es =>
    refine .bind hD (expr hD hctx hs hscope e) fun t x hto hx => ?_
    refine .bind hD (exprs hD hctx hto.1 (hD.scope_mono hto.2 hscope) es) ?_
    intro u xs hto' hxs
    refine .pure hD hto'.1 ?_
    intro value hmem
    rcases List.mem_cons.1 hmem with rfl | hmem
    · exact hD.fit_mono hto'.2 hx
    · exact hxs value hmem

end

/-! ### Blocks -/

/-- A return may carry any fit value; what an expression returns is one. -/
theorem stmt (hD : D.Lawful core) (hctx : D.Context core ctx) (hs : D.Inv s)
    (hscope : D.FitScope s scope) (statement : Stmt) :
    D.Yields D.Fit s (Stmt.eval ctx scope statement) D.Fit := by
  have hexpr (e : Expr) : D.Yields D.Fit s (Expr.eval ctx scope e) D.Fit :=
    (hD.expr hctx hs hscope e).mono fun t value ⟨_, hfit⟩ => hD.fit_payload hfit
  cases statement with
  | expr e => exact hexpr e
  | ret e => exact .bind hD (hexpr e) fun t value hto hvalue => .ret hD hto.1 hvalue
  | retNil => exact .ret hD hs (hD.fit_nil s)

theorem stmts (hD : D.Lawful core) (hctx : D.Context core ctx) {s : Store} (hs : D.Inv s)
    (hscope : D.FitScope s scope) {last : Value} (hlast : D.Fit s last)
    (statements : List Stmt) :
    D.Yields D.Fit s (Stmt.evalAll ctx scope last statements) D.Fit := by
  induction statements generalizing s last with
  | nil => exact .pure hD hs hlast
  | cons statement statements ih =>
    refine .bind hD (hD.stmt hctx hs hscope statement) fun t value hto hvalue => ?_
    exact ih hto.1 (hD.scope_mono hto.2 hscope) hvalue

/-- Bodies keep to the rules.  The induction is on how deep calls may nest. -/
theorem evaluator (hD : D.Lawful core) (hhost : D.HostObeys core host) (depth : Nat) :
    D.RunnerObeys (evaluator core host depth) := by
  induction depth with
  | zero => exact fun _ _ _ _ _ _ _ _ => .exhausted
  | succ depth ih =>
    intro s closure receiver? args hs hclosure hreceiver hargs
    obtain ⟨hto, hscope⟩ := hD.enter hs hclosure hreceiver hargs
    refine .bind hD (.change (Q := D.FitScope) hto hscope) fun t scope hto hscope => ?_
    have hctx : D.Context core ((Machine.evaluating core host depth).context (depth + 1)) :=
      context (m := Machine.evaluating core host depth) hD hhost ih (depth + 1)
    refine .bind hD (hD.stmts hctx hto.1 hscope (hD.fit_nil t) closure.body) ?_
    intro u outcome hto' hends
    -- the outcome becomes a value again, for which a return is wrapped
    cases outcome with
    | ok value => exact .change (hD.to_refl hto'.1) (.inl (hD.fit_payload_payload hends))
    | error abrupt =>
      cases abrupt with
      | fault fault => exact .change (hD.to_refl hto'.1) (.inr rfl)
      | ret value =>
        have hwrapped := hD.newPending hto'.1 hends
        have hpayload : D.Fit (u.newPending value).2 value.payload :=
          hD.fit_mono hwrapped.2 (hD.fit_payload_payload hends)
        exact .change hwrapped (.inl hpayload)

/-- Whole programs keep to the rules. -/
theorem runProgram (hD : D.Lawful core) (hhost : D.HostObeys core host) (depth : Nat)
    (hs : D.Inv s) (hscope : D.FitScope s scope) (block : Block) :
    D.Keeps s (Machine.runProgram core host depth scope block) D.Answer := by
  have hctx : D.Context core ((Machine.evaluating core host depth).context depth) :=
    context (m := Machine.evaluating core host depth) hD hhost (hD.evaluator hhost depth) depth
  refine .bind hD (hD.stmts hctx hs hscope (hD.fit_nil s) block) fun t outcome hto hends => ?_
  refine .pure hD hto.1 ?_
  match outcome, hends with
  | .ok _, hfit => exact .inl hfit
  | .error (.ret _), hfit => exact .inl hfit
  | .error (.fault _), _ => exact .inr rfl

end Lawful

end Discipline

end ObjectModel
