import ObjectModel.Run.Machine
import ObjectModel.Run.Outcome
import ObjectModel.Scope.Function

/-!
# Evaluation of program trees

The meaning of expressions, statements and blocks in a scope.  Evaluation goes from left to right
and stops at the first early end; whatever an expression comes to is checked for being an event in
flight, so no expression ever has an event for its value.

## Main definitions

* `Eval` — evaluations.
* `Expr.eval`, `Expr.evalAll`, `Stmt.eval`, `Block.eval` — the meaning of trees.
* `evaluator` — the evaluator as a `BodyRunner`, for calls that nest so deep and no deeper.
* `Machine.evaluating`, `Machine.runProgram` — a machine with this evaluator, and a whole program.

## Main results

* `Expr.eval_fn` — the rule for function literals.
-/

namespace ObjectModel

/-- An evaluation: an action that may end early. -/
abbrev Eval := ExceptT Abrupt Action

/-- Ends early if the value is an event in flight. -/
def Eval.settle (value : Value) : Eval Value := ExceptT.mk (pure (Outcome.ofValue value))

/-- The meaning of a name: a variable, a core class, or the answer of `self` to it. -/
def evalIdent (ctx : NativeContext) (scope : ScopeRef) (name : String) : Action Value := do
  let s ← get
  match s.valueOf? scope name with
  | some value => return value
  | none =>
    match ctx.core.find? name with
    | some c => return .cls c
    | none => ctx.send (s.selfValue scope) name []

/-- The value of an instance variable of `self`; `nil` if it is not set or `self` is no object. -/
def evalIvar (scope : ScopeRef) (name : String) : Action Value := do
  let s ← get
  match s.selfValue scope with
  | .object ref => return (s.ivar? ref name).getD .nil
  | _ => return .nil

/-- Assigns a value to a variable or an instance variable. -/
def assignTo (scope : ScopeRef) (target : Expr) (value : Value) : Eval Unit := do
  match target with
  | .ident name => modify fun s => s.assign scope name value
  | .ivar name =>
    match (← get).selfValue scope with
    | .object ref => modify fun s => s.setIvar ref name value
    | _ => throw (.fault .ivarOutsideObject)
  | target => throw (.fault (.notAssignable target.render))

/-- Makes the value of a function literal. -/
def evalFn (scope : ScopeRef) (params : List String) (body : Block) : Eval Value := do
  let made ← (Action.attempt fun s => s.makeFunction params body scope : Action _)
  match made with
  | .ok closure => return .function closure
  | .error cause => throw (.fault (.malformed cause))

mutual

/-- The value of an expression. -/
def Expr.eval (ctx : NativeContext) (scope : ScopeRef) : Expr → Eval Value
  | .int value => return .int value
  | .str text => (modifyGet fun s => s.newString text : Action Value)
  | .sym name => return .symbol name
  | .bool value => return .bool value
  | .nil => return .nil
  | .self => do Eval.settle ((← get).selfValue scope)
  | .ident name => do Eval.settle (← evalIdent ctx scope name)
  | .ivar name => do Eval.settle (← evalIvar scope name)
  | .assign target value => do
    let value ← Expr.eval ctx scope value
    assignTo scope target value
    return value
  | .send receiver method args => do
    let receiver ← Expr.eval ctx scope receiver
    let args ← Expr.evalAll ctx scope args
    Eval.settle (← ctx.send receiver method args)
  | .sendSelf method args => do
    let receiver := (← get).selfValue scope
    let args ← Expr.evalAll ctx scope args
    Eval.settle (← ctx.send receiver method args)
  | .call callee args => do
    let callee ← Expr.eval ctx scope callee
    let args ← Expr.evalAll ctx scope args
    Eval.settle (← ctx.call callee args)
  | .fn params body => evalFn scope params body

/-- The values of arguments, from left to right. -/
def Expr.evalAll (ctx : NativeContext) (scope : ScopeRef) : List Expr → Eval (List Value)
  | [] => return []
  | arg :: args => do
    let value ← Expr.eval ctx scope arg
    let values ← Expr.evalAll ctx scope args
    return value :: values

end

/-- A function literal is the function that is made of its parts, or fails as that is refused. -/
theorem Expr.eval_fn (ctx : NativeContext) (scope : ScopeRef) (params : List String) (body : Block)
    (s : Store) : Expr.eval ctx scope (.fn params body) s =
      match s.makeFunction params body scope with
      | .ok (closure, t) => some (.ok (.function closure), t)
      | .error cause => some (.error (.fault (.malformed cause)), s) := by
  rw [Expr.eval, evalFn]
  change Option.bind (Option.bind (Action.attempt _ s) _) _ = _
  rw [Action.attempt]
  cases s.makeFunction params body scope <;> rfl

/-- The value of a statement.  A return ends the block. -/
def Stmt.eval (ctx : NativeContext) (scope : ScopeRef) : Stmt → Eval Value
  | .expr value => Expr.eval ctx scope value
  | .ret value => do throw (.ret (← Expr.eval ctx scope value))
  | .retNil => throw (.ret .nil)

/-- The value of the last of some statements, and `last` if there are none. -/
def Stmt.evalAll (ctx : NativeContext) (scope : ScopeRef) (last : Value) : List Stmt → Eval Value
  | [] => return last
  | stmt :: stmts => do
    let value ← Stmt.eval ctx scope stmt
    Stmt.evalAll ctx scope value stmts

/-- The value of a block, which is that of its last statement; `nil` for an empty block. -/
def Block.eval (ctx : NativeContext) (scope : ScopeRef) (block : Block) : Eval Value :=
  Stmt.evalAll ctx scope .nil block

/-- Runs bodies by evaluating them in a scope of their own, where calls nest at most `depth`
deep.  A return out of the body comes back as an early return in flight. -/
def evaluator (core : Core) (host : Host) : Nat → BodyRunner
  | 0 => fun _ _ _ => .exhausted
  | depth + 1 => fun closure receiver? args => do
    let machine : Machine := ⟨core, host, evaluator core host depth⟩
    let scope ← modifyGet fun s => s.enter closure receiver? args
    let outcome ← (Block.eval (machine.context (depth + 1)) scope closure.body).run
    modifyGet fun s => s.outcomeValue outcome

namespace Machine

/-- The machine that evaluates bodies where calls nest at most `depth` deep. -/
def evaluating (core : Core) (host : Host) (depth : Nat) : Machine :=
  ⟨core, host, evaluator core host depth⟩

/-- Runs a block as a whole program, in a given scope. -/
def runProgram (core : Core) (host : Host) (depth : Nat) (scope : ScopeRef) (block : Block) :
    Action Value := do
  let ctx := (evaluating core host depth).context depth
  return Outcome.result (← (Block.eval ctx scope block).run)

end Machine

end ObjectModel
