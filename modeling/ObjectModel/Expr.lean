/-!
# Program trees

Method bodies, blocks and closures are trees of expressions and statements.  A tree is plain data:
it holds no values and no references, so two trees are the same exactly when they are equal, and
that is decided by walking both at once.

## Main definitions

* `Expr`, `Stmt`, `Block` — expressions, statements, and sequences of statements.
* `Expr.same`, `Stmt.same` — the comparison behind `DecidableEq`.

## Main results

* `Expr.same_iff`, `Stmt.same_iff` — the comparison answers equality.
-/

namespace ObjectModel

mutual

/-- An expression. -/
inductive Expr where
  /-- A name: a variable, a core class, or a send to `self`. -/
  | ident (name : String)
  | int (value : Int64)
  | str (text : String)
  /-- A symbol, without its leading colon. -/
  | sym (name : String)
  | bool (value : Bool)
  | nil
  /-- The current receiver. -/
  | self
  /-- An instance variable, without its leading `@`. -/
  | ivar (name : String)
  | assign (target value : Expr)
  /-- A message to the value of `receiver`. -/
  | send (receiver : Expr) (method : String) (args : List Expr)
  /-- A message to the current receiver, which is not written. -/
  | sendSelf (method : String) (args : List Expr)
  /-- A direct call of a function value. -/
  | call (callee : Expr) (args : List Expr)
  | fn (params : List String) (body : List Stmt)

/-- A statement. -/
inductive Stmt where
  | expr (value : Expr)
  | ret (value : Expr)
  /-- A return without a value, which returns `nil`. -/
  | retNil

end

instance : Inhabited Expr := ⟨.nil⟩

instance : Inhabited Stmt := ⟨.retNil⟩

/-- The body of a method or a function: statements in order. -/
abbrev Block := List Stmt

/-! ### Comparison -/

mutual

/-- Whether two expressions are the same tree. -/
def Expr.same : Expr → Expr → Bool
  | .ident a, .ident b => a == b
  | .int a, .int b => a == b
  | .str a, .str b => a == b
  | .sym a, .sym b => a == b
  | .bool a, .bool b => a == b
  | .nil, .nil => true
  | .self, .self => true
  | .ivar a, .ivar b => a == b
  | .assign a v, .assign b w => a.same b && v.same w
  | .send r m as, .send s n bs => r.same s && m == n && sameExprs as bs
  | .sendSelf m as, .sendSelf n bs => m == n && sameExprs as bs
  | .call f as, .call g bs => f.same g && sameExprs as bs
  | .fn ps b, .fn qs c => ps == qs && sameBlock b c
  | _, _ => false

/-- Whether two lists of expressions are the same, one by one. -/
def sameExprs : List Expr → List Expr → Bool
  | [], [] => true
  | a :: as, b :: bs => a.same b && sameExprs as bs
  | _, _ => false

/-- Whether two statements are the same tree. -/
def Stmt.same : Stmt → Stmt → Bool
  | .expr a, .expr b => a.same b
  | .ret a, .ret b => a.same b
  | .retNil, .retNil => true
  | _, _ => false

/-- Whether two blocks are the same, statement by statement. -/
def sameBlock : List Stmt → List Stmt → Bool
  | [], [] => true
  | a :: as, b :: bs => a.same b && sameBlock as bs
  | _, _ => false

end

mutual

theorem Expr.same_iff : ∀ a b : Expr, a.same b = true ↔ a = b
  | .ident a, b => by cases b <;> simp [Expr.same]
  | .int a, b => by cases b <;> simp [Expr.same]
  | .str a, b => by cases b <;> simp [Expr.same]
  | .sym a, b => by cases b <;> simp [Expr.same]
  | .bool a, b => by cases b <;> simp [Expr.same]
  | .nil, b => by cases b <;> simp [Expr.same]
  | .self, b => by cases b <;> simp [Expr.same]
  | .ivar a, b => by cases b <;> simp [Expr.same]
  | .assign a v, b => by cases b <;> simp [Expr.same, Expr.same_iff a, Expr.same_iff v]
  | .send r m as, b => by
    cases b <;> simp [Expr.same, Expr.same_iff r, sameExprs_iff as, and_assoc]
  | .sendSelf m as, b => by cases b <;> simp [Expr.same, sameExprs_iff as]
  | .call f as, b => by cases b <;> simp [Expr.same, Expr.same_iff f, sameExprs_iff as]
  | .fn ps s, b => by cases b <;> simp [Expr.same, sameBlock_iff s]

theorem sameExprs_iff : ∀ as bs : List Expr, sameExprs as bs = true ↔ as = bs
  | [], bs => by cases bs <;> simp [sameExprs]
  | a :: as, bs => by cases bs <;> simp [sameExprs, Expr.same_iff a, sameExprs_iff as]

theorem Stmt.same_iff : ∀ a b : Stmt, a.same b = true ↔ a = b
  | .expr a, b => by cases b <;> simp [Stmt.same, Expr.same_iff a]
  | .ret a, b => by cases b <;> simp [Stmt.same, Expr.same_iff a]
  | .retNil, b => by cases b <;> simp [Stmt.same]

theorem sameBlock_iff : ∀ as bs : List Stmt, sameBlock as bs = true ↔ as = bs
  | [], bs => by cases bs <;> simp [sameBlock]
  | a :: as, bs => by cases bs <;> simp [sameBlock, Stmt.same_iff a, sameBlock_iff as]

end

instance : DecidableEq Expr := fun a b => decidable_of_iff _ (Expr.same_iff a b)

instance : DecidableEq Stmt := fun a b => decidable_of_iff _ (Stmt.same_iff a b)

end ObjectModel
