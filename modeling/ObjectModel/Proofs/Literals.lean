import Mathlib.Logic.Relation
import ObjectModel.Proofs.Growth
import ObjectModel.Run.Evaluator

/-!
# Literals print like their values

A program tree and a value are written by two different rules.  A tree writes itself part by part,
whatever it is a tree of; a value joins the texts of what it shows, and a function shows what is
kept of the tree that it was made from.  For a literal the two agree: what is printed for its value
is the literal as it stands in the program.  So a function prints as the code it came from, and the
text of each literal in that code is found again inside.

A function literal is one only if its parameters are pairwise distinct, for otherwise it has no
value.  Its body is not looked at.

## Main definitions

* `Expr.IsLiteral` — literals.
* `Store.Denotes` — a value is what a literal stands for.
* `Expr.children`, `Expr.Occurs` — what an expression is made of.

## Main results

* `Closure.inspect_eq_render` — a function shows the literal that it was made from.
* `Expr.eval_literal`, `Store.Denotes.inspect_eq` — a literal has the value that it stands for, and
  this is shown as the literal is written.
* `Expr.Occurs.within` — an expression is written out wherever it occurs.
* `Expr.literal_prints_alike` — trees and values print alike.
-/

namespace ObjectModel

variable {s t : Store} {scope : ScopeRef} {L inner outer : Expr} {value : Value}

/-- An expression that is the written form of a value: a number, a string, a symbol, a truth value,
`nil`, or a function with pairwise distinct parameters. -/
def Expr.IsLiteral : Expr → Prop
  | .int _ | .str _ | .sym _ | .bool _ | .nil => True
  | .fn params _ => params.Nodup
  | _ => False

/-! ### What literals stand for -/

/-- A value is what a literal stands for in a scope. -/
inductive Store.Denotes (s : Store) (scope : ScopeRef) : Expr → Value → Prop
  | int (n : Int64) : Denotes s scope (.int n) (.int n)
  | str {ref : StringRef} (hin : ref.index < s.strings.size) :
      Denotes s scope (.str (s.text ref)) (.string ref)
  | sym (name : String) : Denotes s scope (.sym name) (.symbol name)
  | bool (b : Bool) : Denotes s scope (.bool b) (.bool b)
  | nil : Denotes s scope .nil .nil
  | fn {closure : Closure} (hscope : closure.scope = scope) :
      Denotes s scope (.fn closure.params closure.body) (.function closure)

namespace Store.Denotes

/-- What it stands for is no event. -/
theorem inFlight (h : s.Denotes scope L value) : value.inFlight = false := by
  cases h <;> rfl

/-- Nothing that happens later makes it stand for anything else. -/
theorem grows (h : s.Denotes scope L value) (hgrows : s.Grows t) : t.Denotes scope L value := by
  cases h with
  | int n => exact .int n
  | @str ref hin =>
    have htext : s.text ref = t.text ref := hgrows.strings.read hin
    rw [htext]
    exact .str (Nat.lt_of_lt_of_le hin hgrows.strings.size_le)
  | sym name => exact .sym name
  | bool b => exact .bool b
  | nil => exact .nil
  | fn hscope => exact .fn hscope

end Store.Denotes

/-- **A literal has the value that it stands for**, in every scope and every store. -/
theorem Expr.eval_literal (hL : L.IsLiteral) (ctx : NativeContext) (scope : ScopeRef) (s : Store) :
    ∃ value t, Expr.eval ctx scope L s = some (.ok value, t) ∧ t.Denotes scope L value := by
  cases L with
  | int n => exact ⟨.int n, s, rfl, .int n⟩
  | str text =>
    have htext : (s.newString text).2.text s.strings.next = text := s.strings.read_add_next text
    have hin : s.strings.next.index < (s.newString text).2.strings.size :=
      s.strings.next_lt_size_add text
    have hdenotes : (s.newString text).2.Denotes scope
        (.str ((s.newString text).2.text s.strings.next)) (.string s.strings.next) := .str hin
    rw [htext] at hdenotes
    exact ⟨.string s.strings.next, (s.newString text).2, rfl, hdenotes⟩
  | sym name => exact ⟨.symbol name, s, rfl, .sym name⟩
  | bool b => exact ⟨.bool b, s, rfl, .bool b⟩
  | nil => exact ⟨.nil, s, rfl, .nil⟩
  | fn params body =>
    have hmade : s.makeFunction params body scope = .ok (s.newClosure params body scope) :=
      Store.makeFunction_eq_ok_iff.2 ⟨hL, rfl⟩
    let closure := (s.newClosure params body scope).1
    have hdenotes : (s.newClosure params body scope).2.Denotes scope
        (.fn closure.params closure.body) (.function closure) := .fn rfl
    refine ⟨.function closure, (s.newClosure params body scope).2, ?_, hdenotes⟩
    rw [Expr.eval_fn, hmade]
  | _ => cases hL

/-! ### How they are shown -/

/-- **A function shows the literal that it was made from.** -/
theorem Closure.inspect_eq_render (closure : Closure) :
    closure.inspect = (Expr.fn closure.params closure.body).render := by
  rw [inspect, Expr.render, commaSeparated, Block.render, renderStmts_eq_map,
    writeList_eq_intercalate ", "]

/-- What a literal stands for is shown as the literal is written. -/
theorem Store.Denotes.inspect_eq (h : s.Denotes scope L value) : s.inspect value = L.render := by
  rw [inspect]
  cases h with
  | fn => rw [inspectFrom, Closure.inspect_eq_render]
  | _ => rw [inspectFrom, Expr.render]

/-! ### Literals inside literals -/

/-- One text stands somewhere in another. -/
def Within (part text : String) : Prop := ∃ before after, text = before ++ part ++ after

namespace Within

variable {part text : String}

theorem refl (text : String) : Within text text := by
  refine ⟨"", "", ?_⟩
  rw [String.empty_append, String.append_empty]

theorem prepend (h : Within part text) (before : String) : Within part (before ++ text) := by
  obtain ⟨left, right, rfl⟩ := h
  refine ⟨before ++ left, right, ?_⟩
  simp only [String.append_assoc]

theorem append (h : Within part text) (after : String) : Within part (text ++ after) := by
  obtain ⟨left, right, rfl⟩ := h
  refine ⟨left, right ++ after, ?_⟩
  simp only [String.append_assoc]

theorem trans {inside : String} (h : Within inside part) (h' : Within part text) :
    Within inside text := by
  obtain ⟨left, right, rfl⟩ := h'
  exact (h.prepend left).append right

/-- Each part of a list is written out in it. -/
theorem writeList {parts : List String} (h : part ∈ parts) (separator : String) :
    Within part (writeList separator parts) := by
  rw [writeList_eq_intercalate]
  induction parts with
  | nil => cases h
  | cons first parts ih =>
    cases parts with
    | nil =>
      rw [String.intercalate_singleton, List.mem_singleton.1 h]
      exact .refl _
    | cons second parts =>
      rw [String.intercalate_cons_cons]
      rcases List.mem_cons.1 h with rfl | h
      · exact ((Within.refl part).append separator).append _
      · exact (ih h).prepend _

end Within

/-- The expression in a statement, if there is one. -/
def Stmt.expr? : Stmt → Option Expr
  | .expr e | .ret e => some e
  | .retNil => none

/-- The expressions that an expression is written with. -/
def Expr.children : Expr → List Expr
  | .assign target value => [target, value]
  | .send receiver _ args => receiver :: args
  | .sendSelf _ args => args
  | .call callee args => callee :: args
  | .fn _ body => body.filterMap Stmt.expr?
  | _ => []

/-- One expression occurs in another, at any depth. -/
def Expr.Occurs (inner outer : Expr) : Prop :=
  Relation.ReflTransGen (fun outer inner => inner ∈ outer.children) outer inner

/-- An expression is written out in its statement. -/
theorem Stmt.within_of_expr? {statement : Stmt} (h : statement.expr? = some inner) :
    Within inner.render statement.render := by
  cases statement with
  | expr e =>
    cases h
    exact .refl _
  | ret e =>
    cases h
    exact (Within.refl _).prepend "return "
  | retNil => cases h

theorem Expr.within_of_mem_children (h : inner ∈ outer.children) :
    Within inner.render outer.render := by
  -- an argument stands in the list of all arguments
  have hargs {args : List Expr} (hmem : inner ∈ args) :
      Within inner.render (writeList ", " (renderExprs args)) := by
    rw [renderExprs_eq_map]
    exact .writeList (List.mem_map_of_mem hmem) ", "
  cases outer with
  | assign target value =>
    rw [render]
    rcases List.mem_cons.1 h with rfl | h
    · exact ((Within.refl _).append " = ").append _
    · rw [List.mem_singleton.1 h]
      exact (Within.refl _).prepend _
  | send receiver method args =>
    rw [render]
    rcases List.mem_cons.1 h with rfl | h
    · apply Within.append
      apply Within.append
      apply Within.append
      apply Within.append
      exact (Within.refl _).append "."
    · exact ((hargs h).prepend _).append ")"
  | sendSelf method args =>
    rw [render]
    exact ((hargs h).prepend _).append ")"
  | call callee args =>
    rw [render]
    rcases List.mem_cons.1 h with rfl | h
    · apply Within.append
      apply Within.append
      exact (Within.refl _).append "("
    · exact ((hargs h).prepend _).append ")"
  | fn params body =>
    obtain ⟨statement, hmem, hinner⟩ := List.mem_filterMap.1 h
    have hline : Within statement.render (writeList "\n" (body.map Stmt.render)) :=
      .writeList (List.mem_map_of_mem hmem) "\n"
    rw [render, renderStmts_eq_map]
    exact (((Stmt.within_of_expr? hinner).trans hline).prepend _).append _
  | _ => cases h

/-- **An expression is written out wherever it occurs.** -/
theorem Expr.Occurs.within (h : inner.Occurs outer) : Within inner.render outer.render := by
  induction h with
  | refl => exact .refl _
  | tail _ hchild ih => exact (within_of_mem_children hchild).trans ih

/-! ### Trees and values -/

/-- **Trees and values print alike.**  A literal that is evaluated, in whatever scope and store, has
a value which is no event, and the value is shown as the literal is written; so it is in every later
store.  For a function literal the value is a function of its parameters and its body, over the
scope, and the text is that of the function.  In the text of a literal, and so in that of its value,
stands the text of the value of every literal that occurs in it, wherever that one is evaluated. -/
theorem Expr.literal_prints_alike (hL : L.IsLiteral) (ctx : NativeContext) (scope : ScopeRef)
    (s : Store) :
    ∃ value t, Expr.eval ctx scope L s = some (.ok value, t) ∧ value.inFlight = false ∧
      t.inspect value = L.render ∧ (∀ u, t.Grows u → u.inspect value = L.render) ∧
      (∀ params body, L = .fn params body → ∃ closure, value = .function closure ∧
        closure.params = params ∧ closure.body = body ∧ closure.scope = scope ∧
        closure.inspect = L.render) ∧
      ∀ inner, inner.IsLiteral → inner.Occurs L → ∀ ctx' scope' s',
        ∃ value' t', Expr.eval ctx' scope' inner s' = some (.ok value', t') ∧
          Within (t'.inspect value') (t.inspect value) := by
  obtain ⟨value, t, heval, hdenotes⟩ := eval_literal hL ctx scope s
  have hshown : t.inspect value = L.render := hdenotes.inspect_eq
  refine ⟨value, t, heval, hdenotes.inFlight, hshown, ?_, ?_, ?_⟩
  · intro u hgrows
    exact (hdenotes.grows hgrows).inspect_eq
  · rintro params body rfl
    cases hdenotes with
    | @fn closure hscope => exact ⟨closure, rfl, rfl, rfl, hscope, closure.inspect_eq_render⟩
  · intro inner hinner hoccurs ctx' scope' s'
    obtain ⟨value', t', heval', hdenotes'⟩ := eval_literal hinner ctx' scope' s'
    refine ⟨value', t', heval', ?_⟩
    rw [hdenotes'.inspect_eq, hshown]
    exact hoccurs.within

/-- A function that makes a function, which quotes a text. -/
def Expr.quotingInside : Expr :=
  .fn ["x", "y"] [.expr (.assign (.ident "f") (.fn ["z"] [.ret (.str "say \"hi\"")])), .retNil]

/-- It prints as it stands there, with the text of the inner function and the quoted text in it. -/
theorem literal_prints_alike_quotingInside :
    Expr.quotingInside.IsLiteral ∧ ∀ ctx scope s,
      ∃ closure t, Expr.eval ctx scope .quotingInside s = some (.ok (.function closure), t) ∧
        t.inspect (.function closure) =
          "fn(x, y) \x7b\nf = fn(z) \x7b\nreturn \"say \\\"hi\\\"\"\n\x7d\nreturn\n\x7d" := by
  have hL : Expr.quotingInside.IsLiteral := by
    show ["x", "y"].Nodup
    decide
  refine ⟨hL, fun ctx scope s => ?_⟩
  obtain ⟨value, t, heval, -, hshown, -, hfunction, -⟩ :=
    Expr.literal_prints_alike hL ctx scope s
  obtain ⟨closure, rfl, -⟩ := hfunction _ _ rfl
  refine ⟨closure, t, heval, ?_⟩
  rw [hshown]
  decide +kernel

end ObjectModel
