import ObjectModel.Expr
import ObjectModel.Text.Quoted

/-!
# Written form of program trees

Trees are shown as source text: parts of a list are separated by a comma and a blank, statements
by a line break, and a function literal puts its body on lines of its own.  A bare return and a
return of `nil` are written differently, and so are a send to `self` and a send without a
receiver.

A tree writes its parts one by one behind the text that is there already; wherever all the parts
are at hand as texts they are joined instead.

## Main definitions

* `commaSeparated`, `writeList` — the parts of a list, joined and written one by one.
* `Expr.render`, `Stmt.render`, `Block.render` — the text of an expression, a statement, a block.

## Main results

* `writeList_eq_intercalate` — both make the same text.
-/

namespace ObjectModel

/-- Parts separated by a comma and a blank. -/
def commaSeparated (parts : List String) : String := ", ".intercalate parts

/-- Writes a part behind a text, and a separator before it unless its position is the first. -/
def writePart (separator text : String) : String × Nat → String
  | (part, index) => (if 0 < index then text ++ separator else text) ++ part

/-- Writes parts one by one, each behind the text so far. -/
def writeList (separator : String) (parts : List String) : String :=
  parts.zipIdx.foldl (writePart separator) ""

/-- After the first part, every part is written behind a separator. -/
theorem writeList_cons (separator first : String) (parts : List String) :
    writeList separator (first :: parts) =
      parts.foldl (fun text part => text ++ separator ++ part) first := by
  have hfirst : writePart separator "" (first, 0) = first := String.empty_append
  have hrest (text : String) (start : Nat) :
      (parts.zipIdx (start + 1)).foldl (writePart separator) text =
        parts.foldl (fun text part => text ++ separator ++ part) text := by
    induction parts generalizing text start with
    | nil => rfl
    | cons part parts ih =>
      have hpart : writePart separator text (part, start + 1) = text ++ separator ++ part := rfl
      rw [List.zipIdx_cons, List.foldl_cons, List.foldl_cons, hpart, ih]
  rw [writeList, List.zipIdx_cons, List.foldl_cons, hfirst, hrest]

/-- **Written one by one or joined, it is the same text.** -/
theorem writeList_eq_intercalate (separator : String) (parts : List String) :
    writeList separator parts = separator.intercalate parts := by
  cases parts with
  | nil => rfl
  | cons first parts =>
    rw [writeList_cons]
    induction parts generalizing first with
    | nil => rw [List.foldl_nil, String.intercalate_singleton]
    | cons part parts ih =>
      rw [List.foldl_cons, ih, String.intercalate_cons_append, String.intercalate_cons_cons]

mutual

/-- The text of an expression. -/
def Expr.render : Expr → String
  | .ident name => name
  | .int value => value.toInt.repr
  | .str text => Quoted.quote text
  | .sym name => ":" ++ name
  | .bool value => if value then "true" else "false"
  | .nil => "nil"
  | .self => "self"
  | .ivar name => "@" ++ name
  | .assign target value => target.render ++ " = " ++ value.render
  | .send receiver method args =>
    receiver.render ++ "." ++ method ++ "(" ++ writeList ", " (renderExprs args) ++ ")"
  | .sendSelf method args => method ++ "(" ++ writeList ", " (renderExprs args) ++ ")"
  | .call callee args => callee.render ++ "(" ++ writeList ", " (renderExprs args) ++ ")"
  | .fn params body =>
    "fn(" ++ writeList ", " params ++ ") \x7b\n" ++ writeList "\n" (renderStmts body) ++ "\n\x7d"

/-- The texts of a list of expressions. -/
def renderExprs : List Expr → List String
  | [] => []
  | e :: es => e.render :: renderExprs es

/-- The text of a statement. -/
def Stmt.render : Stmt → String
  | .expr value => value.render
  | .ret value => "return " ++ value.render
  | .retNil => "return"

/-- The texts of a list of statements. -/
def renderStmts : List Stmt → List String
  | [] => []
  | s :: ss => s.render :: renderStmts ss

end

/-- The text of a block, one statement a line. -/
def Block.render (block : Block) : String := writeList "\n" (block.map Stmt.render)

theorem renderExprs_eq_map (es : List Expr) : renderExprs es = es.map Expr.render := by
  induction es with
  | nil => rfl
  | cons e es ih => rw [renderExprs, ih, List.map_cons]

theorem renderStmts_eq_map (ss : List Stmt) : renderStmts ss = ss.map Stmt.render := by
  induction ss with
  | nil => rfl
  | cons s ss ih => rw [renderStmts, ih, List.map_cons]

end ObjectModel
