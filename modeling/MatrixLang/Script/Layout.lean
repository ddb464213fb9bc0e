import MatrixLang.Script.Syntax
import MatrixLang.Text.Layout
import MatrixLang.Number.Shortest

/-!
# Outlines of version 5 trees

The outline of a version 5 program. Operators label their operands, references are `REF`
nodes, matrix literals are `VECTOR` nodes, and the wrappers of the record view disappear; a
block is an unlabelled group. A parenthesized expression is shown as its content.

An empty statement (a lone `;`) has no outline, so a program holding one anywhere has none
either: `Program.layout` is then `none`.
-/
namespace MatrixLang.Script

open Layout (leaf labelled group)

/-- The outline of a leaf. -/
def Atom.layout : Atom → Layout
  | .int v _ => leaf (toString v)
  | .float v _ => leaf (Decimal.render v)
  | .str t _ => leaf t
  | .var n _ => leaf n

/-- The outline of an index. -/
def Index.layout : Index → Layout
  | .name n _ => leaf n
  | .lit v _ => leaf (toString v)

/-- The outline of an element reference. -/
def Element.layout : Element → Layout
  | .pair id r c _ => labelled "REF" [leaf id, r.layout, c.layout]
  | .single id r _ => labelled "REF" [leaf id, r.layout]

/-- The outline of a slice. -/
def Slice.layout : Slice → Layout
  | .both id b e _ => labelled "REF" [leaf id, b.layout, leaf ":", e.layout]
  | .upTo id e _ => labelled "REF" [leaf id, leaf ":", e.layout]
  | .onwards id b _ => labelled "REF" [leaf id, b.layout, leaf ":"]

/-- The outline of an assignment target. -/
def Target.layout : Target → Layout
  | .var n _ => leaf n
  | .element r => r.layout
  | .slice s => s.layout

/-- The outline of a row of numbers. -/
def NumRow.layout (r : NumRow) : Layout := labelled "VECTOR" (r.nums.map fun n => leaf (toString n))

/-- The outline of a matrix literal. -/
def Literal.layout : Literal → Layout
  | .rows rs _ => labelled "VECTOR" (rs.map NumRow.layout)
  | .row r => r.layout

mutual
/-- The outline of an expression. -/
def Expr.layout : Expr → Layout
  | .atom a => a.layout
  | .assign a => a.layout
  | .relation c => c.layout
  | .matrixFun f n _ => labelled f [leaf (toString n)]
  | .element r => r.layout
  | .negate e _ => labelled "-" [e.layout]
  | .literal m _ => m.layout
  | .transpose e _ => labelled "TRANSPOSE" [e.layout]
  | .paren e _ => e.layout
  | .arith op a b _ => labelled op [a.layout, b.layout]
  | .dotted op a b _ => labelled op [a.layout, b.layout]

/-- The outline of an assignment. -/
def Assign.layout : Assign → Layout
  | .declare t v _ => labelled "=" [t.layout, v.layout]
  | .update op t v _ => labelled op [t.layout, v.layout]

/-- The outline of a comparison. -/
def Compare.layout : Compare → Layout
  | .mk op a b _ => labelled op [a.layout, b.layout]
end

/-- The outline of the end of a range. -/
def Bound.layout : Bound → Layout
  | .index i => i.layout
  | .arith op a b _ => labelled op [a.layout, b.layout]

/-- The outline of an item of a `print`. -/
def PrintItem.layout : PrintItem → Layout
  | .value e => e.layout
  | .arith op a b _ => labelled op [a.layout, b.layout]

/-- The outline of the items of a `print`. -/
def Printed.layout : Printed → Layout
  | .single i => i.layout
  | .more rest i _ => labelled "PRINT_ELEM" [rest.layout, i.layout]

mutual
/-- The outline of a statement, if it holds no empty statement. -/
def Stmt.layout : Stmt → Option Layout
  | .control w _ => some (leaf w.toUpper)
  | .block body _ => Stmt.layoutBlock body
  | .ifElse c y n _ => do
    let y ← Stmt.layoutOpt y
    let n ← Stmt.layoutOpt n
    pure (labelled "IF" [c.layout, labelled "THEN" [y], labelled "ELSE" [n]])
  | .ifThen c y _ => do
    let y ← Stmt.layoutOpt y
    pure (labelled "IF" [c.layout, labelled "THEN" [y]])
  | .whileLoop c b _ => do
    let b ← Stmt.layoutOpt b
    pure (labelled "WHILE" [c.layout, b])
  | .forLoop v a b body _ => do
    let body ← Stmt.layoutOpt body
    pure (labelled "FOR" [leaf v, labelled "RANGE" [a.layout, b.layout], body])
  | .assign a => some a.layout
  | .print items _ => some (labelled "PRINT" [items.layout])
  | .ret e _ => some (labelled "RETURN" [e.layout])

/-- The outline of a possibly empty statement: none for an empty one. -/
def Stmt.layoutOpt : Option Stmt → Option Layout
  | some s => s.layout
  | none => none

/-- The outlines of a list of statements, if none is empty. -/
def Stmt.layoutAll : List (Option Stmt) → Option (List Layout)
  | [] => some []
  | s :: ss => do
    let l ← Stmt.layoutOpt s
    let ls ← Stmt.layoutAll ss
    pure (l :: ls)

/-- The outline of the statements of a program or block: an unlabelled group. -/
def Stmt.layoutBlock (ss : List (Option Stmt)) : Option Layout :=
  (Stmt.layoutAll ss).map group
end

/-- The outline of a program, if it holds no empty statement. -/
def Program.layout (p : Program) : Option Layout := Stmt.layoutBlock p

/-- The printed outline of a program, if it holds no empty statement. -/
def Program.render (p : Program) : Option String := (Program.layout p).map (·.render 0)

end MatrixLang.Script
