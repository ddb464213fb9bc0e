import MatrixLang.Script.Syntax
import MatrixLang.Text.Dump

/-!
# Record views of version 5 trees

Every node shows its class, its fields and its line. Some classes only wrap another node and
always stand on line `0`, their production starting with no token: a `Value` around a leaf or a
printed expression, the `AssignExpression`, `RelationExpression` and `MatrixExpression` that make
an assignment, a comparison or a matrix function or reference an expression, the `MatrixRef` and
`TabRef` that make a reference a target, the `SpecificStmt` around a conditional, a loop, an
assignment or a `print`, the `PrintExpr` that starts the items of a `print`, and the
`MultipleStmts` list of a program or block. The syntax trees leave these wrappers out; the
record view puts them back.
-/
namespace MatrixLang.Script

/-- A node with its fields and its line. -/
def node (cls : String) (fields : List (String × Dump)) (line : Nat) : Dump :=
  .node cls (fields ++ [("lineno", .int line)])

/-- The record view of a leaf. -/
def Atom.dump : Atom → Dump
  | .int v l => node "IntNum" [("value", .int v)] l
  | .float v l => node "FloatNum" [("value", .float v)] l
  | .str t l => node "String" [("value", .text t)] l
  | .var n l => node "Variable" [("name", .text n)] l

/-- The record view of an index. -/
def Index.dump : Index → Dump
  | .name n l => node "Variable" [("name", .text n)] l
  | .lit v l => node "IntNum" [("value", .int v)] l

/-- The record view of an element reference. -/
def Element.dump : Element → Dump
  | .pair id r c l => node "DoubleRef" [("id", .text id), ("row", r.dump), ("col", c.dump)] l
  | .single id r l => node "SingleRef" [("id", .text id), ("row", r.dump)] l

/-- The record view of a slice. -/
def Slice.dump : Slice → Dump
  | .both id b e l => node "TabRefBoth" [("id", .text id), ("begin", b.dump), ("end", e.dump)] l
  | .upTo id e l => node "TabRefEnd" [("id", .text id), ("end", e.dump)] l
  | .onwards id b l => node "TabRefBegin" [("id", .text id), ("begin", b.dump)] l

/-- The record view of an assignment target. -/
def Target.dump : Target → Dump
  | .var n l => node "Variable" [("name", .text n)] l
  | .element r => node "MatrixRef" [("matrix_ref", r.dump)] 0
  | .slice s => node "TabRef" [("tab_ref", s.dump)] 0

/-- The record view of a row of numbers. -/
def NumRow.dump (r : NumRow) : Dump :=
  node "NumLineNode" [("num_line", .list (r.nums.map fun (n : Nat) => Dump.int n))] r.line

/-- The record view of a matrix literal. -/
def Literal.dump : Literal → Dump
  | .rows rs l => node "MatrixRowsNode" [("rows", .list (rs.map NumRow.dump))] l
  | .row r => r.dump

mutual
/-- The record view of an expression. -/
def Expr.dump : Expr → Dump
  | .atom a => node "Value" [("val", a.dump)] 0
  | .assign a => node "AssignExpression" [("expression", a.dump)] 0
  | .relation c => node "RelationExpression" [("expression", c.dump)] 0
  | .matrixFun f n l =>
    node "MatrixExpression" [("expression", node "MatrixFuncs" [("fun", .text f), ("value", .int n)] l)] 0
  | .element r => node "MatrixExpression" [("expression", r.dump)] 0
  | .negate e l => node "UnaryExpression" [("op", .text "-"), ("expression", e.dump)] l
  | .literal m l => node "MatrixNode" [("values", m.dump)] l
  | .transpose e l => node "GeneralExpression" [("expression", e.dump), ("special_op", .text "'")] l
  | .paren e l => node "GeneralExpression" [("expression", e.dump), ("special_op", .text "()")] l
  | .arith op a b l => node "ArithNumExpr" [("op", .text op), ("left", a.dump), ("right", b.dump)] l
  | .dotted op a b l => node "ArithMatExpr" [("div_op", .text op), ("left", a.dump), ("right", b.dump)] l

/-- The record view of an assignment. -/
def Assign.dump : Assign → Dump
  | .declare t v l => node "DeclareExpr" [("op", .text "="), ("left", t.dump), ("right", v.dump)] l
  | .update op t v l =>
    node "UpdateExpr" [("assign_op", .text op), ("left", t.dump), ("right", v.dump)] l

/-- The record view of a comparison. -/
def Compare.dump : Compare → Dump
  | .mk op a b l => node "CompExpr" [("comp_op", .text op), ("left", a.dump), ("right", b.dump)] l
end

/-- The record view of the end of a range. -/
def Bound.dump : Bound → Dump
  | .index i => i.dump
  | .arith op a b l => node "ArithNumExpr" [("op", .text op), ("left", a.dump), ("right", b.dump)] l

/-- The record view of an item of a `print`. -/
def PrintItem.dump : PrintItem → Dump
  | .value e => node "Value" [("val", e.dump)] 0
  | .arith op a b l => node "ArithNumExpr" [("op", .text op), ("left", a.dump), ("right", b.dump)] l

/-- The record view of the items of a `print`. -/
def Printed.dump : Printed → Dump
  | .single i => node "PrintExpr" [("print_expr", i.dump)] 0
  | .more rest i l => node "PrintRecursive" [("print_rec", rest.dump), ("print_expr", i.dump)] l

/-- A statement in the wrapper of conditionals, loops, assignments and `print`. -/
def specific (d : Dump) : Dump := node "SpecificStmt" [("specific_stmt", d)] 0

mutual
/-- The record view of a statement. -/
def Stmt.dump : Stmt → Dump
  | .control w l => node "ControlStmt" [("control_stmt", .text w)] l
  | .block body l => node "StatementsSet" [("stmts", Stmt.dumpBlock body)] l
  | .ifElse c y n l => specific <|
    node "IfElseStmt" [("rel_expr", c.dump), ("if_stmt", Stmt.dumpOpt y), ("else_stmt", Stmt.dumpOpt n)] l
  | .ifThen c y l => specific <| node "IfStmt" [("rel_expr", c.dump), ("if_stmt", Stmt.dumpOpt y)] l
  | .whileLoop c b l =>
    specific <| node "WhileStmt" [("rel_expr", c.dump), ("while_stmt", Stmt.dumpOpt b)] l
  | .forLoop v a b body l => specific <|
    node "ForStmt" [("iter_variable", .text v), ("range_begin", a.dump), ("range_end", b.dump),
      ("for_stmt", Stmt.dumpOpt body)] l
  | .assign a => specific a.dump
  | .print items l => specific <| node "PrintStmt" [("print_stmt", items.dump)] l
  | .ret e l => node "ReturnExpression" [("expression", e.dump)] l

/-- The record view of a possibly empty statement. -/
def Stmt.dumpOpt : Option Stmt → Dump
  | some s => s.dump
  | none => .none

/-- The record views of a list of statements. -/
def Stmt.dumpAll : List (Option Stmt) → List Dump
  | [] => []
  | s :: ss => Stmt.dumpOpt s :: Stmt.dumpAll ss

/-- The record view of the statements of a program or block. -/
def Stmt.dumpBlock (ss : List (Option Stmt)) : Dump :=
  node "MultipleStmts" [("stmts", .list (Stmt.dumpAll ss))] 0
end

/-- The record view of a program. -/
def dumpProgram (p : Program) : Dump := Stmt.dumpBlock p

end MatrixLang.Script
