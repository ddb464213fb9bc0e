import MatrixLang.Text.Dump

/-!
# Version 4 syntax trees

Version 4 has the statements of version 5 with a smaller expression language: there are no
parentheses, `print` takes literals and names only, a `for` range runs between two indices, and
an element reference takes a list of indices. Decimal literals keep their text. Arithmetic,
element-wise operators, comparisons and compound assignments all build the same binary node.

Every node keeps the line of its first token, `0` when its production starts with no token. A
statement may be empty (a lone `;`), so statement positions hold `Option Stmt`. The record view
(`dump`) restores the wrapper nodes the trees leave out, which always stand on line `0`.
-/
namespace MatrixLang.Annotated

/-- A literal or a name. -/
inductive Atom where
  | int (value : Nat) (line : Nat)
  | float (text : String) (line : Nat)
  | str (text : String) (line : Nat)
  | var (name : String) (line : Nat)
  deriving Inhabited

/-- An index: a name or an integer literal. -/
inductive Index where
  | name (id : String) (line : Nat)
  | lit (value : Nat) (line : Nat)
  deriving Inhabited

/-- A slice `A[b:e]`, `A[:e]` or `A[b:]`. -/
inductive Slice where
  | both (id : String) (start stop : Index) (line : Nat)
  | upTo (id : String) (stop : Index) (line : Nat)
  | onwards (id : String) (start : Index) (line : Nat)
  deriving Inhabited

/-- What an assignment writes: a name, an element `A[i, …]` or a slice. -/
inductive Target where
  | var (name : String) (line : Nat)
  | element (id : String) (indices : List Index) (line : Nat)
  | slice (s : Slice)
  deriving Inhabited

/-- A row of integer literals. -/
structure NumRow where
  nums : List Nat
  line : Nat
  deriving Inhabited

/-- A matrix literal: rows of numbers, or a single row. -/
inductive Literal where
  | rows (rs : List NumRow) (line : Nat)
  | row (r : NumRow)
  deriving Inhabited

mutual
/-- Expressions. -/
inductive Expr where
  | atom (a : Atom)
  | assign (a : Assign)
  | relation (c : Compare)
  | matrixFun (name : String) (size : Nat) (line : Nat)
  | element (id : String) (indices : List Index) (line : Nat)
  | negate (e : Expr) (line : Nat)
  | literal (m : Literal) (line : Nat)
  | transpose (e : Expr) (line : Nat)
  | binary (op : String) (left right : Expr) (line : Nat)

/-- Assignments: `=`, or a compound operator such as `+=`. -/
inductive Assign where
  | declare (target : Target) (value : Expr) (line : Nat)
  | update (op : String) (target : Target) (value : Expr) (line : Nat)

/-- A comparison. -/
inductive Compare where
  | mk (op : String) (left right : Expr) (line : Nat)
end

instance : Inhabited Expr := ⟨.atom default⟩
instance : Inhabited Compare := ⟨.mk "" default default 0⟩

/-- The items of a `print`, built from the left. -/
inductive Printed where
  | single (item : Atom)
  | more (rest : Printed) (item : Atom) (line : Nat)
  deriving Inhabited

/-- Statements. -/
inductive Stmt where
  | control (word : String) (line : Nat)
  | block (body : List (Option Stmt)) (line : Nat)
  | ifElse (cond : Compare) (yes no : Option Stmt) (line : Nat)
  | ifThen (cond : Compare) (yes : Option Stmt) (line : Nat)
  | whileLoop (cond : Compare) (body : Option Stmt) (line : Nat)
  | forLoop (var : String) (start stop : Index) (body : Option Stmt) (line : Nat)
  | assign (a : Assign)
  | print (items : Printed) (line : Nat)
  | ret (value : Expr) (line : Nat)
  deriving Inhabited

/-- A program: its statements, a lone `;` being an empty one. -/
abbrev Program := List (Option Stmt)

/-- The class name of a leaf. -/
def Atom.className : Atom → String
  | .int .. => "IntNum"
  | .float .. => "FloatNum"
  | .str .. => "String"
  | .var .. => "Variable"

/-- The class name of an expression. -/
def Expr.className : Expr → String
  | .atom _ => "Value"
  | .assign _ => "AssignExpression"
  | .relation _ => "RelationExpression"
  | .matrixFun .. | .element .. => "MatrixExpression"
  | .negate .. => "UnaryExpression"
  | .literal .. => "MatrixNode"
  | .transpose .. => "GeneralExpression"
  | .binary .. => "BinExpr"

/-- The class name of an assignment target. -/
def Target.className : Target → String
  | .var .. => "Variable"
  | .element .. => "MatrixRef"
  | .slice _ => "TabRef"

/-! ### Record view -/

/-- A node with its fields and its line. -/
def node (cls : String) (fields : List (String × Dump)) (line : Nat) : Dump :=
  .node cls (fields ++ [("lineno", .int line)])

/-- The record view of a leaf. -/
def Atom.dump : Atom → Dump
  | .int v l => node "IntNum" [("value", .int v)] l
  | .float t l => node "FloatNum" [("value", .text t)] l
  | .str t l => node "String" [("value", .text t)] l
  | .var n l => node "Variable" [("name", .text n)] l

/-- The record view of an index. -/
def Index.dump : Index → Dump
  | .name n l => node "Variable" [("name", .text n)] l
  | .lit v l => node "IntNum" [("value", .int v)] l

/-- The record view of an element reference. -/
def elementDump (id : String) (indices : List Index) (line : Nat) : Dump :=
  node "IndexRef" [("id", .text id), ("index_list", .list (indices.map Index.dump))] line

/-- The record view of a slice. -/
def Slice.dump : Slice → Dump
  | .both id b e l => node "TabRefBoth" [("id", .text id), ("begin", b.dump), ("end", e.dump)] l
  | .upTo id e l => node "TabRefEnd" [("id", .text id), ("end", e.dump)] l
  | .onwards id b l => node "TabRefBegin" [("id", .text id), ("begin", b.dump)] l

/-- The record view of an assignment target. -/
def Target.dump : Target → Dump
  | .var n l => node "Variable" [("name", .text n)] l
  | .element id is l => node "MatrixRef" [("matrix_ref", elementDump id is l)] 0
  | .slice s => node "TabRef" [("tab_ref", s.dump)] 0

/-- The record view of a row of numbers. -/
def NumRow.dump (r : NumRow) : Dump :=
  node "NumLineNode" [("num_line", .list (r.nums.map fun (n : Nat) => Dump.int n))] r.line

/-- The record view of a matrix literal. -/
def Literal.dump : Literal → Dump
  | .rows rs l => node "MatrixRowsNode" [("rows", .list (rs.map NumRow.dump))] l
  | .row r => r.dump

mutual
/-- The record view of an expression. -/
def Expr.dump : Expr → Dump
  | .atom a => node "Value" [("val", a.dump)] 0
  | .assign a => node "AssignExpression" [("expression", a.dump)] 0
  | .relation c => node "RelationExpression" [("expression", c.dump)] 0
  | .matrixFun f n l =>
    node "MatrixExpression" [("expression", node "MatrixFuncs" [("fun", .text f), ("value", .int n)] l)] 0
  | .element id is l => node "MatrixExpression" [("expression", elementDump id is l)] 0
  | .negate e l => node "UnaryExpression" [("op", .text "-"), ("expression", e.dump)] l
  | .literal m l => node "MatrixNode" [("values", m.dump)] l
  | .transpose e l => node "GeneralExpression" [("expression", e.dump)] l
  | .binary op a b l => node "BinExpr" [("op", .text op), ("left", a.dump), ("right", b.dump)] l

/-- The record view of an assignment. -/
def Assign.dump : Assign → Dump
  | .declare t v l => node "DeclareExpr" [("op", .text "="), ("left", t.dump), ("right", v.dump)] l
  | .update op t v l => node "BinExpr" [("op", .text op), ("left", t.dump), ("right", v.dump)] l

/-- The record view of a comparison. -/
def Compare.dump : Compare → Dump
  | .mk op a b l => node "BinExpr" [("op", .text op), ("left", a.dump), ("right", b.dump)] l
end

/-- The record view of the items of a `print`. -/
def Printed.dump : Printed → Dump
  | .single a => node "Value" [("val", a.dump)] 0
  | .more rest a l => node "PrintRecursive" [("print_rec", rest.dump), ("val", a.dump)] l

/-- A statement in the wrapper of conditionals, loops, assignments and `print`. -/
def specific (d : Dump) : Dump := node "SpecificStmt" [("specific_stmt", d)] 0

mutual
/-- The record view of a statement. -/
def Stmt.dump : Stmt → Dump
  | .control w l => node "ControlStmt" [("control_stmt", .text w)] l
  | .block body l => node "StatementsSet" [("stmts", Stmt.dumpBlock body)] l
  | .ifElse c y n l => specific <|
    node "IfElseStmt" [("rel_expr", c.dump), ("if_stmt", Stmt.dumpOpt y), ("else_stmt", Stmt.dumpOpt n)] l
  | .ifThen c y l => specific <| node "IfStmt" [("rel_expr", c.dump), ("if_stmt", Stmt.dumpOpt y)] l
  | .whileLoop c b l =>
    specific <| node "WhileStmt" [("rel_expr", c.dump), ("while_stmt", Stmt.dumpOpt b)] l
  | .forLoop v a b body l => specific <|
    node "ForStmt" [("iter_variable", .text v), ("range_begin", a.dump), ("range_end", b.dump),
      ("for_stmt", Stmt.dumpOpt body)] l
  | .assign a => specific a.dump
  | .print items l => specific <| node "PrintStmt" [("print_stmt", items.dump)] l
  | .ret e l => node "ReturnExpression" [("expression", e.dump)] l

/-- The record view of a possibly empty statement. -/
def Stmt.dumpOpt : Option Stmt → Dump
  | some s => s.dump
  | none => .none

/-- The record views of a list of statements. -/
def Stmt.dumpAll : List (Option Stmt) → List Dump
  | [] => []
  | s :: ss => Stmt.dumpOpt s :: Stmt.dumpAll ss

/-- The record view of the statements of a program or block. -/
def Stmt.dumpBlock (ss : List (Option Stmt)) : Dump :=
  node "MultipleStmts" [("stmts", .list (Stmt.dumpAll ss))] 0
end

/-- The record view of a program. -/
def dumpProgram (p : Program) : Dump := Stmt.dumpBlock p

end MatrixLang.Annotated
