import MatrixLang.Text.Dump
import MatrixLang.Text.Layout
import MatrixLang.Number.Shortest

/-!
# Version 3 syntax trees

Version 3 of the language builds a syntax tree without line numbers. Expressions are binary
operations, numbers, strings, names, element references with literal indices, matrix literals,
matrix functions, negation and transposition; instructions are assignments (plain or compound),
blocks, conditionals, loops, `break`, `continue`, `return` and `print`.

The tree has two views: `dump`, the record of each node's class and fields, and `layout`, the
indented outline printed for a program (see `MatrixLang.Layout`). In the outline a block is an
unlabelled group, so the statements of a nested block stand at the block's own indentation.
-/
namespace MatrixLang.Outline

/-- Expressions. -/
inductive Expr where
  | binary (op : String) (left right : Expr)
  | int (value : Nat)
  | float (value : Float)
  | str (text : String)
  | var (name : String)
  | vectorElement (name : String) (index : Nat)
  | matrixElement (name : String) (row col : Nat)
  | matrix (rows : List (List Expr))
  | matrixFunction (name : String) (size : Nat)
  | negate (e : Expr)
  | transpose (e : Expr)
  deriving Inhabited

/-- A comparison between two expressions. -/
structure Cond where
  op : String
  left : Expr
  right : Expr
  deriving Inhabited

/-- Instructions. -/
inductive Instr where
  | assign (op : String) (target value : Expr)
  | block (body : List Instr)
  | branch (cond : Cond) (yes : Instr) (no : Option Instr)
  | loop (cond : Cond) (body : Instr)
  | forRange (var : String) (start stop : Expr) (body : Instr)
  | brk
  | cont
  | ret (value : Expr)
  | print (values : List Expr)
  deriving Inhabited

/-- A program: its instructions. -/
structure Program where
  body : List Instr
  deriving Inhabited

/-! ### Record view -/

mutual
/-- The record view of an expression. -/
def Expr.dump : Expr → Dump
  | .binary op l r => .node "BinExpr" [("left", l.dump), ("op", .text op), ("right", r.dump)]
  | .int v => .node "IntNum" [("value", .int v)]
  | .float v => .node "FloatNum" [("value", .float v)]
  | .str t => .node "String" [("value", .text t)]
  | .var n => .node "Variable" [("name", .text n)]
  | .vectorElement n i => .node "VectorElement" [("index", .int i), ("name", .text n)]
  | .matrixElement n r c => .node "MatrixElement" [("col", .int c), ("name", .text n), ("row", .int r)]
  | .matrix rows => .node "Matrix" [("rows", .list (Expr.dumpRows rows))]
  | .matrixFunction n s => .node "MatrixFunction" [("name", .text n), ("size", .node "IntNum" [("value", .int s)])]
  | .negate e => .node "UnaryMinus" [("expr", e.dump)]
  | .transpose e => .node "Transposition" [("expr", e.dump)]

/-- The record views of a list of expressions. -/
def Expr.dumpAll : List Expr → List Dump
  | [] => []
  | e :: es => e.dump :: Expr.dumpAll es

/-- The record views of the rows of a matrix, each a vector node. -/
def Expr.dumpRows : List (List Expr) → List Dump
  | [] => []
  | r :: rs => .node "Vector" [("elements", .list (Expr.dumpAll r))] :: Expr.dumpRows rs
end

/-- The record view of a comparison. -/
def Cond.dump (c : Cond) : Dump :=
  .node "RelExpr" [("left", c.left.dump), ("op", .text c.op), ("right", c.right.dump)]

mutual
/-- The record view of an instruction. -/
def Instr.dump : Instr → Dump
  | .assign op t v => .node "Assignment" [("left", t.dump), ("op", .text op), ("right", v.dump)]
  | .block body => .node "Instructions" [("instructions", .list (Instr.dumpAll body))]
  | .branch c y n => .node "If" [("condition", c.dump), ("else_block", Instr.dumpOpt n), ("then_block", y.dump)]
  | .loop c b => .node "While" [("body", b.dump), ("condition", c.dump)]
  | .forRange v a b body => .node "For" [("body", body.dump),
      ("range", .node "Range" [("end", b.dump), ("start", a.dump)]),
      ("var", .node "Variable" [("name", .text v)])]
  | .brk => .node "Break" []
  | .cont => .node "Continue" []
  | .ret e => .node "Return" [("expr", e.dump)]
  | .print vs => .node "Print" [("values", .list (Expr.dumpAll vs))]

/-- The record views of a list of instructions. -/
def Instr.dumpAll : List Instr → List Dump
  | [] => []
  | i :: is => i.dump :: Instr.dumpAll is

/-- The record view of an optional instruction. -/
def Instr.dumpOpt : Option Instr → Dump
  | some i => i.dump
  | none => .none
end

/-- The record view of a program. -/
def Program.dump (p : Program) : Dump :=
  .node "Program" [("instructions", .node "Instructions" [("instructions", .list (Instr.dumpAll p.body))])]

/-! ### Outline -/

mutual
/-- The outline of an expression. -/
def Expr.layout : Expr → Layout
  | .binary op l r => .labelled op [l.layout, r.layout]
  | .int v => .leaf (toString v)
  | .float v => .leaf (Decimal.render v)
  | .str t => .leaf ("\"" ++ t ++ "\"")
  | .var n => .leaf n
  | .vectorElement n i => .labelled "REF" [.leaf n, .leaf (toString i)]
  | .matrixElement n r c => .labelled "REF" [.leaf n, .leaf (toString r), .leaf (toString c)]
  | .matrix rows => .labelled "VECTOR" (Expr.layoutRows rows)
  | .matrixFunction n s => .labelled n [.leaf (toString s)]
  | .negate e => .labelled "-" [e.layout]
  | .transpose e => .labelled "TRANSPOSE" [e.layout]

/-- The outlines of a list of expressions. -/
def Expr.layoutAll : List Expr → List Layout
  | [] => []
  | e :: es => e.layout :: Expr.layoutAll es

/-- The outlines of the rows of a matrix. -/
def Expr.layoutRows : List (List Expr) → List Layout
  | [] => []
  | r :: rs => .labelled "VECTOR" (Expr.layoutAll r) :: Expr.layoutRows rs
end

/-- The outline of a comparison. -/
def Cond.layout (c : Cond) : Layout := .labelled c.op [c.left.layout, c.right.layout]

mutual
/-- The outline of an instruction. -/
def Instr.layout : Instr → Layout
  | .assign op t v => .labelled op [t.layout, v.layout]
  | .block body => .group (Instr.layoutAll body)
  | .branch c y n => .labelled "IF" ([c.layout, .labelled "THEN" [y.layout]] ++ Instr.layoutElse n)
  | .loop c b => .labelled "WHILE" [c.layout, b.layout]
  | .forRange v a b body => .labelled "FOR" [.leaf v, .labelled "RANGE" [a.layout, b.layout], body.layout]
  | .brk => .leaf "BREAK"
  | .cont => .leaf "CONTINUE"
  | .ret e => .labelled "RETURN" [e.layout]
  | .print vs => .labelled "PRINT" (Expr.layoutAll vs)

/-- The outlines of a list of instructions. -/
def Instr.layoutAll : List Instr → List Layout
  | [] => []
  | i :: is => i.layout :: Instr.layoutAll is

/-- The `ELSE` part of a conditional, if it has one. -/
def Instr.layoutElse : Option Instr → List Layout
  | some i => [.labelled "ELSE" [i.layout]]
  | none => []
end

/-- The outline of a program. -/
def Program.layout (p : Program) : Layout := .group (Instr.layoutAll p.body)

/-- The printed outline of a program. -/
def Program.render (p : Program) : String := p.layout.render 0

end MatrixLang.Outline
