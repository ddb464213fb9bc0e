/-!
# Version 5 syntax trees

The full language. Every node keeps the line of its first token (`0` when its production starts
with no token). A statement may be empty (a lone `;`), so statement positions hold
`Option Stmt`.

* Leaves (`Atom`) are integer, decimal and string literals and names.
* Indices and loop starts (`Index`) are a name or an integer literal; a loop end (`Bound`) may
  also be an arithmetic expression.
* Expressions cover arithmetic (`+ - * /`), element-wise operators (`.+ .- .* ./`), negation,
  transposition, parentheses, comparisons, assignments used as values, matrix literals of integer
  rows, the matrix functions `zeros`, `ones`, `eye` and element references.
* Assignments write a name, an element `A[i, j]` or `A[i]`, or a slice `A[b:e]`, `A[:e]`,
  `A[b:]`; compound assignments combine with `+ - * /`.
* A matrix row literal remembers where it stands in the source (`NumRow.origin`): the row is one
  list object for the whole run of a program, shared by every evaluation of the literal.
-/
namespace MatrixLang.Script

/-- A literal or a name. -/
inductive Atom where
  | int (value : Nat) (line : Nat)
  | float (value : Float) (line : Nat)
  | str (text : String) (line : Nat)
  | var (name : String) (line : Nat)
  deriving Inhabited

/-- An index: a name or an integer literal. -/
inductive Index where
  | name (id : String) (line : Nat)
  | lit (value : Nat) (line : Nat)
  deriving Inhabited

/-- An element reference `A[i, j]` or `A[i]`. -/
inductive Element where
  | pair (id : String) (row col : Index) (line : Nat)
  | single (id : String) (row : Index) (line : Nat)
  deriving Inhabited

/-- A slice `A[b:e]`, `A[:e]` or `A[b:]`. -/
inductive Slice where
  | both (id : String) (start stop : Index) (line : Nat)
  | upTo (id : String) (stop : Index) (line : Nat)
  | onwards (id : String) (start : Index) (line : Nat)
  deriving Inhabited

/-- What an assignment writes. -/
inductive Target where
  | var (name : String) (line : Nat)
  | element (r : Element)
  | slice (s : Slice)
  deriving Inhabited

/-- A row of integer literals, with the source offset of its first number. -/
structure NumRow where
  nums : List Nat
  line : Nat
  origin : Nat
  deriving Inhabited

/-- A matrix literal: rows of numbers, or a single row. -/
inductive Literal where
  | rows (rs : List NumRow) (line : Nat)
  | row (r : NumRow)
  deriving Inhabited

mutual
/-- Expressions. -/
inductive Expr where
  | atom (a : Atom)
  | assign (a : Assign)
  | relation (c : Compare)
  | matrixFun (name : String) (size : Nat) (line : Nat)
  | element (r : Element)
  | negate (e : Expr) (line : Nat)
  | literal (m : Literal) (line : Nat)
  | transpose (e : Expr) (line : Nat)
  | paren (e : Expr) (line : Nat)
  | arith (op : String) (left right : Expr) (line : Nat)
  | dotted (op : String) (left right : Expr) (line : Nat)

/-- Assignments: `=`, or a compound operator such as `+=`. -/
inductive Assign where
  | declare (target : Target) (value : Expr) (line : Nat)
  | update (op : String) (target : Target) (value : Expr) (line : Nat)

/-- A comparison. -/
inductive Compare where
  | mk (op : String) (left right : Expr) (line : Nat)
end

instance : Inhabited Expr := ⟨.atom default⟩
instance : Inhabited Compare := ⟨.mk "" default default 0⟩

/-- The end of a `for` range: an index or an arithmetic expression. -/
inductive Bound where
  | index (i : Index)
  | arith (op : String) (left right : Expr) (line : Nat)
  deriving Inhabited

/-- One item of a `print`: an expression, or an arithmetic operation on two. -/
inductive PrintItem where
  | value (e : Expr)
  | arith (op : String) (left right : Expr) (line : Nat)
  deriving Inhabited

/-- The items of a `print`, built from the left. -/
inductive Printed where
  | single (item : PrintItem)
  | more (rest : Printed) (item : PrintItem) (line : Nat)
  deriving Inhabited

/-- Statements. -/
inductive Stmt where
  | control (word : String) (line : Nat)
  | block (body : List (Option Stmt)) (line : Nat)
  | ifElse (cond : Compare) (yes no : Option Stmt) (line : Nat)
  | ifThen (cond : Compare) (yes : Option Stmt) (line : Nat)
  | whileLoop (cond : Compare) (body : Option Stmt) (line : Nat)
  | forLoop (var : String) (start : Index) (stop : Bound) (body : Option Stmt) (line : Nat)
  | assign (a : Assign)
  | print (items : Printed) (line : Nat)
  | ret (value : Expr) (line : Nat)
  deriving Inhabited

/-- A program: its statements, a lone `;` being an empty one. -/
abbrev Program := List (Option Stmt)

/-! ### Class names

Tools that report a missing field name the node by its class. -/

/-- The class name of a leaf. -/
def Atom.className : Atom → String
  | .int .. => "IntNum"
  | .float .. => "FloatNum"
  | .str .. => "String"
  | .var .. => "Variable"

/-- The class name of an expression. -/
def Expr.className : Expr → String
  | .atom _ => "Value"
  | .assign _ => "AssignExpression"
  | .relation _ => "RelationExpression"
  | .matrixFun .. => "MatrixExpression"
  | .element _ => "MatrixExpression"
  | .negate .. => "UnaryExpression"
  | .literal .. => "MatrixNode"
  | .transpose .. => "GeneralExpression"
  | .paren .. => "GeneralExpression"
  | .arith .. => "ArithNumExpr"
  | .dotted .. => "ArithMatExpr"

/-- The class name of an assignment target. -/
def Target.className : Target → String
  | .var .. => "Variable"
  | .element _ => "MatrixRef"
  | .slice _ => "TabRef"

/-- The line of a leaf. -/
def Atom.line : Atom → Nat
  | .int _ l | .float _ l | .str _ l | .var _ l => l

/-- The line of an index. -/
def Index.line : Index → Nat
  | .name _ l | .lit _ l => l

/-- The name an element reference reads. -/
def Element.id : Element → String
  | .pair id .. | .single id .. => id

/-- The name a slice reads. -/
def Slice.id : Slice → String
  | .both id .. | .upTo id .. | .onwards id .. => id

end MatrixLang.Script
