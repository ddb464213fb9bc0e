import MatrixLang.Script.Syntax
import MatrixLang.Script.Fault
import MatrixLang.Text.Dump

/-!
# The version 5 checker

The checker walks a program once, keeping a stack of scopes of symbols and a list of error
messages. An expression has a type (`int`, `float`, `string`, `vector` or `logic`) or none when
it cannot be typed; an operation whose operand types the operator table does not list is an
error. Assigning to a name declares it in the innermost scope: a matrix literal, a matrix
function or a copy of a known matrix gives a matrix symbol with its size, anything else a
symbol of the value's type (nothing, when the value has no type).

`break` and `continue` must stand in a loop and `return` in a block. Element references
check their indices against the size of the matrix they read, which needs the indices to be
literals: a name as an index stops the checker. The checker also stops on an empty statement
(a lone `;`) where it expects one, and when an element-wise operation on two matrices, or a
copy, names something that is not a plain variable.
-/
namespace MatrixLang

/-- A scope of a checker: its name and the symbols declared in it, the latest first. Both
checkers keep a chain of such scopes, innermost first, each of its own kind of symbols. -/
structure Scope (σ : Type) where
  name : String
  symbols : List (String × σ) := []
  deriving Inhabited

end MatrixLang

namespace MatrixLang.Script

/-- The types of the checker. -/
inductive Ty where
  | int
  | float
  | string
  | vector
  | logic
  deriving DecidableEq, Repr, Inhabited

namespace Ty

/-- The name of a type. -/
def name : Ty → String
  | .int => "int"
  | .float => "float"
  | .string => "string"
  | .vector => "vector"
  | .logic => "logic"

/-- The name of a possible type, `None` for none. -/
def label : Option Ty → String
  | some t => t.name
  | none => "None"

/-- Whether a type is a number type. -/
def isNumber : Ty → Bool
  | .int | .float => true
  | _ => false

/-- The element-wise operators. -/
def elementwise : List String := [".+", ".-", ".*", "./"]

/-- The comparison operators. -/
def comparisons : List String := ["<", ">", "<=", ">=", "==", "!="]

/-- The type of a binary operation, as the operator table gives it. The table also serves
negation, as `-` with no second operand; so a subtraction whose right operand has no type takes
the type of its left operand when that is a number or a vector. -/
def binary (op : String) : Option Ty → Option Ty → Option Ty
  | some a, some b =>
    if a.isNumber && b.isNumber then
      if ["+", "-", "*", "+=", "-=", "*="].contains op then
        some (if a == .int && b == .int then .int else .float)
      else if ["/", "/="].contains op then some .float
      else if comparisons.contains op then some .logic
      else none
    else if a == .vector && b == .vector then
      if (["+=", "-=", "*=", "/="] ++ elementwise).contains op then some .vector else none
    else if (a == .vector && b.isNumber) || (a.isNumber && b == .vector) then
      if elementwise.contains op then some .vector else none
    else if a == .string && b == .string && op == "+" then some .string
    else if ((a == .string && b == .int) || (a == .int && b == .string)) && op == "*" then some .string
    else none
  | some a, none => if op == "-" && (a.isNumber || a == .vector) then some a else none
  | none, _ => none

/-- The type of a negation: the entry of `-` with no second operand. -/
def negate (t : Option Ty) : Option Ty := binary "-" t none

end Ty

/-- A symbol: a scalar of a type, or a matrix with its size and number of dimensions. -/
inductive Symbol where
  | scalar (name : String) (ty : Ty)
  | matrix (name : String) (rows cols dimension : Nat)
  deriving Inhabited

/-- The type of a symbol. -/
def Symbol.ty : Symbol → Ty
  | .scalar _ t => t
  | .matrix .. => .vector

/-- The record view of a symbol. -/
def Symbol.dump : Symbol → Dump
  | .scalar n t => .node "VariableSymbol" [("name", .text n), ("type", .text t.name)]
  | .matrix n r c d =>
    .node "VectorSymbol" [("name", .text n), ("size", .list [.int r, .int c]), ("type", .text "vector"),
      ("dimension", .int d)]

/-- The state of the checker: the scopes, innermost first, and the errors found so far. -/
structure Checker where
  scopes : List (Scope Symbol) := [{ name := "root" }]
  errors : Array String := #[]
  deriving Inhabited

namespace Checker

/-- The symbol a name stands for in the innermost scope that has it. -/
def lookup (c : Checker) (name : String) : Option Symbol :=
  c.scopes.findSome? fun s => s.symbols.lookup name

/-- Declares a symbol in the innermost scope, replacing one of the same name. -/
def put (c : Checker) (name : String) (sym : Symbol) : Checker :=
  match c.scopes with
  | s :: rest => { c with scopes := { s with symbols := (name, sym) :: s.symbols.filter (·.1 ≠ name) } :: rest }
  | [] => c

/-- Opens a scope. -/
def push (c : Checker) (name : String) : Checker := { c with scopes := { name } :: c.scopes }

/-- Closes the innermost scope. -/
def pop (c : Checker) : Checker := { c with scopes := c.scopes.drop 1 }

/-- Whether one of the open scopes has one of the names. -/
def within (c : Checker) (names : List String) : Bool := c.scopes.any fun s => names.contains s.name

/-- The name of the innermost scope. -/
def scopeName (c : Checker) : String := (c.scopes.head?.map (·.name)).getD ""

/-- The symbols of the outermost scope. -/
def globals (c : Checker) : List (String × Symbol) := (c.scopes.getLast?.map (·.symbols)).getD []

end Checker

/-- A step of the checker: it may stop on an error, keeping the state it had then. -/
abbrev Check := EStateM Error Checker

namespace Check

/-- Records an error on a line. -/
def flag (line : Nat) (text : String) : Check Unit :=
  modify fun c => { c with errors := c.errors.push s!"Błąd w linii {line}: {text}" }

/-- The type of a name, reporting it when it is unknown. -/
def typeOf (name : String) (line : Nat) : Check (Option Ty) := do
  match (← get).lookup name with
  | some s => pure (some s.ty)
  | none =>
    flag line s!"nie rozpoznano zmiennej `{name}`!"
    pure none

/-- Runs a step in a new scope. -/
def inScope {α : Type} (name : String) (body : Check α) : Check α := do
  modify (·.push name)
  let r ← body
  modify (·.pop)
  pure r

/-- Reports the statement `word` as misplaced unless one of the open scopes has one of the
names. -/
def requireScope (names : List String) (line : Nat) (word : String) : Check Unit := do
  if !(← get).within names then flag line s!"`{word}` w złym miejscu!"

/-- The operation reported when its operand types do not fit. -/
def operation (op : String) (line : Nat) (a b : Option Ty) : Check (Option Ty) :=
  match Ty.binary op a b with
  | some t => pure (some t)
  | none => do
    flag line s!"działanie na niekompatybilnych typach danych: {Ty.label a} i {Ty.label b}!"
    pure none

/-- The matrix an element reference or slice reads, reporting a name that is not one. -/
def matrixNamed (id : String) (line : Nat) : Check (Option (Nat × Nat × Nat)) := do
  match (← get).lookup id with
  | none =>
    flag line s!"nie rozpoznano zmiennej `{id}`!"
    pure none
  | some (.scalar ..) =>
    flag line "zły typ zmiennej!"
    pure none
  | some (.matrix _ r c d) => pure (some (r, c, d))

end Check

open Check

/-- The type of a leaf. -/
def Atom.check : Atom → Check (Option Ty)
  | .int .. => pure (some .int)
  | .float .. => pure (some .float)
  | .str .. => pure (some .string)
  | .var n l => typeOf n l

/-- The type of an index. -/
def Index.check : Index → Check (Option Ty)
  | .lit .. => pure (some .int)
  | .name n l => typeOf n l

/-- The literal value of an index; a name has none, which stops the checker. -/
def Index.literal : Index → Check Nat
  | .lit v _ => pure v
  | .name .. => throw (.attribute "Variable" "value")

/-- The type of an element reference. -/
def Element.check : Element → Check (Option Ty)
  | .pair id r c l => do
    let _ ← r.check
    let _ ← c.check
    match ← matrixNamed id l with
    | none => pure none
    | some (rows, cols, dim) =>
      if dim < 2 then
        flag l "za dużo argumentów!"
        pure none
      else if (← r.literal) ≥ rows then
        flag l "zły wymiar macierzy!"
        pure none
      else if (← c.literal) ≥ cols then
        flag l "zły wymiar macierzy!"
        pure none
      else pure (some .int)
  | .single id r l => do
    let _ ← r.check
    match ← matrixNamed id l with
    | none => pure none
    | some (rows, _, _) =>
      if (← r.literal) ≥ rows then
        flag l "zły wymiar macierzy!"
        pure none
      else pure (some .vector)

/-- The type of a slice. -/
def Slice.check : Slice → Check (Option Ty)
  | .both id b e l => do
    let _ ← b.check
    let _ ← e.check
    match ← matrixNamed id l with
    | none => pure none
    | some (rows, _, _) =>
      if (← e.literal) > rows then
        flag l "zły wymiar tablicy!"
        pure none
      else if (← b.literal) > (← e.literal) then
        flag l "zły wymiar tablicy!"
        pure none
      else pure (some .vector)
  | .upTo id e l => do
    let _ ← e.check
    match ← matrixNamed id l with
    | none => pure none
    | some (rows, _, _) =>
      if (← e.literal) > rows then
        flag l "zły wymiar tablicy!"
        pure none
      else pure (some .vector)
  | .onwards id b l => do
    let _ ← b.check
    match ← matrixNamed id l with
    | none => pure none
    | some (rows, _, _) =>
      if (← b.literal) > rows then
        flag l "zły wymiar tablicy!"
        pure none
      else pure (some .vector)

/-- The type of an assignment target: that of a name; a reference as a target has none. -/
def Target.check : Target → Check (Option Ty)
  | .var n l => typeOf n l
  | .element r => do
    let _ ← r.check
    pure none
  | .slice s => do
    let _ ← s.check
    pure none

/-- The variable an expression names, when it is a plain variable; the field the checker
misses otherwise. -/
def Expr.variableName : Expr → Check String
  | .atom (.var n _) => pure n
  | .atom a => throw (.attribute a.className "name")
  | e => throw (.attribute e.className "val")

/-- The variable a matrix operand names: through a transposition or parentheses, if any. -/
def Expr.operandName : Expr → Check String
  | .transpose e _ | .paren e _ => e.variableName
  | e => e.variableName

/-- The size and number of dimensions of the matrix a name stands for. -/
def matrixShape (name : String) : Check ((Nat × Nat) × Nat) := do
  match (← get).lookup name with
  | some (.matrix _ r c d) => pure ((r, c), d)
  | some (.scalar ..) => throw (.attribute "VariableSymbol" "size")
  | none => throw (.attribute "NoneType" "size")

/-- The type of an element-wise operation on operands of types `ta` and `tb`: that of the
operator table, and for two matrices only when the sizes recorded for them fit the operator. -/
def Expr.dottedType (op : String) (l : Nat) (a b : Expr) (ta tb : Option Ty) : Check (Option Ty) := do
  match ← operation op l ta tb with
  | none => pure none
  | some t =>
    if ta == some .vector && tb == some .vector then
      let n1 ← a.operandName
      let n2 ← b.operandName
      let (s1, d1) ← matrixShape n1
      let (s2, d2) ← matrixShape n2
      if (s1 != s2 || d1 != d2) && [".+", ".-", "./"].contains op then
        flag l s!"nie można wykonywać operacji `{op}` na macierzach o różnych wymiarach!"
        pure none
      else if s1.2 != s2.1 && op == ".*" then
        flag l s!"nie można wykonywać operacji `{op}` na macierzach o niekompatybilnych wymiarach!"
        pure none
      else pure (some t)
    else pure (some t)

/-- What assigning a value of type `ty` to a name declares: a type, a size and a number of
dimensions. A matrix literal, a matrix function or a copy of a matrix gives its size; a matrix
literal whose rows differ in length declares nothing and is an error. -/
def Expr.shape (ty : Option Ty) (l : Nat) : Expr → Check (Option (Option Ty × (Nat × Nat) × Nat))
  | .literal (.rows rs _) _ =>
    let width := (rs.head?.map (·.nums.length)).getD 0
    if rs.any (·.nums.length != width) then do
      flag l "różne długości wierszy w macierzy!"
      pure none
    else pure (some (some .vector, (rs.length, width), 2))
  | .literal (.row r) _ => pure (some (some .vector, (r.nums.length, 1), 1))
  | .matrixFun _ n _ => pure (some (some .vector, (n, n), 2))
  | .transpose x _ | .paren x _ => do
    match (← get).lookup (← x.variableName) with
    | some (.matrix _ r c d) => pure (some (some .vector, (r, c), d))
    | some (.scalar ..) => throw (.attribute "VariableSymbol" "size")
    | none => pure (some (ty, (0, 0), 0))
  | _ => pure (some (ty, (0, 0), 0))

/-- Declares a name with a shape: a matrix symbol for a matrix, a symbol of its type for
anything else that has a type, nothing otherwise. -/
def declareShape (name : String) : Option (Option Ty × (Nat × Nat) × Nat) → Check Unit
  | some (some .vector, (r, c), d) => modify (·.put name (.matrix name r c d))
  | some (some t, _, _) => modify (·.put name (.scalar name t))
  | _ => pure ()

mutual
/-- The type of an expression. -/
def Expr.check : Expr → Check (Option Ty)
  | .atom a => a.check
  | .assign a => do
    a.check
    pure none
  | .relation c => c.check
  | .matrixFun .. => pure (some .vector)
  | .element r => r.check
  | .negate e _ => do
    let t ← e.check
    pure (Ty.negate t)
  | .literal .. => pure none
  | .transpose e _ => e.check
  | .paren e _ => e.check
  | .arith op a b l => do
    let ta ← a.check
    let tb ← b.check
    operation op l ta tb
  | .dotted op a b l => do
    let ta ← a.check
    let tb ← b.check
    Expr.dottedType op l a b ta tb

/-- Checks an assignment, declaring the name it assigns. -/
def Assign.check : Assign → Check Unit
  | .declare t v l => do
    let ty ← v.check
    match t with
    | .element r => do
      let _ ← r.check
      pure ()
    | .slice s => do
      let _ ← s.check
      pure ()
    | .var name _ => do
      let shape ← v.shape ty l
      declareShape name shape
  | .update op t v l => do
    let t1 ← t.check
    let t2 ← v.check
    let _ ← operation op l t1 t2
    pure ()

/-- The type of a comparison. -/
def Compare.check : Compare → Check (Option Ty)
  | .mk op a b l => do
    let ta ← a.check
    let tb ← b.check
    operation op l ta tb
end

/-- The type of the end of a range. -/
def Bound.check : Bound → Check (Option Ty)
  | .index i => i.check
  | .arith op a b l => do
    let ta ← a.check
    let tb ← b.check
    operation op l ta tb

/-- Checks an item of a `print`. -/
def PrintItem.check : PrintItem → Check Unit
  | .value e => do
    let _ ← e.check
    pure ()
  | .arith op a b l => do
    let ta ← a.check
    let tb ← b.check
    let _ ← operation op l ta tb
    pure ()

/-- Checks the items of a `print`. -/
def Printed.check : Printed → Check Unit
  | .single i => i.check
  | .more rest i _ => do
    rest.check
    i.check

mutual
/-- Checks a statement. -/
def Stmt.check : Stmt → Check Unit
  | .control w l => requireScope ["for_stmt", "while_stmt"] l w
  | .block body _ => inScope "stmts_set" (Stmt.checkAll body)
  | .ifElse c y n _ => do
    let _ ← c.check
    inScope "if_stmt" (Stmt.checkOpt y)
    inScope "else_stmt" (Stmt.checkOpt n)
  | .ifThen c y _ => do
    let _ ← c.check
    inScope "if_stmt" (Stmt.checkOpt y)
  | .whileLoop c b _ => do
    let _ ← c.check
    inScope "while_stmt" (Stmt.checkOpt b)
  | .forLoop v a b body _ => inScope "for_stmt" do
    modify (·.put v (.scalar v .int))
    let _ ← a.check
    let _ ← b.check
    Stmt.checkOpt body
  | .assign a => a.check
  | .print items _ => items.check
  | .ret e l => do
    requireScope ["stmts_set"] l "return"
    let _ ← e.check
    pure ()

/-- Checks a possibly empty statement; an empty one stops the checker. -/
def Stmt.checkOpt : Option Stmt → Check Unit
  | some s => s.check
  | none => throw (.attribute "NoneType" "children")

/-- Checks statements in order. -/
def Stmt.checkAll : List (Option Stmt) → Check Unit
  | [] => pure ()
  | s :: ss => do
    Stmt.checkOpt s
    Stmt.checkAll ss
end

/-- Checks a program from the empty state: the final state, or the error that stopped the
checker and the state it had then. -/
def Program.check (p : Program) : Except (Error × Checker) Checker :=
  match (Stmt.checkAll p).run {} with
  | .ok _ c => .ok c
  | .error f c => .error (f, c)

end MatrixLang.Script
