import MatrixLang.Annotated.Syntax
import MatrixLang.Script.Check
import MatrixLang.Console

/-!
# The version 4 checker

The checker of version 4 works like that of version 5 (see `MatrixLang.Script.Check`), with
these differences:

* it prints its error messages on the standard output as it finds them, and keeps in its list
  of errors only a marker `Temp` for each matrix function applied to `0`;
* a matrix symbol has one size, the length of its rows (or of its single row);
* `+ - * /` also apply to two matrices, and an element-wise operation, `+` or `-` on two
  matrices of different sizes is an error;
* an element reference may not have more indices than its matrix has dimensions, and each
  index must be below the size.
-/
namespace MatrixLang.Annotated

open Script (Ty Error)

/-- The type of a binary operation in version 4. -/
def binaryType (op : String) (a b : Option Ty) : Option Ty :=
  if a == some .vector && b == some .vector && ["+", "-", "*", "/"].contains op then some .vector
  else Ty.binary op a b

/-- A symbol: a scalar of a type, or a matrix with its size and number of dimensions. -/
inductive Symbol where
  | scalar (name : String) (ty : Ty)
  | matrix (name : String) (size dimension : Nat)
  deriving Inhabited

/-- The type of a symbol. -/
def Symbol.ty : Symbol → Ty
  | .scalar _ t => t
  | .matrix .. => .vector

/-- The record view of a symbol. -/
def Symbol.dump : Symbol → Dump
  | .scalar n t => .node "VariableSymbol" [("name", .text n), ("type", .text t.name)]
  | .matrix n s d =>
    .node "VectorSymbol" [("name", .text n), ("size", .int s), ("type", .text "vector"), ("dimension", .int d)]

/-- The state of the checker: the scopes, innermost first, the error markers and the console. -/
structure Checker where
  scopes : List (Scope Symbol) := [{ name := "root" }]
  errors : Array String := #[]
  console : Console := {}
  deriving Inhabited

namespace Checker

/-- The symbol a name stands for in the innermost scope that has it. -/
def lookup (c : Checker) (name : String) : Option Symbol :=
  c.scopes.findSome? fun s => s.symbols.lookup name

/-- Declares a symbol in the innermost scope, replacing one of the same name. -/
def put (c : Checker) (name : String) (sym : Symbol) : Checker :=
  match c.scopes with
  | s :: rest => { c with scopes := { s with symbols := (name, sym) :: s.symbols.filter (·.1 ≠ name) } :: rest }
  | [] => c

/-- Whether one of the open scopes has one of the names. -/
def within (c : Checker) (names : List String) : Bool := c.scopes.any fun s => names.contains s.name

/-- The name of the innermost scope. -/
def scopeName (c : Checker) : String := (c.scopes.head?.map (·.name)).getD ""

/-- The symbols of the outermost scope. -/
def globals (c : Checker) : List (String × Symbol) := (c.scopes.getLast?.map (·.symbols)).getD []

end Checker

/-- A step of the checker: it may stop on an error, keeping the state it had then. -/
abbrev Check := EStateM Error Checker

namespace Check

/-- Prints an error on a line. -/
def flag (line : Nat) (text : String) : Check Unit :=
  modify fun c => { c with console := c.console.printLine s!"Błąd w linii {line}: {text}" }

/-- The type of a name, reporting it when it is unknown. -/
def typeOf (name : String) (line : Nat) : Check (Option Ty) := do
  match (← get).lookup name with
  | some s => pure (some s.ty)
  | none =>
    flag line s!"nie rozpoznano zmiennej `{name}`!"
    pure none

/-- Runs a step in a new scope. -/
def inScope {α : Type} (name : String) (body : Check α) : Check α := do
  modify fun c => { c with scopes := { name } :: c.scopes }
  let r ← body
  modify fun c => { c with scopes := c.scopes.drop 1 }
  pure r

/-- The matrix a reference or slice reads, reporting a name that is not one. -/
def matrixNamed (id : String) (line : Nat) : Check (Option (Nat × Nat)) := do
  match (← get).lookup id with
  | none =>
    flag line s!"nie rozpoznano zmiennej `{id}`!"
    pure none
  | some (.scalar ..) =>
    flag line "zły typ zmiennej!"
    pure none
  | some (.matrix _ s d) => pure (some (s, d))

end Check

open Check

/-- The type of a leaf. -/
def Atom.check : Atom → Check (Option Ty)
  | .int .. => pure (some .int)
  | .float .. => pure (some .float)
  | .str .. => pure (some .string)
  | .var n l => typeOf n l

/-- The type of an index. -/
def Index.check : Index → Check (Option Ty)
  | .lit .. => pure (some .int)
  | .name n l => typeOf n l

/-- The literal value of an index; a name has none, which stops the checker. -/
def Index.literal : Index → Check Nat
  | .lit v _ => pure v
  | .name .. => throw (.attribute "Variable" "value")

/-- Whether every index is below the size; the first that is not is reported. -/
def indicesBelow (size line : Nat) : List Index → Check Bool
  | [] => pure true
  | i :: is => do
    if (← i.literal) ≥ size then
      flag line "zły wymiar macierzy!"
      pure false
    else indicesBelow size line is

/-- The type of an element reference. -/
def elementCheck (id : String) (indices : List Index) (line : Nat) : Check (Option Ty) := do
  for i in indices do
    let _ ← i.check
  match ← matrixNamed id line with
  | none => pure none
  | some (size, dim) =>
    if indices.length > dim then
      flag line "za dużo indeksów jest!"
      pure none
    else if ← indicesBelow size line indices then
      pure (some (if indices.length == dim then .int else .vector))
    else pure none

/-- The type of a slice. -/
def Slice.check : Slice → Check (Option Ty)
  | .both id b e l => do
    let _ ← b.check
    let _ ← e.check
    match ← matrixNamed id l with
    | none => pure none
    | some (size, _) =>
      if (← e.literal) ≥ size then
        flag l "zły wymiar tablicy!"
        pure none
      else if (← b.literal) > (← e.literal) then
        flag l "zły wymiar tablicy!"
        pure none
      else pure (some .vector)
  | .upTo id e l => do
    let _ ← e.check
    match ← matrixNamed id l with
    | none => pure none
    | some (size, _) =>
      if (← e.literal) ≥ size then
        flag l "zły wymiar tablicy!"
        pure none
      else pure (some .vector)
  | .onwards id b l => do
    let _ ← b.check
    match ← matrixNamed id l with
    | none => pure none
    | some (size, _) =>
      if (← b.literal) ≥ size then
        flag l "zły wymiar tablicy!"
        pure none
      else pure (some .vector)

/-- The type of an assignment target: that of a name; a reference as a target has none. -/
def Target.check : Target → Check (Option Ty)
  | .var n l => typeOf n l
  | .element id is l => do
    let _ ← elementCheck id is l
    pure none
  | .slice s => do
    let _ ← s.check
    pure none

/-- The variable an expression names, when it is a plain variable; the field the checker
misses otherwise. -/
def Expr.variableName : Expr → Check String
  | .atom (.var n _) => pure n
  | .atom a => throw (.attribute a.className "name")
  | e => throw (.attribute e.className "val")

/-- The variable a matrix operand names: through a transposition, if any. -/
def Expr.operandName : Expr → Check String
  | .transpose e _ => e.variableName
  | e => e.variableName

/-- The size and number of dimensions of the matrix a name stands for. -/
def matrixShape (name : String) : Check (Nat × Nat) := do
  match (← get).lookup name with
  | some (.matrix _ s d) => pure (s, d)
  | some (.scalar ..) => throw (.attribute "VariableSymbol" "size")
  | none => throw (.attribute "NoneType" "size")

/-- The operators whose operands must be matrices of one size. -/
def sameSizeOperators : List String := [".+", ".-", ".*", "./", "+", "-"]

/-- The type of a binary node whose operands have types `ta` and `tb`; `names` gives the
variables the operands name, needed when both are matrices. -/
def binaryCheck (op : String) (line : Nat) (ta tb : Option Ty) (names : Check (String × String)) :
    Check (Option Ty) := do
  match binaryType op ta tb with
  | none =>
    flag line s!"działanie na niekompatybilnych typach danych: {Ty.label ta} i {Ty.label tb}!"
    pure none
  | some t =>
    if ta == some .vector && tb == some .vector then
      let (n1, n2) ← names
      let m1 ← matrixShape n1
      let m2 ← matrixShape n2
      if m1 != m2 && sameSizeOperators.contains op then
        flag line s!"nie można wykonywać operacji `{op}` na macierzach o różnych wymiarach!"
        pure none
      else pure (some t)
    else pure (some t)

/-- The matrix function error, for a size of `0`. -/
def matrixFunctionCheck (name : String) (size line : Nat) : Check (Option Ty) := do
  if size == 0 then
    modify fun c => { c with errors := c.errors.push "Temp" }
    flag line s!"argument dla funkcji `{name}` mniejszy lub równy zero!"
    pure none
  else pure (some .vector)

mutual
/-- The type of an expression. -/
def Expr.check : Expr → Check (Option Ty)
  | .atom a => a.check
  | .assign a => do
    a.check
    pure none
  | .relation c => c.check
  | .matrixFun f n l => matrixFunctionCheck f n l
  | .element id is l => elementCheck id is l
  | .negate e _ => do
    let t ← e.check
    pure (Ty.negate t)
  | .literal .. => pure none
  | .transpose e _ => e.check
  | .binary op a b l => do
    let ta ← a.check
    let tb ← b.check
    binaryCheck op l ta tb (do
      let n1 ← a.operandName
      let n2 ← b.operandName
      pure (n1, n2))

/-- Checks an assignment, declaring the name it assigns. -/
def Assign.check : Assign → Check Unit
  | .declare t v l => do
    let ty ← v.check
    match t with
    | .element .. | .slice _ => do
      let _ ← t.check
      pure ()
    | .var name _ =>
      let shape : Option (Option Ty × Nat × Nat) ← match v with
        | .literal (.rows rs _) _ =>
          let width := (rs.head?.map (·.nums.length)).getD 0
          if rs.any (·.nums.length != width) then
            flag l "różne długości wierszy w macierzy!"
            pure none
          else pure (some (some .vector, width, 2))
        | .literal (.row r) _ => pure (some (some .vector, r.nums.length, 1))
        | .matrixFun _ n _ => pure (if n == 0 then none else some (some .vector, n, 2))
        | .transpose x _ => do
          match (← get).lookup (← x.variableName) with
          | some (.matrix _ s d) => pure (some (some .vector, s, d))
          | some (.scalar ..) => throw (.attribute "VariableSymbol" "size")
          | none => pure (some (ty, 0, 0))
        | _ => pure (some (ty, 0, 0))
      match shape with
      | some (some .vector, s, d) => modify (·.put name (.matrix name s d))
      | some (some t, _, _) => modify (·.put name (.scalar name t))
      | _ => pure ()
  | .update op t v l => do
    let t1 ← t.check
    let t2 ← v.check
    let _ ← binaryCheck op l t1 t2 (throw (.attribute t.className "val"))
    pure ()

/-- The type of a comparison. -/
def Compare.check : Compare → Check (Option Ty)
  | .mk op a b l => do
    let ta ← a.check
    let tb ← b.check
    binaryCheck op l ta tb (do
      let n1 ← a.operandName
      let n2 ← b.operandName
      pure (n1, n2))
end

/-- Checks the items of a `print`. -/
def Printed.check : Printed → Check Unit
  | .single a => do
    let _ ← a.check
    pure ()
  | .more rest a _ => do
    rest.check
    let _ ← a.check
    pure ()

mutual
/-- Checks a statement. -/
def Stmt.check : Stmt → Check Unit
  | .control w l => do
    if !(← get).within ["for_stmt", "while_stmt"] then
      flag l s!"`{w}` w złym miejscu!"
  | .block body _ => inScope "stmts_set" (Stmt.checkAll body)
  | .ifElse c y n _ => do
    let _ ← c.check
    inScope "if_stmt" (Stmt.checkOpt y)
    inScope "else_stmt" (Stmt.checkOpt n)
  | .ifThen c y _ => do
    let _ ← c.check
    inScope "if_stmt" (Stmt.checkOpt y)
  | .whileLoop c b _ => do
    let _ ← c.check
    inScope "while_stmt" (Stmt.checkOpt b)
  | .forLoop v a b body _ => inScope "for_stmt" do
    modify (·.put v (.scalar v .int))
    let _ ← a.check
    let _ ← b.check
    Stmt.checkOpt body
  | .assign a => a.check
  | .print items _ => items.check
  | .ret e l => do
    if !(← get).within ["stmts_set"] then
      flag l "`return` w złym miejscu!"
    let _ ← e.check
    pure ()

/-- Checks a possibly empty statement; an empty one stops the checker. -/
def Stmt.checkOpt : Option Stmt → Check Unit
  | some s => s.check
  | none => throw (.attribute "NoneType" "children")

/-- Checks statements in order. -/
def Stmt.checkAll : List (Option Stmt) → Check Unit
  | [] => pure ()
  | s :: ss => do
    Stmt.checkOpt s
    Stmt.checkAll ss
end

/-- Checks a program from the empty state: the final state, or the error that stopped the
checker and the state it had then. -/
def Program.check (p : Program) : Except (Error × Checker) Checker :=
  match (Stmt.checkAll p).run {} with
  | .ok _ c => .ok c
  | .error f c => .error (f, c)

end MatrixLang.Annotated
