import MatrixLang.Script.Syntax
import MatrixLang.Grammar.Run
import MatrixLang.Lexer.Lexicons
import MatrixLang.Script.Table

/-!
# The version 5 grammar

The grammar of version 5 and the trees its productions build. A program is a non-empty list of
statements. `print` takes a list of expressions, where an item may also be an arithmetic
operation; the end of a `for` range is a name, a literal or an arithmetic operation. A matrix
literal is made of rows of integer literals.

Where an arithmetic operation could end a `print` item or a range as well as an expression, the
item or the range takes it, those productions being written first. Syntax errors are reported
on the error stream as `sly: Syntax error at line N, token=KIND`, or
`sly: Parse error in input. EOF` at the end of the input.
-/
namespace MatrixLang.Script

open Grammar (Cell)

/-- The values the productions of version 5 build. -/
inductive Piece where
  | stmts (ss : List (Option Stmt))
  | stmt (s : Option Stmt)
  | expr (e : Expr)
  | assign (a : Assign)
  | compare (c : Compare)
  | index (i : Index)
  | bound (b : Bound)
  | target (t : Target)
  | element (r : Element)
  | slice (s : Slice)
  | rows (rs : List NumRow) (line : Nat)
  | row (r : NumRow)
  | matrixFun (name : String) (size : Nat) (line : Nat)
  | atom (a : Atom)
  | printed (p : Printed)
  | item (i : PrintItem)
  | nothing
  deriving Inhabited

namespace Piece

/-- The text of a token child. -/
def asText : Cell Piece → String
  | .token t => t.value.render
  | .value _ => ""

/-- The natural number of an integer token child. -/
def asNat : Cell Piece → Nat
  | .token { value := .int n, .. } => n
  | _ => 0

/-- The offset of a token child. -/
def asOffset : Cell Piece → Nat
  | .token t => t.offset
  | _ => 0

/-- The statements of a child. -/
def asStmts : Cell Piece → List (Option Stmt)
  | .value (.stmts ss) => ss
  | _ => []

/-- The statement of a child: a statement, or an assignment standing as one. -/
def asStmt : Cell Piece → Option Stmt
  | .value (.stmt s) => s
  | .value (.assign a) => some (.assign a)
  | _ => none

/-- The expression of a child. -/
def asExpr : Cell Piece → Expr
  | .value (.expr e) => e
  | _ => default

/-- The comparison of a child. -/
def asCompare : Cell Piece → Compare
  | .value (.compare c) => c
  | _ => default

/-- The index of a child. -/
def asIndex : Cell Piece → Index
  | .value (.index i) => i
  | _ => default

/-- The range end of a child. -/
def asBound : Cell Piece → Bound
  | .value (.bound b) => b
  | _ => default

/-- The assignment target of a child. -/
def asTarget : Cell Piece → Target
  | .value (.target t) => t
  | _ => default

/-- The row of numbers of a child. -/
def asRow : Cell Piece → NumRow
  | .value (.row r) => r
  | _ => default

/-- The print items of a child. -/
def asPrinted : Cell Piece → Printed
  | .value (.printed p) => p
  | _ => default

/-- The print item of a child. -/
def asItem : Cell Piece → PrintItem
  | .value (.item i) => i
  | _ => default

end Piece

open Piece

/-- A production of version 5 with its builder on the line and the children. -/
def rule (lhs rhs : String) (build : Nat → List (Cell Piece) → Piece) (tag : Option String := none) :
    Production Piece :=
  Production.ofText lhs rhs build tag

/-- A production that passes its only child on. -/
def pass (lhs rhs : String) : Production Piece :=
  rule lhs rhs fun _ cs => match cs with | [.value v] => v | _ => .nothing

/-- The four arithmetic productions of a nonterminal, building with `make`. -/
def arithmeticRules (lhs : String) (make : String → Expr → Expr → Nat → Piece) : List (Production Piece) :=
  ["+", "-", "*", "/"].map fun op =>
    rule lhs s!"expression {op} expression" fun l cs => match cs with
      | [a, o, b] => make (asText o) (asExpr a) (asExpr b) l
      | _ => .nothing

/-- A production of a binary expression over the token `kind`, building with `make`. -/
def binaryRule (lhs kind : String) (make : String → Expr → Expr → Nat → Piece) : Production Piece :=
  rule lhs s!"expression {kind} expression" fun l cs => match cs with
    | [a, o, b] => make (asText o) (asExpr a) (asExpr b) l
    | _ => .nothing

/-- A compound assignment production over the token `kind`. -/
def updateRule (kind : String) : Production Piece :=
  rule "assign_expression" s!"id_ref {kind} expression ;" fun l cs => match cs with
    | [t, o, e, _] => .assign (.update (asText o) (asTarget t) (asExpr e) l)
    | _ => .nothing

/-- A matrix function production over the token `kind`. -/
def functionRule (kind : String) : Production Piece :=
  rule "matrix_funcs" s!"{kind} ( INTNUM )" fun l cs => match cs with
    | [f, _, n, _] => .matrixFun (asText f) (asNat n) l
    | _ => .nothing

/-- The productions of version 5, in the order they are written. -/
def rules : List (Production Piece) :=
  [rule "statements" "statement" (fun _ cs => match cs with
      | [s] => .stmts [asStmt s] | _ => .nothing),
   rule "statements" "statements statement" (fun _ cs => match cs with
      | [ss, s] => .stmts (asStmts ss ++ [asStmt s]) | _ => .nothing),
   rule "statement" "BREAK ;" (fun l cs => match cs with
      | [w, _] => .stmt (some (.control (asText w) l)) | _ => .nothing),
   rule "statement" "CONTINUE ;" (fun l cs => match cs with
      | [w, _] => .stmt (some (.control (asText w) l)) | _ => .nothing),
   rule "statement" ";" (fun _ _ => .stmt none),
   rule "statement" "{ statements }" (fun l cs => match cs with
      | [_, ss, _] => .stmt (some (.block (asStmts ss) l)) | _ => .nothing),
   pass "statement" "if_statement", pass "statement" "while_statement",
   pass "statement" "for_statement", pass "statement" "assign_expression",
   pass "statement" "print_statement",
   rule "statement" "RETURN expression ;" (fun l cs => match cs with
      | [_, e, _] => .stmt (some (.ret (asExpr e) l)) | _ => .nothing),
   rule "if_statement" "IF ( relation_expression ) statement ELSE statement" (fun l cs => match cs with
      | [_, _, c, _, y, _, n] => .stmt (some (.ifElse (asCompare c) (asStmt y) (asStmt n) l))
      | _ => .nothing),
   rule "if_statement" "IF ( relation_expression ) statement" (fun l cs => match cs with
      | [_, _, c, _, y] => .stmt (some (.ifThen (asCompare c) (asStmt y) l)) | _ => .nothing)
     (some "IFX"),
   rule "while_statement" "WHILE ( relation_expression ) statement" (fun l cs => match cs with
      | [_, _, c, _, b] => .stmt (some (.whileLoop (asCompare c) (asStmt b) l)) | _ => .nothing),
   rule "for_statement" "FOR ID = id_int : int_expr statement" (fun l cs => match cs with
      | [_, v, _, a, _, b, body] =>
        .stmt (some (.forLoop (asText v) (asIndex a) (asBound b) (asStmt body) l))
      | _ => .nothing),
   rule "print_statement" "PRINT print_recursive ;" (fun l cs => match cs with
      | [_, p, _] => .stmt (some (.print (asPrinted p) l)) | _ => .nothing),
   rule "print_recursive" "print_recursive , print_expr" (fun l cs => match cs with
      | [p, _, i] => .printed (.more (asPrinted p) (asItem i) l) | _ => .nothing),
   rule "print_recursive" "print_expr" (fun _ cs => match cs with
      | [i] => .printed (.single (asItem i)) | _ => .nothing),
   rule "print_expr" "expression" (fun _ cs => match cs with
      | [e] => .item (.value (asExpr e)) | _ => .nothing)] ++
  arithmeticRules "print_expr" (fun op a b l => .item (.arith op a b l)) ++
  arithmeticRules "int_expr" (fun op a b l => .bound (.arith op a b l)) ++
  [rule "int_expr" "ID" (fun l cs => match cs with
      | [v] => .bound (.index (.name (asText v) l)) | _ => .nothing),
   rule "int_expr" "INTNUM" (fun l cs => match cs with
      | [n] => .bound (.index (.lit (asNat n) l)) | _ => .nothing),
   rule "id_int" "ID" (fun l cs => match cs with
      | [v] => .index (.name (asText v) l) | _ => .nothing),
   rule "id_int" "INTNUM" (fun l cs => match cs with
      | [n] => .index (.lit (asNat n) l) | _ => .nothing),
   rule "expression" "value" (fun _ cs => match cs with
      | [.value (.atom a)] => .expr (.atom a) | _ => .nothing),
   rule "expression" "assign_expression" (fun _ cs => match cs with
      | [.value (.assign a)] => .expr (.assign a) | _ => .nothing),
   rule "expression" "relation_expression" (fun _ cs => match cs with
      | [c] => .expr (.relation (asCompare c)) | _ => .nothing),
   rule "expression" "matrix_funcs" (fun _ cs => match cs with
      | [.value (.matrixFun f n l)] => .expr (.matrixFun f n l) | _ => .nothing),
   rule "expression" "matrix_ref" (fun _ cs => match cs with
      | [.value (.element r)] => .expr (.element r) | _ => .nothing),
   rule "expression" "- expression" (fun l cs => match cs with
      | [_, e] => .expr (.negate (asExpr e) l) | _ => .nothing) (some "UMINUS"),
   rule "expression" "[ matrix_rows ]" (fun l cs => match cs with
      | [_, .value (.rows rs rl), _] => .expr (.literal (.rows rs rl) l) | _ => .nothing),
   rule "expression" "[ line_of_num ]" (fun l cs => match cs with
      | [_, r, _] => .expr (.literal (.row (asRow r)) l) | _ => .nothing),
   rule "expression" "expression '" (fun l cs => match cs with
      | [e, _] => .expr (.transpose (asExpr e) l) | _ => .nothing),
   rule "expression" "( expression )" (fun l cs => match cs with
      | [_, e, _] => .expr (.paren (asExpr e) l) | _ => .nothing)] ++
  arithmeticRules "expression" (fun op a b l => .expr (.arith op a b l)) ++
  ["DOTADD", "DOTSUB", "DOTMUL", "DOTDIV"].map (fun kind =>
    binaryRule "expression" kind fun op a b l => .expr (.dotted op a b l)) ++
  [rule "assign_expression" "id_ref = expression ;" (fun l cs => match cs with
      | [t, _, e, _] => .assign (.declare (asTarget t) (asExpr e) l) | _ => .nothing)] ++
  ["ADDASSIGN", "SUBASSIGN", "MULASSIGN", "DIVASSIGN"].map updateRule ++
  ["<", ">", "LE", "GE", "EQ", "NE"].map (fun kind =>
    binaryRule "relation_expression" kind fun op a b l => .compare (.mk op a b l)) ++
  [rule "id_ref" "ID" (fun l cs => match cs with
      | [v] => .target (.var (asText v) l) | _ => .nothing),
   rule "id_ref" "matrix_ref" (fun _ cs => match cs with
      | [.value (.element r)] => .target (.element r) | _ => .nothing),
   rule "id_ref" "tab_ref" (fun _ cs => match cs with
      | [.value (.slice s)] => .target (.slice s) | _ => .nothing),
   rule "matrix_ref" "ID [ id_int , id_int ]" (fun l cs => match cs with
      | [v, _, r, _, c, _] => .element (.pair (asText v) (asIndex r) (asIndex c) l) | _ => .nothing),
   rule "matrix_ref" "ID [ id_int ]" (fun l cs => match cs with
      | [v, _, r, _] => .element (.single (asText v) (asIndex r) l) | _ => .nothing),
   rule "tab_ref" "ID [ id_int : id_int ]" (fun l cs => match cs with
      | [v, _, b, _, e, _] => .slice (.both (asText v) (asIndex b) (asIndex e) l) | _ => .nothing),
   rule "tab_ref" "ID [ : id_int ]" (fun l cs => match cs with
      | [v, _, _, e, _] => .slice (.upTo (asText v) (asIndex e) l) | _ => .nothing),
   rule "tab_ref" "ID [ id_int : ]" (fun l cs => match cs with
      | [v, _, b, _, _] => .slice (.onwards (asText v) (asIndex b) l) | _ => .nothing),
   rule "matrix_rows" "[ line_of_num ]" (fun l cs => match cs with
      | [_, r, _] => .rows [asRow r] l | _ => .nothing),
   rule "matrix_rows" "matrix_rows , [ line_of_num ]" (fun l cs => match cs with
      | [.value (.rows rs _), _, _, r, _] => .rows (rs ++ [asRow r]) l | _ => .nothing),
   rule "line_of_num" "INTNUM" (fun l cs => match cs with
      | [n] => .row ⟨[asNat n], l, asOffset n⟩ | _ => .nothing),
   rule "line_of_num" "line_of_num , INTNUM" (fun l cs => match cs with
      | [r, _, n] => let r := asRow r; .row ⟨r.nums ++ [asNat n], l, r.origin⟩ | _ => .nothing),
   functionRule "ZEROS", functionRule "ONES", functionRule "EYE",
   rule "value" "INTNUM" (fun l cs => match cs with
      | [n] => .atom (.int (asNat n) l) | _ => .nothing),
   rule "value" "FLOATNUM" (fun l cs => match cs with
      | [.token { value := .float x, .. }] => .atom (.float x l) | _ => .nothing),
   rule "value" "ID" (fun l cs => match cs with
      | [v] => .atom (.var (asText v) l) | _ => .nothing),
   rule "value" "STRING" (fun l cs => match cs with
      | [s] => .atom (.str (asText s) l) | _ => .nothing)]

/-- The grammar of version 5. -/
def grammar : Grammar Piece where
  start := "statements"
  levels :=
    [(.nonassoc, ["IFX"]), (.nonassoc, ["ELSE"]), (.nonassoc, ["LE", "GE", "EQ", "NE", "<", ">"]),
     (.left, ["+", "-"]), (.left, ["*", "/"]), (.left, ["DOTADD", "DOTSUB"]),
     (.left, ["DOTMUL", "DOTDIV"]), (.right, ["UMINUS"]), (.nonassoc, ["'"])]
  rules := rules

/-- The parser of version 5. -/
def parser : Grammar.Parser Piece := Grammar.Parser.ofGrammar grammar table

/-- How versions 4 and 5 report a syntax error: on the error stream. -/
def report : Grammar.Reporter
  | some t, con => con.write .err s!"sly: Syntax error at line {t.line}, token={t.kind}\n"
  | none, con => con.write .err "sly: Parse error in input. EOF\n"

/-- Parses a source text with version 5: the program, if parsing succeeded, and the console. -/
def parse (src : String) (console : Console := {}) : Grammar.Outcome Program × Console :=
  let (outcome, console) := parser.run Lexicon.v5.lead report (Lexicon.v5.scan src) console
  (outcome.map fun | some (.stmts p) => some p | _ => none, console)

end MatrixLang.Script
