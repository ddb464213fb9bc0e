import MatrixLang.Outline.Syntax
import MatrixLang.Grammar.Run
import MatrixLang.Lexer.Lexicons
import MatrixLang.Outline.Table

/-!
# The version 3 grammar

The grammar of version 3 and the trees its productions build. A program is a possibly empty
list of instructions; assignments and statements end with `;`, blocks and control statements do
not. Indices of element references are integer literals, matrices are rows of numbers, names and
element references, and `print` takes strings and expressions.

Syntax errors are reported on the standard output as `Syntax error at line N: KIND('value')`, or
`Unexpected end of input`.
-/
namespace MatrixLang.Outline

open Grammar (Cell)

/-- The values the productions of version 3 build. -/
inductive Piece where
  | program (p : Program)
  | instrs (is : List Instr)
  | instr (i : Instr)
  | cond (c : Cond)
  | range (start stop : Expr)
  | word (s : String)
  | expr (e : Expr)
  | rows (rs : List (List Expr))
  | items (es : List Expr)
  | nothing
  deriving Inhabited

namespace Piece

/-- The text of a token child. -/
def asText : Cell Piece → String
  | .token t => t.value.render
  | .value _ => ""

/-- The natural number of an integer token child. -/
def asNat : Cell Piece → Nat
  | .token { value := .int n, .. } => n
  | _ => 0

/-- The expression of a child. -/
def asExpr : Cell Piece → Expr
  | .value (.expr e) => e
  | _ => default

/-- The instruction of a child: an instruction, or a block of them. -/
def asInstr : Cell Piece → Instr
  | .value (.instr i) => i
  | .value (.instrs is) => .block is
  | _ => default

/-- The instructions of a child. -/
def asInstrs : Cell Piece → List Instr
  | .value (.instrs is) => is
  | _ => []

/-- The comparison of a child. -/
def asCond : Cell Piece → Cond
  | .value (.cond c) => c
  | _ => default

/-- The word of a child. -/
def asWord : Cell Piece → String
  | .value (.word s) => s
  | _ => ""

/-- The list of expressions of a child. -/
def asItems : Cell Piece → List Expr
  | .value (.items es) => es
  | _ => []

/-- The rows of a child. -/
def asRows : Cell Piece → List (List Expr)
  | .value (.rows rs) => rs
  | _ => []

end Piece

/-- A production of version 3 with its builder on the children. -/
def rule (lhs rhs : String) (build : List (Cell Piece) → Piece) (tag : Option String := none) :
    Production Piece :=
  Production.ofText lhs rhs (fun _ cs => build cs) tag

/-- A production that passes its only child on. -/
def pass (lhs rhs : String) : Production Piece :=
  rule lhs rhs fun | [.value v] => v | _ => .nothing

/-- A binary expression production. -/
def binary (op kind : String) : Production Piece :=
  rule "expression" s!"expression {kind} expression" fun
    | [l, _, r] => .expr (.binary op (Piece.asExpr l) (Piece.asExpr r))
    | _ => .nothing

/-- A comparison production. -/
def comparison (op kind : String) : Production Piece :=
  rule "condition" s!"expression {kind} expression" fun
    | [l, _, r] => .cond ⟨op, Piece.asExpr l, Piece.asExpr r⟩
    | _ => .nothing

/-- An assignment operator production. -/
def assignOp (kind op : String) : Production Piece :=
  rule "assignment_op" kind fun _ => .word op

/-- An assignment production with the given target. -/
def assignment (target : String) : Production Piece :=
  rule "assignment" s!"{target} assignment_op expression" fun
    | [t, o, e] => .instr (.assign (Piece.asWord o) (Piece.asExpr t) (Piece.asExpr e))
    | _ => .nothing

/-- The grammar of version 3. -/
def grammar : Grammar Piece where
  start := "program"
  levels :=
    [(.nonassoc, ["IFX"]), (.nonassoc, ["ELSE"]),
     (.right, ["MULASSIGN", "DIVASSIGN", "SUBASSIGN", "ADDASSIGN"]),
     (.nonassoc, ["<", ">", "LE", "GE", "NE", "EQ"]), (.left, ["+", "-"]),
     (.left, ["DOTADD", "DOTSUB"]), (.left, ["*", "/"]), (.left, ["DOTMUL", "DOTDIV"]),
     (.right, ["UMINUS"]), (.left, ["'"])]
  rules :=
    [rule "program" "instructions_opt" (fun cs => .program ⟨(cs.head?.map Piece.asInstrs).getD []⟩),
     pass "instructions_opt" "instructions",
     rule "instructions_opt" "" (fun _ => .instrs []),
     rule "instructions" "instruction" (fun | [i] => .instrs [Piece.asInstr i] | _ => .nothing),
     rule "instructions" "instruction instructions"
       (fun | [i, is] => .instrs (Piece.asInstr i :: Piece.asInstrs is) | _ => .nothing),
     rule "instruction" "assignment ;" (fun | [.value v, _] => v | _ => .nothing),
     rule "instruction" "statement ;" (fun | [.value v, _] => v | _ => .nothing),
     rule "instruction" "{ instructions }" (fun | [_, is, _] => .instrs (Piece.asInstrs is) | _ => .nothing),
     rule "instruction" "IF ( condition ) instruction"
       (fun | [_, _, c, _, i] => .instr (.branch (Piece.asCond c) (Piece.asInstr i) none) | _ => .nothing)
       (some "IFX"),
     rule "instruction" "IF ( condition ) instruction ELSE instruction"
       (fun | [_, _, c, _, i, _, e] => .instr (.branch (Piece.asCond c) (Piece.asInstr i) (some (Piece.asInstr e)))
            | _ => .nothing),
     rule "instruction" "WHILE ( condition ) instruction"
       (fun | [_, _, c, _, i] => .instr (.loop (Piece.asCond c) (Piece.asInstr i)) | _ => .nothing),
     rule "instruction" "FOR var = range instruction"
       (fun | [_, v, _, .value (.range a b), i] =>
                .instr (.forRange (match Piece.asExpr v with | .var n => n | _ => "") a b (Piece.asInstr i))
            | _ => .nothing),
     rule "range" "expression : expression"
       (fun | [a, _, b] => .range (Piece.asExpr a) (Piece.asExpr b) | _ => .nothing),
     comparison "==" "EQ", comparison "!=" "NE", comparison "<=" "LE", comparison ">=" "GE",
     comparison "<" "<", comparison ">" ">",
     assignOp "MULASSIGN" "*=", assignOp "DIVASSIGN" "/=", assignOp "SUBASSIGN" "-=",
     assignOp "ADDASSIGN" "+=", assignOp "=" "=",
     assignment "var", assignment "matrix_element", assignment "vector_element",
     rule "matrix_function" "matrix_function_name ( INTNUM )"
       (fun | [n, _, k, _] => .expr (.matrixFunction (Piece.asWord n) (Piece.asNat k)) | _ => .nothing),
     rule "matrix_function_name" "EYE" (fun _ => .word "eye"),
     rule "matrix_function_name" "ONES" (fun _ => .word "ones"),
     rule "matrix_function_name" "ZEROS" (fun _ => .word "zeros"),
     rule "matrix" "[ vectors ]" (fun | [_, rs, _] => .expr (.matrix (Piece.asRows rs)) | _ => .nothing),
     rule "vectors" "vectors , vector"
       (fun | [rs, _, .value (.items r)] => .rows (Piece.asRows rs ++ [r]) | _ => .nothing),
     rule "vectors" "vector" (fun | [.value (.items r)] => .rows [r] | _ => .nothing),
     rule "vector" "[ variables ]" (fun | [_, vs, _] => .items (Piece.asItems vs) | _ => .nothing),
     rule "variables" "variables , variable"
       (fun | [vs, _, v] => .items (Piece.asItems vs ++ [Piece.asExpr v]) | _ => .nothing),
     rule "variables" "variable" (fun | [v] => .items [Piece.asExpr v] | _ => .nothing),
     pass "variable" "number", pass "variable" "var", pass "variable" "element",
     pass "element" "vector_element", pass "element" "matrix_element",
     rule "vector_element" "ID [ INTNUM ]"
       (fun | [n, _, i, _] => .expr (.vectorElement (Piece.asText n) (Piece.asNat i)) | _ => .nothing),
     rule "matrix_element" "ID [ INTNUM , INTNUM ]"
       (fun | [n, _, r, _, c, _] => .expr (.matrixElement (Piece.asText n) (Piece.asNat r) (Piece.asNat c))
            | _ => .nothing),
     rule "var" "ID" (fun | [n] => .expr (.var (Piece.asText n)) | _ => .nothing),
     rule "number" "INTNUM" (fun | [k] => .expr (.int (Piece.asNat k)) | _ => .nothing),
     rule "number" "FLOATNUM"
       (fun | [.token { value := .float x, .. }] => .expr (.float x) | _ => .nothing),
     rule "string" "STRING" (fun | [s] => .expr (.str (Piece.asText s)) | _ => .nothing),
     binary "+" "+", binary "-" "-", binary "*" "*", binary "/" "/",
     binary ".+" "DOTADD", binary ".-" "DOTSUB", binary ".*" "DOTMUL", binary "./" "DOTDIV",
     pass "expression" "num_expression", pass "expression" "matrix",
     pass "expression" "matrix_function", pass "expression" "uminus",
     pass "expression" "transposition", pass "expression" "matrix_element",
     pass "expression" "vector_element",
     pass "num_expression" "number", pass "num_expression" "var",
     rule "uminus" "- expression" (fun | [_, e] => .expr (.negate (Piece.asExpr e)) | _ => .nothing)
       (some "UMINUS"),
     rule "transposition" "expression '" (fun | [e, _] => .expr (.transpose (Piece.asExpr e)) | _ => .nothing),
     rule "statement" "BREAK" (fun _ => .instr .brk),
     rule "statement" "CONTINUE" (fun _ => .instr .cont),
     rule "statement" "RETURN expression" (fun | [_, e] => .instr (.ret (Piece.asExpr e)) | _ => .nothing),
     rule "statement" "PRINT print_vals" (fun | [_, vs] => .instr (.print (Piece.asItems vs)) | _ => .nothing),
     rule "print_vals" "print_vals , print_val"
       (fun | [vs, _, v] => .items (Piece.asItems vs ++ [Piece.asExpr v]) | _ => .nothing),
     rule "print_vals" "print_val" (fun | [v] => .items [Piece.asExpr v] | _ => .nothing),
     pass "print_val" "string", pass "print_val" "expression"]

/-- The parser of version 3. -/
def parser : Grammar.Parser Piece := Grammar.Parser.ofGrammar grammar table

/-- How version 3 reports a syntax error. -/
def report : Grammar.Reporter
  | some t, con => con.printLine s!"Syntax error at line {t.line}: {t.kind}('{t.value.render}')"
  | none, con => con.printLine "Unexpected end of input"

/-- Parses a source text with version 3: the program, if parsing succeeded, and the console. -/
def parse (src : String) (console : Console := {}) : Grammar.Outcome Program × Console :=
  let (outcome, console) := parser.run "" report (Lexicon.v3.scan src) console
  (outcome.map fun | some (.program p) => some p | _ => none, console)

end MatrixLang.Outline
