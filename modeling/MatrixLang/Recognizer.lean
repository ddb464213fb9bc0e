import MatrixLang.Grammar.Run
import MatrixLang.Lexer.Lexicons
import MatrixLang.Recognizer.Table

/-!
# The version 2 recognizer

Version 2 of the language has a grammar but builds no tree: parsing only decides whether the
text is a program, and reports each syntax error on the standard output as
`Syntax error at line N, token=KIND`, or `Syntax error at end of file`.

Its grammar allows general expressions wherever a number is expected, ranges `e : e`, indexing
by lists of expressions, and matrices of rows of expressions. `'` has no precedence level of its
own (the transpose level is only named by `%prec`), so it loses against every binary operator.
-/
namespace MatrixLang

namespace Recognizer

/-- A production that builds nothing. -/
def rule (lhs rhs : String) (tag : Option String := none) : Production Unit :=
  Production.ofText lhs rhs (fun _ _ => ()) tag

/-- The grammar of version 2. -/
def grammar : Grammar Unit where
  start := "statements"
  levels :=
    [(.nonassoc, ["IFX"]), (.nonassoc, ["ELSE"]),
     (.nonassoc, ["=", "ADDASSIGN", "SUBASSIGN", "MULASSIGN", "DIVASSIGN"]),
     (.nonassoc, ["LT", "GT", "LE", "GE", "EQ", "NE"]), (.left, ["+", "-"]),
     (.left, ["DOTADD", "DOTSUB"]), (.left, ["*", "/"]), (.left, ["DOTMUL", "DOTDIV"]),
     (.right, ["UMINUS"]), (.left, ["TRANSPOSE"])]
  rules :=
    [rule "statements" "statements statement",
     rule "statements" "statement",
     rule "statement" "IF ( relation_expression ) statement" (some "IFX"),
     rule "statement" "IF ( relation_expression ) statement ELSE statement",
     rule "statement" "WHILE ( relation_expression ) statement",
     rule "statement" "FOR ID = range statement",
     rule "statement" "PRINT print_recursive ;",
     rule "statement" "assign_statement",
     rule "statement" "{ statements }",
     rule "statement" "BREAK ;",
     rule "statement" "CONTINUE ;",
     rule "statement" "RETURN expression ;",
     rule "range" "expression : expression",
     rule "print_recursive" "expression",
     rule "print_recursive" "print_recursive , expression",
     rule "assign_statement" "id_ref = expression ;",
     rule "assign_statement" "id_ref ADDASSIGN expression ;",
     rule "assign_statement" "id_ref SUBASSIGN expression ;",
     rule "assign_statement" "id_ref MULASSIGN expression ;",
     rule "assign_statement" "id_ref DIVASSIGN expression ;",
     rule "expression" "expression + expression",
     rule "expression" "expression - expression",
     rule "expression" "expression * expression",
     rule "expression" "expression / expression",
     rule "expression" "expression DOTADD expression",
     rule "expression" "expression DOTSUB expression",
     rule "expression" "expression DOTMUL expression",
     rule "expression" "expression DOTDIV expression",
     rule "expression" "expression '" (some "TRANSPOSE"),
     rule "expression" "- expression" (some "UMINUS"),
     rule "expression" "( expression )",
     rule "expression" "ID",
     rule "expression" "INTNUM",
     rule "expression" "FLOATNUM",
     rule "expression" "STRING",
     rule "expression" "matrix_funcs",
     rule "expression" "matrix_ref",
     rule "expression" "[ matrix_rows ]",
     rule "matrix_rows" "matrix_rows , [ row_content ]",
     rule "matrix_rows" "[ row_content ]",
     rule "row_content" "expression",
     rule "row_content" "row_content , expression",
     rule "matrix_funcs" "ZEROS ( INTNUM )",
     rule "matrix_funcs" "ONES ( INTNUM )",
     rule "matrix_funcs" "EYE ( INTNUM )",
     rule "matrix_ref" "ID [ index_list ]",
     rule "index_list" "expression",
     rule "index_list" "index_list , expression",
     rule "relation_expression" "expression LE expression",
     rule "relation_expression" "expression LT expression",
     rule "relation_expression" "expression GE expression",
     rule "relation_expression" "expression GT expression",
     rule "relation_expression" "expression EQ expression",
     rule "relation_expression" "expression NE expression",
     rule "id_ref" "ID",
     rule "id_ref" "ID [ index_list ]"]

/-- The parser of version 2. -/
def parser : Grammar.Parser Unit := Grammar.Parser.ofGrammar grammar table

/-- How version 2 reports a syntax error. -/
def report : Grammar.Reporter
  | some t, con => con.printLine s!"Syntax error at line {t.line}, token={t.kind}"
  | none, con => con.printLine "Syntax error at end of file"

/-- Parses a source text with version 2, after what the console already holds: whether the scan
stopped the parse, and the console. -/
def recognize (src : String) (console : Console := {}) : Option Lexicon.Stop × Console :=
  match parser.run "" report (Lexicon.v1.scan src) console with
  | (.error s, console) => (some s, console)
  | (.ok _, console) => (none, console)

end Recognizer
end MatrixLang
