import MatrixLang.Lexer.Scan

/-!
# The lexicons of the language versions

Each version of the language reads its source with its own lexicon. They share the lexeme
classes and differ in rule order, in which operators are rules and which are one-character
literals, and in what becomes of a bad character:

* `v1` (also used by version 2) has `<` and `>` as rules ahead of `<=` and `>=`, so `<=` reads
  as `<` followed by `=`; strings take backslash escapes and may span lines;
* `v1Named` names the arithmetic operators (`PLUS`, …), knows no strings, floats or commas, and
  halts on the first bad character;
* `v3` leaves `<` and `>` to the literals, so `<=` is one token;
* `v5` puts comments first, strings end at the first matching quote of their line, and bad
  characters are reported as wrong input; `v4` is `v5` keeping the text of decimal numbers.
-/
namespace MatrixLang.Lexicon

/-- A rule for a fixed operator spelling. -/
def operator (kind spelling : String) : Rule := ⟨Pattern.exact spelling, .emit kind .text false, []⟩

/-- The words that are keywords in the full language. -/
def keywords : List (String × String) :=
  [("if", "IF"), ("else", "ELSE"), ("for", "FOR"), ("while", "WHILE"), ("break", "BREAK"),
   ("continue", "CONTINUE"), ("return", "RETURN"), ("eye", "EYE"), ("zeros", "ZEROS"),
   ("ones", "ONES"), ("print", "PRINT")]

/-- Identifiers, turned into keywords by the given table. -/
def identifiers (words : List (String × String)) : Rule := ⟨Pattern.identifier, .emit "ID" .text false, words⟩

/-- Whole numbers. -/
def integers : Rule := ⟨Pattern.digitRun, .emit "INTNUM" .integer false, []⟩

/-- Numbers with a point or an exponent, read as doubles or kept as text. -/
def decimals (reading : Reading) : Rule := ⟨Pattern.decimalNumber, .emit "FLOATNUM" reading false, []⟩

/-- Comments, dropped. -/
def comments : Rule := ⟨Pattern.comment, .drop false, []⟩

/-- Line ends, dropped and counted. -/
def lineEnds : Rule := ⟨Pattern.lineEnds, .drop true, []⟩

/-- The element-wise and compound-assignment operators. -/
def dotted : List Rule :=
  [operator "DOTADD" ".+", operator "DOTSUB" ".-", operator "DOTMUL" ".*", operator "DOTDIV" "./",
   operator "ADDASSIGN" "+=", operator "SUBASSIGN" "-=", operator "MULASSIGN" "*=",
   operator "DIVASSIGN" "/="]

/-- The comparisons spelled with two characters. -/
def comparisons : List Rule :=
  [operator "LE" "<=", operator "GE" ">=", operator "EQ" "==", operator "NE" "!="]

/-- The one-character literals of versions 1 and 2. -/
def plainLiterals : List Char := ['(', ')', '{', '}', '[', ']', '+', '-', '*', '/', ':', ',', ';', '=', '\'']

/-- The lexicon of versions 1 and 2. -/
def v1 : Lexicon where
  rules := dotted ++ [operator "LT" "<", operator "GT" ">"] ++ comparisons ++
    [identifiers keywords, ⟨Pattern.escapedString, .emit "STRING" .text true, []⟩,
     decimals .decimal, integers, comments, lineEnds]
  literals := plainLiterals
  onBad := .report ""

/-- The lexicon of version 3. -/
def v3 : Lexicon where
  rules := dotted ++ comparisons ++
    [identifiers keywords, ⟨Pattern.escapedString, .emit "STRING" .text true, []⟩,
     decimals .decimal, integers, comments, lineEnds]
  literals := plainLiterals ++ ['>', '<']
  onBad := .report ""

/-- The lexicon with named arithmetic operators, which halts on a bad character. -/
def v1Named : Lexicon where
  rules :=
    [operator "PLUS" "+", operator "MINUS" "-", operator "TIMES" "*", operator "DIVIDE" "/",
     operator "EQ" "==", operator "LE" "<=", operator "LT" "<", operator "GE" ">=",
     operator "GT" ">", operator "NE" "!=", operator "DOTPLUS" ".+", operator "DOTMINUS" ".-",
     operator "DOTTIMES" ".*", operator "DOTDIVIDE" "./", integers,
     identifiers [("if", "IF"), ("else", "ELSE"), ("while", "WHILE"), ("print", "PRINT"),
       ("zeros", "ZEROS"), ("ones", "ONES"), ("eye", "EYE")],
     comments, lineEnds]
  literals := ['(', ')', '{', '}', '[', ']', ':', ';', '\'', '=']
  onBad := .halt

/-- The lexicon of versions 4 and 5, with the given reading of decimal numbers. -/
def full (reading : Reading) : Lexicon where
  rules := [comments] ++ dotted ++
    [operator "LE" "<=", operator "GE" ">=", operator "NE" "!=", operator "EQ" "==",
     decimals reading, integers, ⟨Pattern.quotedLine, .emit "STRING" .text false, []⟩,
     identifiers keywords, lineEnds]
  literals := ['+', '-', '*', '/', '=', '<', '>', '(', ')', '[', ']', '{', '}', ':', '\'', ',', ';']
  onBad := .report "Wrong input! "

/-- The lexicon of version 4: decimal numbers keep their text. -/
def v4 : Lexicon := full .text

/-- The lexicon of version 5. -/
def v5 : Lexicon := full .decimal

end MatrixLang.Lexicon
