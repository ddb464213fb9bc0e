import MatrixLang.Lexer.Token

/-!
# Grammars with precedence

A grammar is a list of productions in the order they are written, a start symbol and a table of
precedence levels. Each production carries the action that builds its value from the values of
its right-hand side, so a grammar describes both the language and the tree built for it.

The parser generator numbers the productions its own way, and its parse tables refer to them by
these numbers: the augmented production `S' → start` first, then the nonterminals in the order
they first appear, and the productions of one nonterminal from the last written to the first
(`Grammar.numbered`).

The precedence levels settle the conflicts of the parse table, which holds their outcome; a
name's level counts from the lowest, `1` (`Grammar.precedenceOf`).
-/
namespace MatrixLang

/-- How operators of one precedence level group. -/
inductive Assoc where
  | left
  | right
  | nonassoc
  deriving DecidableEq, Repr, Inhabited

namespace Grammar

/-- A symbol on the parse stack: a token, or the value built for a nonterminal. -/
inductive Cell (α : Type) where
  | token (t : Token)
  | value (v : α)

/-- The line of the first token among the children, or `0` when none is a token. -/
def Cell.lineOf {α : Type} : List (Cell α) → Nat
  | [] => 0
  | .token t :: rest => if t.line ≠ 0 then t.line else lineOf rest
  | .value _ :: rest => lineOf rest

end Grammar

/-- A production `lhs → rhs` with its optional precedence level and the action that builds its
value from the line of its first token and its children. -/
structure Production (α : Type) where
  lhs : String
  rhs : List String
  tag : Option String := none
  build : Nat → List (Grammar.Cell α) → α

/-- The symbols of a text: its runs of characters other than blanks. -/
def Production.symbolsOf (text : String) : List String :=
  ((text.toList.splitOn ' ').filter (· ≠ [])).map String.ofList

/-- A production from its head and its symbols separated by blanks. -/
def Production.ofText {α : Type} (lhs rhs : String) (build : Nat → List (Grammar.Cell α) → α)
    (tag : Option String := none) : Production α :=
  ⟨lhs, Production.symbolsOf rhs, tag, build⟩

/-- A grammar: start symbol, productions in written order, precedence levels from the lowest. -/
structure Grammar (α : Type) where
  start : String
  rules : List (Production α)
  levels : List (Assoc × List String)

namespace Grammar

/-- The end of the input. -/
def endMarker : String := "$end"

/-- The symbol that stands for a syntax error during recovery. -/
def errorSymbol : String := "error"

/-- The syntax of a production, as the parse table refers to it. -/
structure Shape where
  lhs : String
  rhs : List String
  deriving Inhabited

/-- The precedence of a name: its association and level (levels count from 1). -/
def precedenceOf {α : Type} (g : Grammar α) (name : String) : Option (Assoc × Nat) :=
  let indexed := g.levels.zipIdx
  indexed.findSome? fun ((assoc, names), i) => if names.contains name then some (assoc, i + 1) else none

/-- The names that head a production. -/
def nonterminals {α : Type} (g : Grammar α) : List String :=
  g.rules.foldl (fun acc p => if acc.contains p.lhs then acc else acc ++ [p.lhs]) []

/-- The productions in the generator's numbering, each with the index of its action in `rules`;
the augmented production has none. -/
def numbered {α : Type} (g : Grammar α) : Array (Shape × Option Nat) :=
  let indexed := g.rules.zipIdx
  let augmented : Shape × Option Nat := (⟨"S'", [g.start]⟩, none)
  g.nonterminals.foldl (fun acc name =>
    let own := (indexed.filter fun (p, _) => p.lhs = name).reverse
    own.foldl (fun acc (p, i) => acc.push (⟨p.lhs, p.rhs⟩, some i)) acc) #[augmented]

end Grammar
end MatrixLang
