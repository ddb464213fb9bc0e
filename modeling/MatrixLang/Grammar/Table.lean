import MatrixLang.Grammar.Basic

/-!
# Parse tables

A parse table gives, for each state of the parser, an action on each terminal it accepts and the
state it moves to on each nonterminal a reduction leaves. The parser generator builds the table
of a grammar as an LALR(1) automaton and settles its conflicts by the grammar's precedence levels:

* shift against reduce: the reduction wins when its production's level is above the terminal's,
  or equal and left-associative; at equal non-associative levels the entry becomes an error
  (`blocked`); otherwise the shift wins;
* reduce against reduce: the production written first wins.

The tables of the language's versions are written out as data next to their grammars. A state
whose only action is a reduction reduces without reading the next token (`Table.defaultOf`).
-/
namespace MatrixLang.Grammar

/-- An entry of the action table. -/
inductive Action where
  | shift (target : Nat)
  | reduce (prod : Nat)
  | accept
  | blocked
  deriving BEq, DecidableEq, Inhabited, Repr

/-- A parse table: for each state, its actions by terminal and its moves by nonterminal. -/
structure Table where
  actions : Array (List (String × Action))
  goto : Array (List (String × Nat))

namespace Table

/-- The action of a state on a terminal, if it has one. -/
def action (t : Table) (state : Nat) (kind : String) : Option Action :=
  (t.actions[state]?).bind (·.lookup kind)

/-- The state a state moves to on a nonterminal, if any. -/
def target (t : Table) (state : Nat) (symbol : String) : Option Nat :=
  (t.goto[state]?).bind (·.lookup symbol)

/-- The production a state reduces by without reading the next token: its only action, when that
is a reduction. -/
def defaultOf (t : Table) (state : Nat) : Option Nat :=
  match t.actions[state]? with
  | some [(_, .reduce p)] => some p
  | _ => none

end Table

end MatrixLang.Grammar
