import MatrixLang.Proofs.Moves
import MatrixLang.Proofs.Grouping

/-!
# Version 3 parses arithmetic by its precedence levels

The parse table of version 3 settles the conflicts of its grammar by the grammar's precedence
levels. On an assignment `x = e ;` of an arithmetic expression it builds the tree the levels
prescribe for `e` (`Arith.Grouped`).

The parser reads an operand in one of three places: after the operator of an assignment, after a
unary minus, or on the right of a binary operator (`Place`). From each place it shifts the
operand's tokens and reduces its nodes, and stops before the first token that binds no more
tightly than the operand, with the operand's tree on top of the stack (`Arith.runs`). The table
entries this needs are checked once, over every place and every token that may follow an
operand; the states are the table's own numbers.

## Main results

* `Arith.runs`: from every place that admits it, the parser reads a grouped operand to its tree.
* `Outline.parse_grouped_assignment`: `x = e ;`, written with one blank between tokens, parses
  to the assignment of `e`'s tree when the tree is grouped.
* `Outline.parse_assignment_by_precedence`: for every tree of an expression, `x = e ;` parses to
  the assignment of the one grouped tree written with the same words.
-/
namespace MatrixLang.Outline

open Grammar Lexicon

/-- The parser's steps on the tree: a shift for each token and a reduction for each node, with
two more reductions from a name or a number to an expression, and one from a negation or a
transposition. -/
def Arith.steps : Arith → Nat
  | .name _ | .numeral _ => 1 + 1 + 1 + 1
  | .binary _ l r => l.steps + 1 + r.steps + 1
  | .negate e => 1 + e.steps + 1 + 1
  | .transpose e => e.steps + 1 + 1 + 1

/-! ### The places an operand is read in -/

/-- Where the parser reads an operand: after the operator of an assignment, after a unary minus,
or on the right of a binary operator. -/
inductive Place where
  | assigned
  | negated
  | right (op : BinOp)

namespace Place

/-- The state in which the operand starts. -/
def state : Place → Nat
  | assigned => 22
  | negated => 44
  | right .add => 73
  | right .sub => 72
  | right .mul => 71
  | right .div => 70
  | right .dotAdd => 69
  | right .dotSub => 68
  | right .dotMul => 67
  | right .dotDiv => 66

/-- The state the parser moves to once the operand is an expression. -/
def done : Place → Nat
  | assigned => 60
  | negated => 75
  | right .add => 101
  | right .sub => 100
  | right .mul => 99
  | right .div => 98
  | right .dotAdd => 97
  | right .dotSub => 96
  | right .dotMul => 95
  | right .dotDiv => 94

/-- The production that takes the operand, as the table numbers it, and the grammar's rule it is:
the assignment, the negation, or the binary operation. -/
def production : Place → Nat × Nat
  | assigned => (27, 24)
  | negated => (66, 65)
  | right .add => (63, 48)
  | right .sub => (62, 49)
  | right .mul => (61, 50)
  | right .div => (60, 51)
  | right .dotAdd => (59, 52)
  | right .dotSub => (58, 53)
  | right .dotMul => (57, 54)
  | right .dotDiv => (56, 55)

/-- The level of the operator that takes the operand; an assignment's is below every level. -/
def level : Place → Nat
  | assigned => 0
  | negated => levelOf "UMINUS"
  | right op => levelOf op.kind

/-- The levels of the operands a place admits: any after an assignment, one of its own level or
above after a unary minus, and one above the operator's on the right of a binary operator. -/
def Takes : Place → Nat → Prop
  | assigned, _ => True
  | negated, n => levelOf "UMINUS" ≤ n
  | right op, n => levelOf op.kind < n

instance (p : Place) (n : Nat) : Decidable (p.Takes n) := by
  cases p <;> unfold Takes <;> infer_instance

theorem Takes.mono {p : Place} {n m : Nat} (takes : p.Takes n) (le : n ≤ m) : p.Takes m := by
  cases p with
  | assigned => trivial
  | negated => exact Nat.le_trans takes le
  | right op => exact Nat.lt_of_lt_of_le takes le

end Place

/-- The kinds of the tokens that may follow an operand. -/
def followers : List String := [";", "'", "+", "-", "*", "/", "DOTADD", "DOTSUB", "DOTMUL", "DOTDIV"]

/-- A token of this kind may follow an operand that binds at level `n`, and ends it: it binds no
more tightly than the operand. -/
def Follows (n : Nat) (kind : String) : Prop := kind ∈ followers ∧ levelOf kind ≤ n

/-! ### The table's entries for expressions -/

set_option maxRecDepth 100000 in
/-- From every place, names, numbers and unary minus are shifted, the passes to an expression
move on to the same states, and an operand that is an expression is followed by a transposition. -/
theorem place_moves (p : Place) :
    table.actionAt p.state "ID" = some (.shift 18) ∧
    table.actionAt p.state "INTNUM" = some (.shift 47) ∧
    table.actionAt p.state "-" = some (.shift Place.negated.state) ∧
    table.target p.state "var" = some 49 ∧ table.target p.state "number" = some 50 ∧
    table.target p.state "num_expression" = some 43 ∧ table.target p.state "uminus" = some 40 ∧
    table.target p.state "transposition" = some 39 ∧
    table.target p.state "expression" = some p.done ∧
    table.actionAt p.done "'" = some (.shift 74) := by
  cases p with
  | right op => cases op <;> decide
  | _ => decide

set_option maxRecDepth 100000 in
/-- Before every token that may follow an operand, the states of names, numbers, transpositions
and negations reduce. -/
theorem operand_reductions : ∀ k ∈ followers,
    table.actionAt 18 k = some (.reduce 45) ∧ table.actionAt 47 k = some (.reduce 47) ∧
    table.actionAt 49 k = some (.reduce 64) ∧ table.actionAt 50 k = some (.reduce 65) ∧
    table.actionAt 43 k = some (.reduce 55) ∧ table.actionAt 74 k = some (.reduce 67) ∧
    table.actionAt 39 k = some (.reduce 51) ∧ table.actionAt 40 k = some (.reduce 52) := by
  decide

set_option maxRecDepth 100000 in
/-- After an operand, a binary operator that binds more tightly than the place's is shifted. -/
theorem done_shifts (p : Place) (op : BinOp) (takes : p.Takes (levelOf op.kind)) :
    table.actionAt p.done op.kind = some (.shift (Place.right op).state) := by
  revert takes
  cases p with
  | right op' => cases op' <;> cases op <;> decide
  | _ => cases op <;> decide

set_option maxRecDepth 100000 in
/-- After an operand, a token that binds no more tightly than the place's operator reduces by the
place's production. -/
theorem done_reduces (p : Place) : ∀ k ∈ followers, levelOf k ≤ p.level →
    table.actionAt p.done k = some (.reduce p.production.1) := by
  cases p with
  | right op => cases op <;> decide
  | _ => decide

set_option maxRecDepth 100000 in
/-- The moves of an assignment `x = e ;` around its expression: the name becomes the target, `=`
the operator, and the assignment an instruction, the only one of the program. -/
theorem assignment_moves :
    table.actionAt 0 "ID" = some (.shift 18) ∧ table.actionAt 18 "=" = some (.reduce 45) ∧
    table.target 0 "var" = some 6 ∧ table.actionAt 6 "=" = some (.shift 23) ∧
    (∀ k ∈ ["ID", "INTNUM", "-"], table.actionAt 23 k = some (.reduce 20)) ∧
    table.target 6 "assignment_op" = some Place.assigned.state ∧
    table.target 0 "assignment" = some 11 ∧ table.actionAt 11 ";" = some (.shift 32) ∧
    table.actionAt 32 endMarker = some (.reduce 12) ∧ table.target 0 "instruction" = some 4 ∧
    table.actionAt 4 endMarker = some (.reduce 5) ∧ table.target 0 "instructions" = some 3 ∧
    table.actionAt 3 endMarker = some (.reduce 3) ∧ table.target 0 "instructions_opt" = some 2 ∧
    table.actionAt 2 endMarker = some (.reduce 1) ∧ table.target 0 "program" = some 1 := by
  decide

set_option maxRecDepth 100000 in
/-- A program alone on the stack is accepted at the end of the input. -/
theorem program_accepts : table.actionAt 1 endMarker = some .accept := by
  decide

/-! ### The productions -/

/-- The productions an assignment of an arithmetic expression is reduced by: their numbers in
the table, and the rules of the grammar they are. -/
def ruleNumbers : List (Nat × Nat) :=
  [(1, 0), (3, 1), (5, 3), (12, 5), (20, 23), (27, 24), (45, 44), (47, 45), (51, 60), (52, 59),
   (55, 56), (56, 55), (57, 54), (58, 53), (59, 52), (60, 51), (61, 50), (62, 49), (63, 48),
   (64, 64), (65, 63), (66, 65), (67, 66)]

set_option maxRecDepth 100000 in
theorem numbered_rules : ∀ q ∈ ruleNumbers,
    (grammar.numbered[q.1]?).map (fun e => (e.1.lhs, e.1.rhs, e.2)) =
      (grammar.rules[q.2]?).map fun r => (r.lhs, r.rhs, some q.2) := by
  decide

theorem numbered_of {p i : Nat} {r : Production Piece} (listed : (p, i) ∈ ruleNumbers)
    (found : grammar.rules[i]? = some r) : grammar.numbered[p]? = some (⟨r.lhs, r.rhs⟩, some i) := by
  have same := numbered_rules (p, i) listed
  rw [found] at same
  obtain ⟨⟨⟨lhs, rhs⟩, index⟩, numbered, projected⟩ := Option.map_eq_some_iff.1 same
  simp only [Prod.mk.injEq] at projected
  obtain ⟨rfl, rfl, rfl⟩ := projected
  exact numbered

/-- The production of a binary operator, and its three symbols. -/
theorem binary_rule (op : BinOp) : (Place.right op).production ∈ ruleNumbers ∧
    grammar.rules[(Place.right op).production.2]? = some (binary op.spelling op.kind) ∧
    (binary op.spelling op.kind).rhs.length = 3 := by
  cases op <;> exact ⟨by decide, rfl, rfl⟩

variable {lead : String} {report : Reporter}

/-- A reduction by a production of the table that is a rule of the grammar: the cells of the
rule's right-hand side give way to the value the rule builds. -/
theorem reduces {p i s j : Nat} {r : Production Piece} (listed : (p, i) ∈ ruleNumbers)
    (found : grammar.rules[i]? = some r) {states states' : List Nat}
    {cells cells' kids : List (Cell Piece)} {rest : List Token} {v : Piece}
    (act : table.actionAt s (nextKind rest) = some (.reduce p))
    (popped : (s :: states).drop r.rhs.length = states')
    (taken : (cells.take r.rhs.length).reverse = kids) (left : cells.drop r.rhs.length = cells')
    (target : table.target (states'.head?.getD 0) r.lhs = some j)
    (built : r.build (Cell.lineOf kids) kids = v) :
    parser.Moves lead report 1 ⟨s :: states, cells, rest⟩
      ⟨j :: states', .value v :: cells', rest⟩ := by
  obtain ⟨shaped, builds⟩ := Parser.ofGrammar_reduces (t := table) (numbered_of listed found) found
  subst built
  exact Parser.Moves.reduce act shaped builds popped taken left target

/-! ### Reading an operand -/

section Operands

variable {p : Place} {k : Token} (states : List Nat) (cells : List (Cell Piece))
  (rest : List Token)

set_option maxRecDepth 100000 in
/-- A name is shifted and passed on to a variable, a numeric expression and an expression. -/
theorem runs_name {n : String} (follows : k.kind ∈ followers) (line offset : Nat) :
    parser.Moves lead report (Arith.name n).steps
      ⟨p.state :: states, cells, ⟨"ID", .text n, line, offset⟩ :: k :: rest⟩
      ⟨p.done :: p.state :: states, .value (.expr (.var n)) :: cells, k :: rest⟩ := by
  obtain ⟨named, -, -, var, -, numeric, -, -, expression, -⟩ := place_moves p
  obtain ⟨byName, -, byVar, -, byNumeric, -⟩ := operand_reductions k.kind follows
  have toVar : parser.Moves lead report 1
      ⟨18 :: p.state :: states, .token ⟨"ID", .text n, line, offset⟩ :: cells, k :: rest⟩
      ⟨49 :: p.state :: states, .value (.expr (.var n)) :: cells, k :: rest⟩ :=
    reduces (i := 44) (by decide) rfl byName rfl rfl rfl var rfl
  have toNumeric : parser.Moves lead report 1
      ⟨49 :: p.state :: states, .value (.expr (.var n)) :: cells, k :: rest⟩
      ⟨43 :: p.state :: states, .value (.expr (.var n)) :: cells, k :: rest⟩ :=
    reduces (i := 64) (by decide) rfl byVar rfl rfl rfl numeric rfl
  have toExpression : parser.Moves lead report 1
      ⟨43 :: p.state :: states, .value (.expr (.var n)) :: cells, k :: rest⟩
      ⟨p.done :: p.state :: states, .value (.expr (.var n)) :: cells, k :: rest⟩ :=
    reduces (i := 56) (by decide) rfl byNumeric rfl rfl rfl expression rfl
  exact (((Parser.Moves.shift named).trans toVar).trans toNumeric).trans toExpression

set_option maxRecDepth 100000 in
/-- A whole number is shifted and passed on to a number, a numeric expression and an
expression. -/
theorem runs_numeral {m : Nat} (follows : k.kind ∈ followers) (line offset : Nat) :
    parser.Moves lead report (Arith.numeral m).steps
      ⟨p.state :: states, cells, ⟨"INTNUM", .int m, line, offset⟩ :: k :: rest⟩
      ⟨p.done :: p.state :: states, .value (.expr (.int m)) :: cells, k :: rest⟩ := by
  obtain ⟨-, numbered, -, -, number, numeric, -, -, expression, -⟩ := place_moves p
  obtain ⟨-, byNumeral, -, byNumber, byNumeric, -⟩ := operand_reductions k.kind follows
  have toNumber : parser.Moves lead report 1
      ⟨47 :: p.state :: states, .token ⟨"INTNUM", .int m, line, offset⟩ :: cells, k :: rest⟩
      ⟨50 :: p.state :: states, .value (.expr (.int m)) :: cells, k :: rest⟩ :=
    reduces (i := 45) (by decide) rfl byNumeral rfl rfl rfl number rfl
  have toNumeric : parser.Moves lead report 1
      ⟨50 :: p.state :: states, .value (.expr (.int m)) :: cells, k :: rest⟩
      ⟨43 :: p.state :: states, .value (.expr (.int m)) :: cells, k :: rest⟩ :=
    reduces (i := 63) (by decide) rfl byNumber rfl rfl rfl numeric rfl
  have toExpression : parser.Moves lead report 1
      ⟨43 :: p.state :: states, .value (.expr (.int m)) :: cells, k :: rest⟩
      ⟨p.done :: p.state :: states, .value (.expr (.int m)) :: cells, k :: rest⟩ :=
    reduces (i := 56) (by decide) rfl byNumeric rfl rfl rfl expression rfl
  exact (((Parser.Moves.shift numbered).trans toNumber).trans toNumeric).trans toExpression

/-- A binary operation: its left operand is read, the operator shifted, the right operand read
from the operator's place, and the three reduced, before a token that binds no more tightly. -/
theorem runs_binary {op : BinOp} {l r : Arith} {tl tr : List Token} {tk : Token}
    (kind : tk.kind = op.kind) (takes : p.Takes (levelOf op.kind)) (follows : k.kind ∈ followers)
    (weaker : levelOf k.kind ≤ levelOf op.kind)
    (left : parser.Moves lead report l.steps ⟨p.state :: states, cells, tl ++ tk :: (tr ++ k :: rest)⟩
      ⟨p.done :: p.state :: states, .value (.expr l.tree) :: cells, tk :: (tr ++ k :: rest)⟩)
    (right : parser.Moves lead report r.steps
      ⟨(Place.right op).state :: p.done :: p.state :: states,
        .token tk :: .value (.expr l.tree) :: cells, tr ++ k :: rest⟩
      ⟨(Place.right op).done :: (Place.right op).state :: p.done :: p.state :: states,
        .value (.expr r.tree) :: .token tk :: .value (.expr l.tree) :: cells, k :: rest⟩) :
    parser.Moves lead report (Arith.binary op l r).steps
      ⟨p.state :: states, cells, tl ++ tk :: (tr ++ k :: rest)⟩
      ⟨p.done :: p.state :: states, .value (.expr (.binary op.spelling l.tree r.tree)) :: cells,
        k :: rest⟩ := by
  obtain ⟨listed, found, three⟩ := binary_rule op
  have shifted : table.actionAt p.done tk.kind = some (.shift (Place.right op).state) := by
    rw [kind]
    exact done_shifts p op takes
  obtain ⟨-, -, -, -, -, -, -, -, expression, -⟩ := place_moves p
  have reduced : parser.Moves lead report 1
      ⟨(Place.right op).done :: (Place.right op).state :: p.done :: p.state :: states,
        .value (.expr r.tree) :: .token tk :: .value (.expr l.tree) :: cells, k :: rest⟩
      ⟨p.done :: p.state :: states, .value (.expr (.binary op.spelling l.tree r.tree)) :: cells,
        k :: rest⟩ :=
    reduces listed found (done_reduces (.right op) k.kind follows weaker)
      (by rw [three]; rfl) (by rw [three]) (by rw [three]; rfl) expression rfl
  exact ((left.trans (Parser.Moves.shift shifted)).trans right).trans reduced

set_option maxRecDepth 100000 in
/-- A negation: the minus is shifted, the operand read from the place after it, and the two
reduced to a negation and passed on to an expression, before a token that binds no more tightly
than unary minus. -/
theorem runs_negate {e : Arith} {te : List Token} {tk : Token} (kind : tk.kind = "-")
    (follows : k.kind ∈ followers) (weaker : levelOf k.kind ≤ levelOf "UMINUS")
    (operand : parser.Moves lead report e.steps
      ⟨Place.negated.state :: p.state :: states, .token tk :: cells, te ++ k :: rest⟩
      ⟨Place.negated.done :: Place.negated.state :: p.state :: states,
        .value (.expr e.tree) :: .token tk :: cells, k :: rest⟩) :
    parser.Moves lead report (Arith.negate e).steps
      ⟨p.state :: states, cells, tk :: (te ++ k :: rest)⟩
      ⟨p.done :: p.state :: states, .value (.expr (.negate e.tree)) :: cells, k :: rest⟩ := by
  obtain ⟨-, -, minus, -, -, -, uminus, -, expression, -⟩ := place_moves p
  obtain ⟨-, -, -, -, -, -, -, byNegation⟩ := operand_reductions k.kind follows
  have shifted : table.actionAt p.state tk.kind = some (.shift Place.negated.state) := by
    rw [kind]
    exact minus
  have toNegation : parser.Moves lead report 1
      ⟨Place.negated.done :: Place.negated.state :: p.state :: states,
        .value (.expr e.tree) :: .token tk :: cells, k :: rest⟩
      ⟨40 :: p.state :: states, .value (.expr (.negate e.tree)) :: cells, k :: rest⟩ :=
    reduces (i := 65) (by decide) rfl (done_reduces .negated k.kind follows weaker) rfl rfl rfl
      uminus rfl
  have toExpression : parser.Moves lead report 1
      ⟨40 :: p.state :: states, .value (.expr (.negate e.tree)) :: cells, k :: rest⟩
      ⟨p.done :: p.state :: states, .value (.expr (.negate e.tree)) :: cells, k :: rest⟩ :=
    reduces (i := 59) (by decide) rfl byNegation rfl rfl rfl expression rfl
  exact (((Parser.Moves.shift shifted).trans operand).trans toNegation).trans toExpression

set_option maxRecDepth 100000 in
/-- A transposition: the operand is read, the quote shifted, and the two reduced to a
transposition and passed on to an expression, before any token that may follow an operand. -/
theorem runs_transpose {e : Arith} {te : List Token} {tk : Token} (kind : tk.kind = "'")
    (follows : k.kind ∈ followers)
    (operand : parser.Moves lead report e.steps ⟨p.state :: states, cells, te ++ tk :: k :: rest⟩
      ⟨p.done :: p.state :: states, .value (.expr e.tree) :: cells, tk :: k :: rest⟩) :
    parser.Moves lead report (Arith.transpose e).steps
      ⟨p.state :: states, cells, te ++ tk :: k :: rest⟩
      ⟨p.done :: p.state :: states, .value (.expr (.transpose e.tree)) :: cells, k :: rest⟩ := by
  obtain ⟨-, -, -, -, -, -, -, transposition, expression, quote⟩ := place_moves p
  obtain ⟨-, -, -, -, -, byQuote, byTransposition, -⟩ := operand_reductions k.kind follows
  have shifted : table.actionAt p.done tk.kind = some (.shift 74) := by
    rw [kind]
    exact quote
  have toTransposition : parser.Moves lead report 1
      ⟨74 :: p.done :: p.state :: states, .token tk :: .value (.expr e.tree) :: cells, k :: rest⟩
      ⟨39 :: p.state :: states, .value (.expr (.transpose e.tree)) :: cells, k :: rest⟩ :=
    reduces (i := 66) (by decide) rfl byQuote rfl rfl rfl transposition rfl
  have toExpression : parser.Moves lead report 1
      ⟨39 :: p.state :: states, .value (.expr (.transpose e.tree)) :: cells, k :: rest⟩
      ⟨p.done :: p.state :: states, .value (.expr (.transpose e.tree)) :: cells, k :: rest⟩ :=
    reduces (i := 60) (by decide) rfl byTransposition rfl rfl rfl expression rfl
  exact ((operand.trans (Parser.Moves.shift shifted)).trans toTransposition).trans toExpression

end Operands

theorem kind_mem_followers (op : BinOp) : op.kind ∈ followers := by
  cases op <;> decide

/-- Tokens read as one lexeme are the lexeme's token. -/
theorem single_token {ts : List Token} {kind : String} {value : Payload}
    (read : ts.map (fun tk => (tk.kind, tk.value)) = [(kind, value)]) :
    ∃ line offset, ts = [⟨kind, value, line, offset⟩] := by
  obtain ⟨⟨kind', value', line, offset⟩, rfl, sign⟩ := List.map_eq_singleton_iff.1 read
  simp only [Prod.mk.injEq] at sign
  obtain ⟨rfl, rfl⟩ := sign
  exact ⟨line, offset, rfl⟩

/-- Tokens whose kinds and values are those of a list with a lexeme in the middle: the token of
the lexeme, and those before and after it. -/
theorem split_tokens {ts : List Token} {a b : List (String × Payload)} {x : String × Payload}
    (read : ts.map (fun tk => (tk.kind, tk.value)) = a ++ x :: b) :
    ∃ ta tk tb, ts = ta ++ tk :: tb ∧ ta.map (fun tk => (tk.kind, tk.value)) = a ∧
      tk.kind = x.1 ∧ tk.value = x.2 ∧ tb.map (fun tk => (tk.kind, tk.value)) = b := by
  obtain ⟨ta, after, rfl, front, back⟩ := List.map_eq_append_iff.1 read
  obtain ⟨tk, tb, rfl, sign, tail⟩ := List.map_eq_cons_iff.1 back
  exact ⟨ta, tk, tb, rfl, front, congrArg Prod.fst sign, congrArg Prod.snd sign, tail⟩

/-- From every place that admits it, the parser reads a grouped operand to its tree: it shifts
the operand's tokens and reduces its nodes, and stops before a token that binds no more tightly,
with the tree on top of the stack. -/
theorem Arith.runs {t : Arith} (grouped : t.Grouped) {p : Place} (takes : p.Takes t.level)
    {ts : List Token} (read : ts.map (fun tk => (tk.kind, tk.value)) = t.lexemes.map (·.2))
    {k : Token} (follows : Follows t.level k.kind) (states : List Nat)
    (cells : List (Cell Piece)) (rest : List Token) :
    parser.Moves lead report t.steps ⟨p.state :: states, cells, ts ++ k :: rest⟩
      ⟨p.done :: p.state :: states, .value (.expr t.tree) :: cells, k :: rest⟩ := by
  -- induction on the tree; each case reads its operands from the places its operator leaves
  induction t generalizing p ts k states cells rest with
  | name n =>
    obtain ⟨line, offset, rfl⟩ := single_token read
    exact runs_name states cells rest follows.1 line offset
  | numeral m =>
    obtain ⟨line, offset, rfl⟩ := single_token read
    exact runs_numeral states cells rest follows.1 line offset
  | binary op l r left right =>
    obtain ⟨groupedLeft, groupedRight, leftLevel, rightLevel⟩ := grouped_binary.1 grouped
    simp only [Arith.lexemes, List.map_append, List.map_cons] at read
    obtain ⟨tl, tk, tr, rfl, readLeft, kind, -, readRight⟩ := split_tokens read
    have weaker : levelOf k.kind ≤ levelOf op.kind := follows.2
    rw [List.append_assoc, List.cons_append]
    exact runs_binary states cells rest kind takes follows.1 weaker
      (left groupedLeft (takes.mono leftLevel) readLeft
        ⟨kind ▸ kind_mem_followers op, kind ▸ leftLevel⟩ _ _ _)
      (right groupedRight (p := .right op) rightLevel readRight ⟨follows.1, by omega⟩ _ _ _)
  | negate e operand =>
    obtain ⟨groupedOperand, operandLevel⟩ := grouped
    obtain ⟨tk, te, rfl, sign, readOperand⟩ := List.map_eq_cons_iff.1 read
    have weaker : levelOf k.kind ≤ levelOf "UMINUS" := follows.2
    exact runs_negate states cells rest (congrArg Prod.fst sign) follows.1 weaker
      (operand groupedOperand (p := .negated) operandLevel readOperand ⟨follows.1, by omega⟩ _ _ _)
  | transpose e operand =>
    obtain ⟨groupedOperand, operandLevel⟩ := grouped
    simp only [Arith.lexemes, List.map_append, List.map_cons, List.map_nil] at read
    obtain ⟨te, tk, tb, rfl, readOperand, kind, -, after⟩ := split_tokens read
    obtain rfl := List.map_eq_nil_iff.1 after
    have quote : Follows e.level tk.kind := ⟨by rw [kind]; decide, kind ▸ operandLevel⟩
    rw [List.append_assoc, List.cons_append, List.nil_append]
    exact runs_transpose states cells rest kind follows.1
      (operand groupedOperand (takes.mono operandLevel) readOperand quote _ _ _)

/-- Each of the parser's steps on a tree is paid for by one of its tokens, four at most by each. -/
theorem Arith.steps_le (t : Arith) : t.steps ≤ 4 * t.lexemes.length := by
  induction t with
  | name _ | numeral _ => simp [Arith.steps, Arith.lexemes]
  | binary op l r left right =>
    simp only [Arith.steps, Arith.lexemes, List.length_append, List.length_cons]
    omega
  | negate e operand =>
    simp only [Arith.steps, Arith.lexemes, List.length_cons]
    omega
  | transpose e operand =>
    simp only [Arith.steps, Arith.lexemes, List.length_append, List.length_cons, List.length_nil]
    omega

/-! ### The assignment of an expression -/

/-- Each operator is one word of version 3: a mark, or an operator spelled with a point. -/
theorem BinOp.word : ∀ op : BinOp, Word op.spelling op.kind (.text op.spelling)
  | .add => .mark (c := '+') (by decide)
  | .sub => .mark (c := '-') (by decide)
  | .mul => .mark (c := '*') (by decide)
  | .div => .mark (c := '/') (by decide)
  | .dotAdd | .dotSub | .dotMul | .dotDiv => .pointed (by decide)

/-- The words of a spelled tree are words of version 3, each with its token's kind and value. -/
theorem Arith.words_of_spelled {t : Arith} (spelled : t.Spelled) :
    ∀ x ∈ t.lexemes, Word x.1 x.2.1 x.2.2 := by
  induction t with
  | name n =>
    intro x member
    obtain rfl := List.mem_singleton.1 member
    exact .name ((spelled _ member).1 rfl)
  | numeral m =>
    intro x member
    obtain rfl := List.mem_singleton.1 member
    exact .numeral ((spelled _ member).2 rfl)
  | binary op l r left right =>
    intro x member
    simp only [Arith.lexemes, List.mem_append, List.mem_cons] at member
    rcases member with inLeft | rfl | inRight
    · exact left (fun y inner => spelled y (by simp [Arith.lexemes, inner])) x inLeft
    · exact op.word
    · exact right (fun y inner => spelled y (by simp [Arith.lexemes, inner])) x inRight
  | negate e operand =>
    intro x member
    rcases List.mem_cons.1 member with rfl | inner
    · exact .mark (c := '-') (by decide)
    · exact operand (fun y inner => spelled y (List.mem_cons_of_mem _ inner)) x inner
  | transpose e operand =>
    intro x member
    rcases List.mem_append.1 member with inner | quote
    · exact operand (fun y inner => spelled y (List.mem_append_left _ inner)) x inner
    · obtain rfl := List.mem_singleton.1 quote
      exact .mark (c := '\'') (by decide)

/-- A tree's first token is a name, a number or a minus. -/
theorem Arith.lexemes_head (t : Arith) :
    ∃ x xs, t.lexemes = x :: xs ∧ x.2.1 ∈ ["ID", "INTNUM", "-"] := by
  induction t with
  | name n => exact ⟨_, [], rfl, by simp⟩
  | numeral m => exact ⟨_, [], rfl, by simp⟩
  | binary op l r left _ =>
    obtain ⟨x, xs, lexed, first⟩ := left
    exact ⟨x, xs ++ (op.spelling, op.kind, .text op.spelling) :: r.lexemes,
      by simp [Arith.lexemes, lexed], first⟩
  | negate e _ => exact ⟨_, _, rfl, by simp⟩
  | transpose e operand =>
    obtain ⟨x, xs, lexed, first⟩ := operand
    exact ⟨x, xs ++ [("'", "'", .text "'")], by simp [Arith.lexemes, lexed], first⟩

/-- The text of `x = e ;` is its words with one blank between them. -/
theorem assignment_text (t : Arith) :
    "x = " ++ t.text ++ " ;" = " ".intercalate ("x" :: "=" :: (t.lexemes.map (·.1) ++ [";"])) := by
  obtain ⟨y, ys, lexed, -⟩ := t.lexemes_head
  have words : t.lexemes.map (·.1) ≠ [] := by simp [lexed]
  obtain ⟨u, us, split⟩ := List.exists_cons_of_ne_nil (by simp : t.lexemes.map (·.1) ++ [";"] ≠ [])
  rw [String.intercalate_cons_cons, split, String.intercalate_cons_cons, ← split,
    String.intercalate_append_of_ne_nil words (by simp), String.intercalate_singleton, Arith.text]
  simp only [String.append_assoc]
  rfl

/-- The scan of `x = e ;` for a spelled tree: the name, the operator, the tokens of the
expression and the semicolon, and nothing else. -/
theorem scan_assignment {t : Arith} (spelled : t.Spelled) :
    ∃ tx te ts tsemi, v3.scan ("x = " ++ t.text ++ " ;") =
        ⟨(tx :: te :: (ts ++ [tsemi])).map .token, none⟩ ∧
      (tx.kind, tx.value) = ("ID", .text "x") ∧ te.kind = "=" ∧
      ts.map (fun tk => (tk.kind, tk.value)) = t.lexemes.map (·.2) ∧ tsemi.kind = ";" := by
  have words : ∀ w ∈ ("x", "ID", Payload.text "x") :: ("=", "=", Payload.text "=") ::
      (t.lexemes ++ [(";", ";", Payload.text ";")]), Word w.1 w.2.1 w.2.2 := by
    intro w member
    simp only [List.mem_cons, List.mem_append, List.not_mem_nil, or_false] at member
    rcases member with rfl | rfl | inner | rfl
    · exact .name (by decide)
    · exact .mark (c := '=') (by decide)
    · exact t.words_of_spelled spelled w inner
    · exact .mark (c := ';') (by decide)
  obtain ⟨tokens, scanned, signs⟩ := scan_words words
  simp only [List.map_cons, List.map_append, List.map_nil] at scanned signs
  rw [← assignment_text] at scanned
  obtain ⟨tx, more, rfl, name, signs⟩ := List.map_eq_cons_iff.1 signs
  obtain ⟨te, more, rfl, operator, signs⟩ := List.map_eq_cons_iff.1 signs
  obtain ⟨ts, tail, rfl, read, tail⟩ := List.map_eq_append_iff.1 signs
  obtain ⟨tsemi, rfl, semicolon⟩ := List.map_eq_singleton_iff.1 tail
  exact ⟨tx, te, ts, tsemi, scanned, name, congrArg Prod.fst operator, read,
    congrArg Prod.fst semicolon⟩

set_option maxRecDepth 100000 in
/-- The parser's moves on `x = e ;`: the name becomes the target and `=` the operator, the
expression is read after them, and the assignment becomes the one instruction of the program. -/
theorem assignment_runs {t : Arith} (grouped : t.Grouped) {tx te tsemi : Token}
    {ts : List Token} (name : (tx.kind, tx.value) = ("ID", .text "x")) (operator : te.kind = "=")
    (read : ts.map (fun tk => (tk.kind, tk.value)) = t.lexemes.map (·.2))
    (semicolon : tsemi.kind = ";") :
    parser.Moves lead report (1 + 1 + 1 + 1 + t.steps + 1 + 1 + 1 + 1 + 1 + 1)
      ⟨[0], [], tx :: te :: (ts ++ [tsemi])⟩
      ⟨[1, 0], [.value (.program ⟨[.assign "=" (.var "x") t.tree]⟩)], []⟩ := by
  obtain ⟨kind, value, line, offset⟩ := tx
  simp only [Prod.mk.injEq] at name
  obtain ⟨rfl, rfl⟩ := name
  obtain ⟨kind', value', line', offset'⟩ := te
  obtain rfl : kind' = "=" := operator
  obtain ⟨kind'', value'', line'', offset''⟩ := tsemi
  obtain rfl : kind'' = ";" := semicolon
  obtain ⟨named, byName, var, operated, byOperator, operatorState, assignment, ended,
    byInstruction, instruction, byInstructions, instructions, byOptional, optional, byProgram,
    program⟩ := assignment_moves
  obtain ⟨y, ys, lexed, first⟩ := t.lexemes_head
  have ahead : nextKind (ts ++ [⟨";", value'', line'', offset''⟩]) = y.2.1 := by
    rw [lexed] at read
    obtain ⟨tk, more, rfl, sign, -⟩ := List.map_eq_cons_iff.1 read
    exact congrArg Prod.fst sign
  have toTarget : parser.Moves lead report 1
      ⟨[18, 0], [.token ⟨"ID", .text "x", line, offset⟩],
        ⟨"=", value', line', offset'⟩ :: (ts ++ [⟨";", value'', line'', offset''⟩])⟩
      ⟨[6, 0], [.value (.expr (.var "x"))],
        ⟨"=", value', line', offset'⟩ :: (ts ++ [⟨";", value'', line'', offset''⟩])⟩ :=
    reduces (i := 44) (by decide) rfl byName rfl rfl rfl var rfl
  have toOperator : parser.Moves lead report 1
      ⟨[23, 6, 0], [.token ⟨"=", value', line', offset'⟩, .value (.expr (.var "x"))],
        ts ++ [⟨";", value'', line'', offset''⟩]⟩
      ⟨[22, 6, 0], [.value (.word "="), .value (.expr (.var "x"))],
        ts ++ [⟨";", value'', line'', offset''⟩]⟩ :=
    reduces (p := 20) (i := 23) (by decide) rfl (by rw [ahead]; exact byOperator _ first) rfl rfl rfl
      operatorState rfl
  have expression : parser.Moves lead report _ _ _ := Arith.runs grouped (p := .assigned) trivial
    read (k := ⟨";", value'', line'', offset''⟩)
    ⟨(by decide : ";" ∈ followers), (by decide : levelOf ";" = 0) ▸ Nat.zero_le _⟩ [6, 0]
    [.value (.word "="), .value (.expr (.var "x"))] []
  have toAssignment : parser.Moves lead report 1
      ⟨[60, 22, 6, 0], [.value (.expr t.tree), .value (.word "="), .value (.expr (.var "x"))],
        [⟨";", value'', line'', offset''⟩]⟩
      ⟨[11, 0], [.value (.instr (.assign "=" (.var "x") t.tree))],
        [⟨";", value'', line'', offset''⟩]⟩ :=
    reduces (i := 24) (by decide) rfl (done_reduces .assigned ";" (by decide) (by decide)) rfl
      rfl rfl assignment rfl
  have toInstruction : parser.Moves lead report 1
      ⟨[32, 11, 0], [.token ⟨";", value'', line'', offset''⟩,
        .value (.instr (.assign "=" (.var "x") t.tree))], []⟩
      ⟨[4, 0], [.value (.instr (.assign "=" (.var "x") t.tree))], []⟩ :=
    reduces (i := 5) (by decide) rfl byInstruction rfl rfl rfl instruction rfl
  have toInstructions : parser.Moves lead report 1
      ⟨[4, 0], [.value (.instr (.assign "=" (.var "x") t.tree))], []⟩
      ⟨[3, 0], [.value (.instrs [.assign "=" (.var "x") t.tree])], []⟩ :=
    reduces (i := 3) (by decide) rfl byInstructions rfl rfl rfl instructions rfl
  have toOptional : parser.Moves lead report 1
      ⟨[3, 0], [.value (.instrs [.assign "=" (.var "x") t.tree])], []⟩
      ⟨[2, 0], [.value (.instrs [.assign "=" (.var "x") t.tree])], []⟩ :=
    reduces (i := 1) (by decide) rfl byOptional rfl rfl rfl optional rfl
  have toProgram : parser.Moves lead report 1
      ⟨[2, 0], [.value (.instrs [.assign "=" (.var "x") t.tree])], []⟩
      ⟨[1, 0], [.value (.program ⟨[.assign "=" (.var "x") t.tree]⟩)], []⟩ :=
    reduces (i := 0) (by decide) rfl byProgram rfl rfl rfl program rfl
  exact Parser.Moves.shift named |>.trans toTarget |>.trans (Parser.Moves.shift operated)
    |>.trans toOperator |>.trans expression |>.trans toAssignment
    |>.trans (Parser.Moves.shift ended) |>.trans toInstruction |>.trans toInstructions
    |>.trans toOptional |>.trans toProgram

/-- An assignment `x = e ;` of a grouped tree, written with one blank between tokens, parses to
the assignment of the tree, and writes nothing. -/
theorem parse_grouped_assignment (t : Arith) (grouped : t.Grouped) (spelled : t.Spelled) :
    parse ("x = " ++ t.text ++ " ;") = (.ok (some ⟨[.assign "=" (.var "x") t.tree]⟩), {}) := by
  obtain ⟨tx, te, ts, tsemi, scanned, name, operator, read, semicolon⟩ := scan_assignment spelled
  have moves : parser.Moves "" report _ _ _ :=
    assignment_runs grouped name operator read semicolon
  -- the run's budget of steps, quadratic in the number of tokens, covers the moves
  have bound := t.steps_le
  have counted : ts.length = t.lexemes.length := by simpa using congrArg List.length read
  have budget : ∀ n, ts.length + 5 = n → ∃ fuel,
      8 * n * (n + 1024) = 1 + 1 + 1 + 1 + t.steps + 1 + 1 + 1 + 1 + 1 + 1 + (fuel + 1) := by
    intro n length
    have large : 8 * n * 1024 ≤ 8 * n * (n + 1024) := Nat.mul_le_mul_left _ (Nat.le_add_left _ _)
    exact ⟨8 * n * (n + 1024) - (t.steps + 11), by omega⟩
  have run : parser.run "" report (v3.scan ("x = " ++ t.text ++ " ;")) {} =
      (.ok (some (.program ⟨[.assign "=" (.var "x") t.tree]⟩)), {}) := by
    unfold Parser.run
    rw [scanned]
    dsimp only
    obtain ⟨fuel, steps⟩ :=
      budget ((List.map Event.token (tx :: te :: (ts ++ [tsemi]))).length + 2) (by simp)
    rw [steps]
    exact moves.accepts program_accepts ⟨rfl, rfl, .unread _, rfl, rfl, rfl⟩ fuel
  unfold parse
  rw [run]
  rfl

/-- The tree the precedence levels prescribe for a text is unique: two grouped trees written alike
are the same tree, since the parser builds both. -/
theorem Arith.grouped_unique {g g' : Arith} (grouped : g.Grouped) (grouped' : g'.Grouped)
    (spelled : g.Spelled) (same : g'.lexemes = g.lexemes) : g' = g := by
  have parsed := parse_grouped_assignment g' grouped' (spelled.of_lexemes same)
  rw [Arith.text_of_lexemes same, parse_grouped_assignment g grouped spelled] at parsed
  simp only [Prod.mk.injEq, Except.ok.injEq, Option.some.injEq, Program.mk.injEq, List.cons.injEq,
    Instr.assign.injEq, true_and, and_true] at parsed
  exact Arith.tree_injective parsed.symm

/-- An assignment `x = e ;` of an arithmetic expression, written with one blank between tokens,
parses to the assignment of the tree the grammar's precedence levels prescribe for `e`, and writes
nothing. Whatever tree `e` is read from, exactly one grouped tree is written with its words:
operators of a higher level bind more tightly, binary operators of one level group to the left,
unary minus binds more tightly than every binary operator and transposition most tightly. The
names must not be keywords and the numbers have at most `numeralLimit` digits. -/
theorem parse_assignment_by_precedence (t : Arith) (spelled : t.Spelled) :
    ∃ g : Arith, g.Grouped ∧ g.lexemes = t.lexemes ∧
      (∀ g' : Arith, g'.Grouped → g'.lexemes = t.lexemes → g' = g) ∧
      parse ("x = " ++ t.text ++ " ;") = (.ok (some ⟨[.assign "=" (.var "x") g.tree]⟩), {}) := by
  have regrouped : t.regroup.Spelled := spelled.of_lexemes t.lexemes_regroup
  refine ⟨t.regroup, t.regroup_grouped, t.lexemes_regroup, fun g' grouped' same =>
    Arith.grouped_unique t.regroup_grouped grouped' regrouped (same.trans t.lexemes_regroup.symm),
    ?_⟩
  rw [Arith.text_of_lexemes t.lexemes_regroup.symm]
  exact parse_grouped_assignment t.regroup t.regroup_grouped regrouped

/-- `x = - a + b ;`, read from the tree `-(a + b)`, assigns `(-a) + b`: unary minus binds more
tightly than the sum. -/
theorem parse_negated_sum_by_precedence :
    parse "x = - a + b ;" = (.ok (some ⟨[.assign "=" (.var "x")
      (.binary "+" (.negate (.var "a")) (.var "b"))]⟩), {}) := by
  obtain ⟨g, -, -, unique, parsed⟩ :=
    parse_assignment_by_precedence (.negate (.binary .add (.name "a") (.name "b"))) (by decide)
  obtain rfl := unique (.binary .add (.negate (.name "a")) (.name "b")) (by decide) rfl
  have text : "x = " ++ (Arith.negate (.binary .add (.name "a") (.name "b"))).text ++ " ;" =
      "x = - a + b ;" := by decide
  rw [text] at parsed
  exact parsed

end MatrixLang.Outline
