import MatrixLang.Proofs.Spacing
import MatrixLang.Outline.Grammar

/-!
# Arithmetic grouped by precedence levels

An arithmetic expression of names, whole numbers, the eight binary operators, unary minus and
transposition, written without parentheses, can be read as many trees: the grammar of version 3
is ambiguous on it. Its precedence levels (`Outline.grammar.levels`) prescribe one of them. In the
tree they prescribe every operand binds at least as tightly as the operator that takes it, and
more tightly on the side a binary operator does not associate to (`Arith.Grouped`).

Every tree can be regrouped so (`Arith.regroup`), keeping its words. A negation or a
transposition moves inside the binary operations at the edge of its operand (`Arith.pre`,
`Arith.post`), and two operands joined by an operator are merged along the spines that face each
other: the operator of lowest level takes the rest, the rightmost of them when several share a
level (`Arith.join`).

## Main results

* `Arith.regroup_grouped`, `Arith.lexemes_regroup`: every tree has a grouped tree written with the
  same words.
-/
namespace MatrixLang

/-- Whether operands binding at levels `a` and `b` can stand left and right of an operator of
level `n` with this association, without parentheses: each binds more tightly than the operator,
but on the side the operator associates to, where one of its own level may stand. -/
def Assoc.Allows : Assoc → Nat → Nat → Nat → Prop
  | .left, n, a, b => n ≤ a ∧ n < b
  | .right, n, a, b => n < a ∧ n ≤ b
  | .nonassoc, n, a, b => n < a ∧ n < b

instance (x : Assoc) (n a b : Nat) : Decidable (x.Allows n a b) := by
  cases x <;> unfold Assoc.Allows <;> infer_instance

namespace Outline

open Grammar Lexicon

/-! ### Expressions and the trees the precedence levels prescribe -/

/-- The binary operators of arithmetic. -/
inductive BinOp where
  | add
  | sub
  | mul
  | div
  | dotAdd
  | dotSub
  | dotMul
  | dotDiv
  deriving DecidableEq, Repr

namespace BinOp

/-- The kind of the operator's token. -/
def kind : BinOp → String
  | add => "+"
  | sub => "-"
  | mul => "*"
  | div => "/"
  | dotAdd => "DOTADD"
  | dotSub => "DOTSUB"
  | dotMul => "DOTMUL"
  | dotDiv => "DOTDIV"

/-- How the operator is written, which is also how the tree names it. -/
def spelling : BinOp → String
  | add => "+"
  | sub => "-"
  | mul => "*"
  | div => "/"
  | dotAdd => ".+"
  | dotSub => ".-"
  | dotMul => ".*"
  | dotDiv => "./"

end BinOp

/-- Arithmetic expressions written without parentheses. -/
inductive Arith where
  | name (n : String)
  | numeral (k : Nat)
  | binary (op : BinOp) (left right : Arith)
  | negate (e : Arith)
  | transpose (e : Arith)
  deriving DecidableEq, Repr

/-- The level of a name in the grammar's precedence table; `0` for a name it does not list. -/
def levelOf (name : String) : Nat := ((grammar.precedenceOf name).map Prod.snd).getD 0

/-- The association of a name in the grammar's precedence table. -/
def assocOf (name : String) : Assoc := ((grammar.precedenceOf name).map Prod.fst).getD .nonassoc

/-- Whether a word is read as one token of the kind it stands for: a name must not be a keyword,
and a number must have at most `numeralLimit` digits. -/
def Readable (x : String × String × Payload) : Prop :=
  (x.2.1 = "ID" → isName x.1 = true) ∧ (x.2.1 = "INTNUM" → x.1.length ≤ numeralLimit)

instance (x : String × String × Payload) : Decidable (Readable x) := by
  unfold Readable
  infer_instance

namespace Arith

/-- The level a tree binds at: its top operator's; names and numbers bind above every level. -/
def level : Arith → Nat
  | name _ | numeral _ => grammar.levels.length + 1
  | binary op _ _ => levelOf op.kind
  | negate _ => levelOf "UMINUS"
  | transpose _ => levelOf "'"

/-- The tree the grammar's precedence levels prescribe: the operands of a binary operator stand
as its level and association allow, and the operand of unary minus or of transposition binds at
least as tightly as the operator. -/
def Grouped : Arith → Prop
  | name _ | numeral _ => True
  | binary op l r => l.Grouped ∧ r.Grouped ∧ (assocOf op.kind).Allows (levelOf op.kind) l.level r.level
  | negate e => e.Grouped ∧ levelOf "UMINUS" ≤ e.level
  | transpose e => e.Grouped ∧ levelOf "'" ≤ e.level

instance decGrouped : (t : Arith) → Decidable t.Grouped
  | name _ | numeral _ => isTrue trivial
  | binary _ l r =>
    have := decGrouped l
    have := decGrouped r
    inferInstanceAs (Decidable (_ ∧ _ ∧ _))
  | negate e =>
    have := decGrouped e
    inferInstanceAs (Decidable (_ ∧ _))
  | transpose e =>
    have := decGrouped e
    inferInstanceAs (Decidable (_ ∧ _))

/-- The tree written out without parentheses: each word, with the kind and value of its token. -/
def lexemes : Arith → List (String × String × Payload)
  | name n => [(n, "ID", .text n)]
  | numeral k => [(toString k, "INTNUM", .int k)]
  | binary op l r => l.lexemes ++ (op.spelling, op.kind, .text op.spelling) :: r.lexemes
  | negate e => ("-", "-", .text "-") :: e.lexemes
  | transpose e => e.lexemes ++ [("'", "'", .text "'")]

/-- Every word of the tree is read as the token it stands for. -/
def Spelled (t : Arith) : Prop := ∀ x ∈ t.lexemes, Readable x

instance (t : Arith) : Decidable t.Spelled := by
  unfold Spelled
  infer_instance

/-- The text of the tree, with one blank between tokens. -/
def text (t : Arith) : String := " ".intercalate (t.lexemes.map (·.1))

/-- The syntax tree of version 3 for the expression. -/
def tree : Arith → Expr
  | name n => .var n
  | numeral k => .int k
  | binary op l r => .binary op.spelling l.tree r.tree
  | negate e => .negate e.tree
  | transpose e => .transpose e.tree

end Arith

theorem BinOp.spelling_injective : Function.Injective BinOp.spelling := by
  intro a b same
  cases a <;> cases b <;> first | rfl | exact absurd same (by decide)

theorem Arith.tree_injective : Function.Injective Arith.tree := by
  intro a
  induction a with
  | name n => intro b same; cases b <;> simp_all [Arith.tree]
  | numeral m => intro b same; cases b <;> simp_all [Arith.tree]
  | binary op l r left right =>
    intro b same
    cases b <;> simp only [Arith.tree, Expr.binary.injEq, reduceCtorEq] at same
    obtain ⟨spelled, sameLeft, sameRight⟩ := same
    rw [BinOp.spelling_injective spelled, left sameLeft, right sameRight]
  | negate e operand =>
    intro b same
    cases b <;> simp only [Arith.tree, Expr.negate.injEq, reduceCtorEq] at same
    rw [operand same]
  | transpose e operand =>
    intro b same
    cases b <;> simp only [Arith.tree, Expr.transpose.injEq, reduceCtorEq] at same
    rw [operand same]

/-- The text of a tree depends on its words alone. -/
theorem Arith.text_of_lexemes {a b : Arith} (same : a.lexemes = b.lexemes) : a.text = b.text := by
  rw [Arith.text, Arith.text, same]

/-- Whether a tree is spelled depends on its words alone. -/
theorem Arith.Spelled.of_lexemes {a b : Arith} (spelled : a.Spelled) (same : b.lexemes = a.lexemes) :
    b.Spelled :=
  fun x member => spelled x (same ▸ member)

/-! ### The levels of version 3 -/

theorem assocOf_kind (op : BinOp) : assocOf op.kind = .left := by
  cases op <;> decide

/-- Every binary operator of version 3 associates to the left. -/
@[simp] theorem grouped_binary {op : BinOp} {l r : Arith} :
    (Arith.binary op l r).Grouped ↔
      l.Grouped ∧ r.Grouped ∧ levelOf op.kind ≤ l.level ∧ levelOf op.kind < r.level := by
  simp only [Arith.Grouped, assocOf_kind, Assoc.Allows]

@[simp] theorem Arith.level_binary {op : BinOp} {l r : Arith} :
    (Arith.binary op l r).level = levelOf op.kind := rfl

theorem BinOp.level_lt_uminus (op : BinOp) : levelOf op.kind < levelOf "UMINUS" := by
  cases op <;> decide

theorem uminus_lt_quote : levelOf "UMINUS" < levelOf "'" := by decide

theorem quote_lt_leaf : levelOf "'" < grammar.levels.length + 1 := by decide

/-- Names, numbers, negations and transpositions bind at least as tightly as unary minus, and
so more tightly than every binary operator. -/
theorem Arith.uminus_le_level {t : Arith} (other : ∀ op l r, t = binary op l r → False) :
    levelOf "UMINUS" ≤ t.level := by
  cases t with
  | binary op l r => exact absurd rfl (other op l r)
  | name _ | numeral _ => exact Nat.le_of_lt (Nat.lt_trans uminus_lt_quote quote_lt_leaf)
  | negate _ => exact Nat.le_refl _
  | transpose _ => exact Nat.le_of_lt uminus_lt_quote

theorem Arith.binary_lt_level {t : Arith} (other : ∀ op l r, t = binary op l r → False)
    (op : BinOp) : levelOf op.kind < t.level :=
  Nat.lt_of_lt_of_le op.level_lt_uminus (uminus_le_level other)

/-! ### Regrouping -/

namespace Arith

/-- A grouped tree after a minus, regrouped: the minus takes the tree's first operand. -/
def pre : Arith → Arith
  | binary op l r => binary op (pre l) r
  | t => negate t

/-- A grouped tree before a quote, regrouped: the quote takes the tree's last operand, inside
its negations. -/
def post : Arith → Arith
  | binary op l r => binary op l (post r)
  | negate e => negate (post e)
  | t => transpose t

/-- Two grouped trees joined by a binary operator, regrouped. The operator of lowest level among
`op` and those on the facing spines of the operands takes the rest: the left operand's top
operator when it binds less tightly than `op` and the right operand's, else the right operand's
when it binds no more tightly than `op` (operators of one level group to the left), else `op`. -/
def join (op : BinOp) : Arith → Arith → Arith
  | binary opl l₁ l₂, binary opr r₁ r₂ =>
    if levelOf opl.kind < levelOf op.kind ∧ levelOf opl.kind < levelOf opr.kind then
      binary opl l₁ (join op l₂ (binary opr r₁ r₂))
    else if levelOf opr.kind ≤ levelOf op.kind then
      binary opr (join op (binary opl l₁ l₂) r₁) r₂
    else binary op (binary opl l₁ l₂) (binary opr r₁ r₂)
  | binary opl l₁ l₂, r =>
    if levelOf opl.kind < levelOf op.kind then binary opl l₁ (join op l₂ r)
    else binary op (binary opl l₁ l₂) r
  | l, binary opr r₁ r₂ =>
    if levelOf opr.kind ≤ levelOf op.kind then binary opr (join op l r₁) r₂
    else binary op l (binary opr r₁ r₂)
  | l, r => binary op l r

/-- A tree regrouped by the precedence levels. -/
def regroup : Arith → Arith
  | binary op l r => join op l.regroup r.regroup
  | negate e => pre e.regroup
  | transpose e => post e.regroup
  | t => t

theorem lexemes_pre (g : Arith) : (pre g).lexemes = ("-", "-", .text "-") :: g.lexemes := by
  induction g with
  | binary op l r left _ => simp [pre, lexemes, left]
  | _ => rfl

theorem lexemes_post (g : Arith) : (post g).lexemes = g.lexemes ++ [("'", "'", .text "'")] := by
  induction g with
  | binary op l r _ right => simp [post, lexemes, right]
  | negate e operand => simp [post, lexemes, operand]
  | _ => rfl

theorem lexemes_join (op : BinOp) (l r : Arith) :
    (join op l r).lexemes = l.lexemes ++ (op.spelling, op.kind, .text op.spelling) :: r.lexemes := by
  fun_induction join op l r <;> simp [lexemes, *]

/-- Regrouping keeps the words. -/
theorem lexemes_regroup (t : Arith) : t.regroup.lexemes = t.lexemes := by
  induction t with
  | binary op l r left right => rw [regroup, lexemes_join, left, right, lexemes]
  | negate e operand => rw [regroup, lexemes_pre, operand, lexemes]
  | transpose e operand => rw [regroup, lexemes_post, operand, lexemes]
  | _ => rfl

/-- A grouped tree after a minus regroups to a grouped tree that binds as tightly as the minus or
its first operator. -/
theorem pre_grouped {g : Arith} (grouped : g.Grouped) :
    (pre g).Grouped ∧ (pre g).level = min g.level (levelOf "UMINUS") := by
  induction g with
  | binary op l r left _ =>
    obtain ⟨groupedLeft, groupedRight, below, above⟩ := grouped_binary.1 grouped
    obtain ⟨negated, level⟩ := left groupedLeft
    have lower := op.level_lt_uminus
    refine ⟨grouped_binary.2 ⟨negated, groupedRight, by omega, above⟩, ?_⟩
    show levelOf op.kind = min (levelOf op.kind) (levelOf "UMINUS")
    omega
  | name _ | numeral _ =>
    have lower := Nat.lt_trans uminus_lt_quote quote_lt_leaf
    exact ⟨⟨trivial, Nat.le_of_lt lower⟩, (Nat.min_eq_right (Nat.le_of_lt lower)).symm⟩
  | negate e _ => exact ⟨⟨grouped, Nat.le_refl _⟩, (Nat.min_self _).symm⟩
  | transpose e _ =>
    have lower := Nat.le_of_lt uminus_lt_quote
    exact ⟨⟨grouped, lower⟩, (Nat.min_eq_right lower).symm⟩

/-- A grouped tree before a quote regroups to a grouped tree that binds as tightly as the quote
or its last operator. -/
theorem post_grouped {g : Arith} (grouped : g.Grouped) :
    (post g).Grouped ∧ (post g).level = min g.level (levelOf "'") := by
  induction g with
  | binary op l r _ right =>
    obtain ⟨groupedLeft, groupedRight, below, above⟩ := grouped_binary.1 grouped
    obtain ⟨transposed, level⟩ := right groupedRight
    have lower := Nat.lt_trans op.level_lt_uminus uminus_lt_quote
    refine ⟨grouped_binary.2 ⟨groupedLeft, transposed, below, by omega⟩, ?_⟩
    show levelOf op.kind = min (levelOf op.kind) (levelOf "'")
    omega
  | negate e operand =>
    obtain ⟨groupedOperand, bound⟩ := grouped
    obtain ⟨transposed, level⟩ := operand groupedOperand
    have lower := uminus_lt_quote
    refine ⟨⟨transposed, by omega⟩, ?_⟩
    show levelOf "UMINUS" = min (levelOf "UMINUS") (levelOf "'")
    omega
  | transpose e _ => exact ⟨⟨grouped, Nat.le_refl _⟩, (Nat.min_self _).symm⟩
  | name _ | numeral _ =>
    have lower := Nat.le_of_lt quote_lt_leaf
    exact ⟨⟨trivial, lower⟩, (Nat.min_eq_right lower).symm⟩

/-- Two grouped trees joined by an operator regroup to a grouped tree that binds at the lowest of
the three levels. -/
theorem join_grouped {op : BinOp} {l r : Arith} (left : l.Grouped) (right : r.Grouped) :
    (join op l r).Grouped ∧ (join op l r).level = min (min l.level (levelOf op.kind)) r.level := by
  fun_induction join op l r with
  | case1 opl l₁ l₂ opr r₁ r₂ lower inner =>
    -- the left operand's operator stays on top, with `op` joined into its right operand
    obtain ⟨groupedFirst, groupedSecond, first, second⟩ := grouped_binary.1 left
    obtain ⟨joined, level⟩ := inner groupedSecond right
    simp only [level_binary] at level ⊢
    exact ⟨grouped_binary.2 ⟨groupedFirst, joined, first, by omega⟩, by omega⟩
  | case2 opl l₁ l₂ opr r₁ r₂ notLower atMost inner =>
    -- the right operand's operator goes on top, with `op` joined into its left operand
    obtain ⟨groupedFirst, groupedSecond, first, second⟩ := grouped_binary.1 right
    obtain ⟨joined, level⟩ := inner left groupedFirst
    simp only [level_binary] at level notLower ⊢
    exact ⟨grouped_binary.2 ⟨joined, groupedSecond, by omega, second⟩, by omega⟩
  | case3 opl l₁ l₂ opr r₁ r₂ notLower above =>
    simp only [level_binary] at notLower ⊢
    refine ⟨grouped_binary.2 ⟨left, right, ?_, ?_⟩, by omega⟩ <;> simp only [level_binary] <;> omega
  | case4 opl l₁ l₂ r other lower inner =>
    obtain ⟨groupedFirst, groupedSecond, first, second⟩ := grouped_binary.1 left
    obtain ⟨joined, level⟩ := inner groupedSecond right
    have tighter := binary_lt_level other opl
    simp only [level_binary] at level ⊢
    exact ⟨grouped_binary.2 ⟨groupedFirst, joined, first, by omega⟩, by omega⟩
  | case5 opl l₁ l₂ r other notLower =>
    have tighter := binary_lt_level other op
    simp only [level_binary] at notLower ⊢
    exact ⟨grouped_binary.2 ⟨left, right, by simp only [level_binary]; omega, tighter⟩, by omega⟩
  | case6 l opr r₁ r₂ other atMost inner =>
    obtain ⟨groupedFirst, groupedSecond, first, second⟩ := grouped_binary.1 right
    obtain ⟨joined, level⟩ := inner left groupedFirst
    have tighter := binary_lt_level other opr
    simp only [level_binary] at level ⊢
    exact ⟨grouped_binary.2 ⟨joined, groupedSecond, by omega, second⟩, by omega⟩
  | case7 l opr r₁ r₂ other above =>
    have tighter := binary_lt_level other op
    simp only [level_binary] at above ⊢
    exact ⟨grouped_binary.2 ⟨left, right, Nat.le_of_lt tighter, by simp only [level_binary]; omega⟩,
      by omega⟩
  | case8 l r both otherLeft otherRight =>
    have tighterLeft := binary_lt_level otherLeft op
    have tighterRight := binary_lt_level otherRight op
    exact ⟨grouped_binary.2 ⟨left, right, Nat.le_of_lt tighterLeft, tighterRight⟩,
      by simp only [level_binary]; omega⟩

/-- Every tree regroups to a grouped tree. -/
theorem regroup_grouped (t : Arith) : t.regroup.Grouped := by
  induction t with
  | binary op l r left right => exact (join_grouped left right).1
  | negate e operand => exact (pre_grouped operand).1
  | transpose e operand => exact (post_grouped operand).1
  | name _ | numeral _ => trivial

end Arith

end Outline
end MatrixLang
