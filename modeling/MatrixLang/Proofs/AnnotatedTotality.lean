import MatrixLang.Proofs.Totality
import MatrixLang.Annotated.Check
import Mathlib.Tactic.SplitIfs

/-!
# Where the checker of version 4 stops

The checker of version 4 stops where that of version 5 does (see `MatrixLang.Proofs.Totality`):
at an empty statement, at a name as an index, at a scalar copied through a transposition. It
stops in more places too. Every binary operation, comparison and compound assignment on two
operands of the vector type compares the sizes of the matrices the operands name. An operand that
is neither a name nor a transposed name has no name to read, which stops the checker; and a
compound assignment reads no name at all, so `A += B` on two matrices always stops it. Each stop
is on a missing attribute.

## Main results

* `Annotated.Stmt.checkAll_ends`: on statements of the checkable fragment
  (`Annotated.Stmt.checkableAll`), which leaves out those constructs, the checker ends, from every
  state whose symbols are sane.
* `Annotated.Program.check_stops_on_attribute`: the checker of version 4 stops on nothing but a
  missing attribute, and it ends on every program of the checkable fragment.
* `checkers_stop_on_attribute`: the same for the checkers of versions 5 and 4.

## Proof strategy

As for version 5, by the step properties `EStateM.Ends` and `EStateM.StopsOn`, with one more:
`EStateM.Gives`, every result of a step satisfies a predicate. The fragment lets an operand stand
beside another when both are plain names, or when one of them is never typed as a vector
(`Annotated.Expr.neverVector`, read off the checker by `Annotated.Expr.check_scalar`); then the
sizes are read only where both operands name matrices.
-/
namespace MatrixLang

/-! ### Steps whose results satisfy a predicate -/

section Steps

variable {ε σ α β γ : Type}

/-- A step whose every result satisfies `Q`. -/
structure EStateM.Gives (Q : α → Prop) (x : EStateM ε σ α) : Prop where
  gives : ∀ {s a s'}, x.run s = .ok a s' → Q a

namespace EStateM.Gives

variable {Q : α → Prop} {P : β → Prop}

theorem pure' {a : α} (holds : Q a) : EStateM.Gives Q (pure a : EStateM ε σ α) where
  gives ran := by
    cases ran
    exact holds

theorem bind' {x : EStateM ε σ α} {f : α → EStateM ε σ β} (first : EStateM.Gives Q x)
    (rest : ∀ a, Q a → EStateM.Gives P (f a)) : EStateM.Gives P (x >>= f) where
  gives ran := by
    obtain ⟨a, s₁, started, finished⟩ := Script.EStateM.bind_ok ran
    exact (rest a (first.gives started)).gives finished

theorem ite' {c : Prop} [Decidable c] {x y : EStateM ε σ α} (yes : EStateM.Gives Q x)
    (no : EStateM.Gives Q y) : EStateM.Gives Q (if c then x else y) := by
  split
  · exact yes
  · exact no

theorem any (x : EStateM ε σ α) : EStateM.Gives (fun _ => True) x where
  gives _ := trivial

end EStateM.Gives

variable {I : σ → Prop} {P : ε → Prop}

/-- A step that ends, followed by a step that ends on each of the results the first gives. -/
theorem EStateM.Ends.bind_gives {Q : α → Prop} {x : EStateM ε σ α} {f : α → EStateM ε σ β}
    (first : EStateM.Ends I x) (result : EStateM.Gives Q x)
    (rest : ∀ a, Q a → EStateM.Ends I (f a)) : EStateM.Ends I (x >>= f) where
  ends kept := by
    obtain ⟨a, s₁, started, kept₁⟩ := first.ends kept
    obtain ⟨b, s₂, finished, kept₂⟩ := (rest a (result.gives started)).ends kept₁
    exact ⟨b, s₂, by rw [EStateM.run_bind, started]; exact finished, kept₂⟩

/-- A loop over a list ends when every pass does. -/
theorem EStateM.Ends.forIn' (xs : List γ) (init : β) {g : γ → β → EStateM ε σ (ForInStep β)}
    (pass : ∀ c b, EStateM.Ends I (g c b)) : EStateM.Ends I (forIn xs init g) := by
  induction xs generalizing init with
  | nil => exact .pure' init
  | cons c cs ih =>
    rw [List.forIn_cons]
    refine .bind' (pass c init) fun step => ?_
    cases step with
    | done b => exact .pure' b
    | yield b => exact ih b

theorem EStateM.StopsOn.forIn' (xs : List γ) (init : β) {g : γ → β → EStateM ε σ (ForInStep β)}
    (pass : ∀ c b, EStateM.StopsOn P (g c b)) : EStateM.StopsOn P (forIn xs init g) := by
  induction xs generalizing init with
  | nil => exact .pure' init
  | cons c cs ih =>
    rw [List.forIn_cons]
    refine .bind' (pass c init) fun step => ?_
    cases step with
    | done b => exact .pure' b
    | yield b => exact ih b

end Steps

namespace Annotated

open Script (Ty Error)

/-! ### Types that are never vectors -/

/-- The operators whose result can have the vector type. -/
def vectorOperators : List String :=
  ["+", "-", "*", "/", "+=", "-=", "*=", "/=", ".+", ".-", ".*", "./"]

/-- A binary operation has the vector type only for an operator of `vectorOperators` with an
operand of the vector type. -/
theorem binaryType_vector {op : String} {ta tb : Option Ty}
    (vector : binaryType op ta tb = some .vector) :
    (ta = some .vector ∨ tb = some .vector) ∧ op ∈ vectorOperators := by
  unfold binaryType at vector
  split_ifs at vector with both
  · -- the row of version 4: `+ - * /` on two vectors
    simp only [Bool.and_eq_true, beq_iff_eq] at both
    exact ⟨.inl both.1.1, (by decide : ["+", "-", "*", "/"] ⊆ vectorOperators)
      (List.mem_of_elem_eq_true both.2)⟩
  · rcases ta with _ | a <;> rcases tb with _ | b
    · cases vector
    · cases vector
    · -- a negation: `-` with no second operand keeps the type of the first
      simp only [Ty.binary, Bool.and_eq_true, beq_iff_eq] at vector
      split_ifs at vector with minus
      cases vector
      exact ⟨.inl rfl, minus.1 ▸ (by decide : "-" ∈ vectorOperators)⟩
    · -- the rows of the table that give a vector are those with a vector operand
      simp only [Ty.binary] at vector
      split_ifs at vector <;> cases vector
      · next _ vectors row =>
        simp only [Bool.and_eq_true, beq_iff_eq] at vectors
        exact ⟨.inl (congrArg some vectors.1),
          (by decide : ["+=", "-=", "*=", "/="] ++ Ty.elementwise ⊆ vectorOperators)
            (List.mem_of_elem_eq_true row)⟩
      · next _ _ mixed row =>
        refine ⟨?_, (by decide : Ty.elementwise ⊆ vectorOperators) (List.mem_of_elem_eq_true row)⟩
        simp only [Bool.or_eq_true, Bool.and_eq_true, beq_iff_eq] at mixed
        rcases mixed with ⟨rfl, _⟩ | ⟨_, rfl⟩
        · exact .inl rfl
        · exact .inr rfl

/-- A negation has the vector type only when its operand has it. -/
theorem negate_vector {t : Option Ty} (vector : Ty.negate t = some .vector) : t = some .vector := by
  rcases t with _ | t
  · cases vector
  · simp only [Ty.negate, Ty.binary] at vector
    split_ifs at vector
    exact vector

/-! ### Sane scopes -/

/-- Whether a symbol of the vector type is a matrix: the checker declares every value of that
type with its size. -/
def Symbol.sane : Symbol → Bool
  | .scalar _ t => t != .vector
  | .matrix .. => true

/-- Every symbol of the open scopes is sane. -/
def Checker.Sane (c : Checker) : Prop :=
  ∀ s ∈ c.scopes, ∀ name sym, s.symbols.lookup name = some sym → sym.sane = true

namespace Checker.Sane

variable {c c' : Checker}

theorem start : ({} : Checker).Sane := by
  intro s member name sym found
  simp only [List.mem_cons, List.not_mem_nil, or_false] at member
  subst member
  cases found

/-- Sanity is a property of the scopes alone. -/
theorem of_scopes (sane : c.Sane) (same : c'.scopes = c.scopes) : c'.Sane := by
  unfold Checker.Sane
  rw [same]
  exact sane

/-- A new scope has no symbols. -/
theorem enter (sane : c.Sane) (name : String) :
    ({ c with scopes := { name := name } :: c.scopes } : Checker).Sane := by
  intro s member n sym found
  rcases List.mem_cons.1 member with rfl | member
  · cases found
  · exact sane s member n sym found

theorem leave (sane : c.Sane) : ({ c with scopes := c.scopes.drop 1 } : Checker).Sane :=
  fun s member => sane s (List.mem_of_mem_drop member)

theorem put (sane : c.Sane) {name : String} {sym : Symbol} (fits : sym.sane = true) :
    (c.put name sym).Sane := by
  unfold Checker.put
  split
  next s rest scopes =>
    intro s' member n sym' found
    rcases List.mem_cons.1 member with rfl | member
    · -- the new innermost scope: the symbol declared, in front of the other names' symbols
      by_cases same : n = name
      · subst same
        simp only [List.lookup_cons, beq_self_eq_true, Option.some.injEq] at found
        exact found ▸ fits
      · have missed : (n == name) = false := by simpa using same
        simp only [List.lookup_cons, missed, ne_eq, decide_not,
          Script.Checker.lookup_filter_ne _ same] at found
        exact sane s (by simp [scopes]) n sym' found
    · exact sane s' (by simp [scopes, member]) n sym' found
  next => exact sane

theorem lookup (sane : c.Sane) {name : String} {sym : Symbol} (found : c.lookup name = some sym) :
    sym.sane = true := by
  obtain ⟨s, member, found⟩ := List.exists_of_findSome?_eq_some found
  exact sane s member name sym found

end Checker.Sane

/-- A lookup sees the scopes alone. -/
theorem Checker.lookup_congr {c c' : Checker} (same : c'.scopes = c.scopes) (name : String) :
    c'.lookup name = c.lookup name := by
  simp [Checker.lookup, same]

/-! ### The checkable fragment -/

/-- Whether an index is a literal. -/
def Index.isLiteral : Index → Bool
  | .lit .. => true
  | .name .. => false

/-- Whether the ends of a slice are literals. -/
def Slice.literalIndices : Slice → Bool
  | .both _ b e _ => b.isLiteral && e.isLiteral
  | .upTo _ e _ => e.isLiteral
  | .onwards _ b _ => b.isLiteral

/-- Whether the indices of an assignment target are literals. -/
def Target.literalIndices : Target → Bool
  | .var .. => true
  | .element _ is _ => is.all Index.isLiteral
  | .slice s => s.literalIndices

/-- Whether an assignment target is a name. -/
def Target.isName : Target → Bool
  | .var .. => true
  | _ => false

/-- Whether an expression is a transposition. -/
def Expr.isTranspose : Expr → Bool
  | .transpose .. => true
  | _ => false

/-- Whether an expression is a leaf, or a transposed leaf: an operand whose variable the check of
sizes can name. -/
def Expr.plainOperand : Expr → Bool
  | .atom _ | .transpose (.atom _) _ => true
  | _ => false

mutual
/-- Whether the checker never types an expression as a vector: a constant, an assignment, a
matrix literal (typed as nothing), or an operation that gives no vector on such operands. -/
def Expr.neverVector : Expr → Bool
  | .atom (.var ..) | .matrixFun .. | .element .. => false
  | .atom _ | .assign _ | .literal .. => true
  | .relation c => c.neverVector
  | .negate e _ | .transpose e _ => e.neverVector
  | .binary op a b _ => !vectorOperators.contains op || a.neverVector && b.neverVector

/-- Whether the checker never types a comparison as a vector. -/
def Compare.neverVector : Compare → Bool
  | .mk op a b _ => !vectorOperators.contains op || a.neverVector && b.neverVector
end

/-- Whether the checker finds the names of two operands wherever it needs them: both are plain,
or one is never a vector. -/
def Expr.operandsNamed (a b : Expr) : Bool :=
  a.plainOperand && b.plainOperand || a.neverVector || b.neverVector

mutual
/-- Whether the checker can take an expression without stopping: its element references have
literal indices, and the operands of its operations have names wherever sizes are compared. -/
def Expr.checkable : Expr → Bool
  | .atom _ | .matrixFun .. | .literal .. => true
  | .assign a => a.checkable
  | .relation c => c.checkable
  | .element _ is _ => is.all Index.isLiteral
  | .negate e _ | .transpose e _ => e.checkable
  | .binary _ a b _ => a.checkable && b.checkable && Expr.operandsNamed a b

/-- Whether the checker can take an assignment: a name is given no transposed value, a reference
is written at literal indices, and a compound assignment to a name combines it with a value that
is never a vector. -/
def Assign.checkable : Assign → Bool
  | .declare (.var ..) v _ => v.checkable && !v.isTranspose
  | .declare t v _ => v.checkable && t.literalIndices
  | .update _ t v _ => t.literalIndices && v.checkable && (!t.isName || v.neverVector)

/-- Whether the checker can take a comparison. -/
def Compare.checkable : Compare → Bool
  | .mk _ a b _ => a.checkable && b.checkable && Expr.operandsNamed a b
end

mutual
/-- Whether the checker can take a statement: it has no empty statement inside, and its
expressions are checkable. -/
def Stmt.checkable : Stmt → Bool
  | .control .. | .print .. => true
  | .block body _ => Stmt.checkableAll body
  | .ifElse c y n _ => c.checkable && Stmt.checkableOpt y && Stmt.checkableOpt n
  | .ifThen c y _ => c.checkable && Stmt.checkableOpt y
  | .whileLoop c b _ => c.checkable && Stmt.checkableOpt b
  | .forLoop _ _ _ body _ => Stmt.checkableOpt body
  | .assign a => a.checkable
  | .ret e _ => e.checkable

/-- Whether the checker can take a possibly empty statement: it is not empty. -/
def Stmt.checkableOpt : Option Stmt → Bool
  | some s => s.checkable
  | none => false

/-- Whether the checker can take some statements. -/
def Stmt.checkableAll : List (Option Stmt) → Bool
  | [] => true
  | s :: ss => Stmt.checkableOpt s && Stmt.checkableAll ss
end

/-! ### The types the checker gives -/

/-- A comparison is checked as a binary operation on its operands. -/
theorem Compare.check_eq_binary (op : String) (a b : Expr) (l : Nat) :
    (Compare.mk op a b l).check = (Expr.binary op a b l).check := by
  simp [Compare.check, Expr.check]

/-- A binary node is typed as nothing or as the operator table gives. -/
theorem binaryCheck_result (op : String) (line : Nat) (ta tb : Option Ty)
    (names : Check (String × String)) :
    EStateM.Gives (fun r => r = none ∨ r = binaryType op ta tb) (binaryCheck op line ta tb names) := by
  unfold binaryCheck
  split
  · exact .bind' (.any _) fun _ _ => .pure' (.inl rfl)
  · next t typed =>
    refine .ite' ?_ (.pure' (.inr typed.symm))
    refine .bind' (.any _) fun ⟨_, _⟩ _ => .bind' (.any _) fun _ _ => .bind' (.any _) fun _ _ => ?_
    exact .ite' (.bind' (.any _) fun _ _ => .pure' (.inl rfl)) (.pure' (.inr typed.symm))

/-- A binary node is no vector when its operator gives none, or when neither operand is one. -/
theorem binaryCheck_scalar {op : String} {line : Nat} {ta tb : Option Ty}
    (names : Check (String × String))
    (scalar : vectorOperators.contains op = false ∨ (ta ≠ some .vector ∧ tb ≠ some .vector)) :
    EStateM.Gives (· ≠ some .vector) (binaryCheck op line ta tb names) where
  gives ran := by
    rcases (binaryCheck_result op line ta tb names).gives ran with rfl | typed
    · nofun
    · intro vector
      obtain ⟨operand, member⟩ := binaryType_vector (typed ▸ vector)
      rcases scalar with other | ⟨notA, notB⟩
      · simp [member] at other
      · rcases operand with isA | isB
        · exact notA isA
        · exact notB isB

/-- A target other than a name is typed as nothing. -/
theorem Target.check_reference : (t : Target) → t.isName = false →
    EStateM.Gives (· = none) t.check
  | .var .., never => by simp [Target.isName] at never
  | .element .., _ | .slice _, _ => .bind' (.any _) fun _ _ => .pure' rfl

/-- A binary expression is never typed as a vector when its operator gives none, or when neither
operand ever is. -/
theorem Expr.binary_scalar (op : String) (a b : Expr) (l : Nat)
    (scalar : vectorOperators.contains op = false ∨
      (EStateM.Gives (· ≠ some .vector) a.check ∧ EStateM.Gives (· ≠ some .vector) b.check)) :
    EStateM.Gives (· ≠ some .vector) (Expr.binary op a b l).check := by
  rcases scalar with other | ⟨scalarA, scalarB⟩
  · exact .bind' (.any _) fun _ _ => .bind' (.any _) fun _ _ => binaryCheck_scalar _ (.inl other)
  · exact .bind' scalarA fun _ notA => .bind' scalarB fun _ notB =>
      binaryCheck_scalar _ (.inr ⟨notA, notB⟩)

mutual
/-- The checker never types as a vector an expression that `Expr.neverVector` accepts. -/
theorem Expr.check_scalar : (e : Expr) → e.neverVector = true →
    EStateM.Gives (· ≠ some .vector) e.check
  | .atom (.int ..), _ | .atom (.float ..), _ | .atom (.str ..), _ | .literal .., _ => .pure' nofun
  | .atom (.var ..), never | .matrixFun .., never | .element .., never => by
    simp [Expr.neverVector] at never
  | .assign _, _ => .bind' (.any _) fun _ _ => .pure' nofun
  | .relation c, never => c.check_scalar never
  | .negate e _, never =>
    .bind' (e.check_scalar never) fun _ scalar => .pure' fun negated => scalar (negate_vector negated)
  | .transpose e _, never => e.check_scalar never
  | .binary op a b l, never => by
    simp only [Expr.neverVector, Bool.or_eq_true, Bool.not_eq_true', Bool.and_eq_true] at never
    exact Expr.binary_scalar op a b l
      (never.imp_right fun both => ⟨a.check_scalar both.1, b.check_scalar both.2⟩)

theorem Compare.check_scalar : (c : Compare) → c.neverVector = true →
    EStateM.Gives (· ≠ some .vector) c.check
  | .mk op a b l, never => by
    simp only [Compare.neverVector, Bool.or_eq_true, Bool.not_eq_true', Bool.and_eq_true] at never
    rw [Compare.check_eq_binary]
    exact Expr.binary_scalar op a b l
      (never.imp_right fun both => ⟨a.check_scalar both.1, b.check_scalar both.2⟩)
end

/-! ### Steps of the checker that end -/

section Ends

variable {α : Type}

theorem Check.flag_ends (line : Nat) (text : String) :
    EStateM.Ends Checker.Sane (Check.flag line text) :=
  .modify' fun _ sane => sane

/-- Reporting an error and giving a result. -/
theorem Check.reported_ends (line : Nat) (text : String) (a : α) :
    EStateM.Ends Checker.Sane (Check.flag line text >>= fun _ => pure a) :=
  .bind' (Check.flag_ends _ _) fun _ => .pure' _

theorem Check.typeOf_ends (name : String) (line : Nat) :
    EStateM.Ends Checker.Sane (Check.typeOf name line) := by
  unfold Check.typeOf
  refine .bind' .get' fun _ => ?_
  split
  · exact .pure' _
  · exact Check.reported_ends _ _ _

theorem Check.matrixNamed_ends (id : String) (line : Nat) :
    EStateM.Ends Checker.Sane (Check.matrixNamed id line) := by
  unfold Check.matrixNamed
  refine .bind' .get' fun _ => ?_
  split
  · exact Check.reported_ends _ _ _
  · exact Check.reported_ends _ _ _
  · exact .pure' _

theorem Check.inScope_ends {name : String} {body : Check α} (inner : EStateM.Ends Checker.Sane body) :
    EStateM.Ends Checker.Sane (Check.inScope name body) :=
  .bind' (.modify' fun _ sane => sane.enter name) fun _ => .bind' inner fun _ =>
    .bind' (.modify' fun _ sane => sane.leave) fun _ => .pure' _

theorem matrixFunctionCheck_ends (name : String) (size line : Nat) :
    EStateM.Ends Checker.Sane (matrixFunctionCheck name size line) :=
  .ite' (.bind' (.modify' fun _ sane => sane) fun _ => Check.reported_ends _ _ _) (.pure' _)

end Ends

theorem Atom.check_ends : (a : Atom) → EStateM.Ends Checker.Sane a.check
  | .int .. | .float .. | .str .. => .pure' _
  | .var n l => Check.typeOf_ends n l

theorem Index.check_ends : (i : Index) → EStateM.Ends Checker.Sane i.check
  | .lit .. => .pure' _
  | .name n l => Check.typeOf_ends n l

theorem Index.literal_ends : (i : Index) → i.isLiteral = true → EStateM.Ends Checker.Sane i.literal
  | .lit .., _ => .pure' _
  | .name .., never => by simp [Index.isLiteral] at never

theorem indicesBelow_ends (size line : Nat) : (is : List Index) → is.all Index.isLiteral = true →
    EStateM.Ends Checker.Sane (indicesBelow size line is)
  | [], _ => .pure' _
  | i :: is, literal => by
    simp only [List.all_cons, Bool.and_eq_true] at literal
    exact .bind' (i.literal_ends literal.1) fun _ =>
      .ite' (Check.reported_ends _ _ _) (indicesBelow_ends size line is literal.2)

theorem elementCheck_ends (id : String) (is : List Index) (line : Nat)
    (literal : is.all Index.isLiteral = true) : EStateM.Ends Checker.Sane (elementCheck id is line) := by
  unfold elementCheck
  refine .bind' (.forIn' is _ fun i _ => .bind' i.check_ends fun _ => .pure' _) fun _ => ?_
  refine .bind' (Check.matrixNamed_ends id line) fun found => ?_
  split
  · exact .pure' _
  · refine .ite' (Check.reported_ends _ _ _) ?_
    exact .bind' (indicesBelow_ends _ _ is literal) fun _ => .ite' (.pure' _) (.pure' _)

theorem Slice.check_ends : (s : Slice) → s.literalIndices = true → EStateM.Ends Checker.Sane s.check
  | .both id b e l, literal => by
    simp only [Slice.literalIndices, Bool.and_eq_true] at literal
    refine .bind' b.check_ends fun _ => .bind' e.check_ends fun _ => ?_
    refine .bind' (Check.matrixNamed_ends id l) fun found => ?_
    split
    · exact .pure' _
    · refine .bind' (e.literal_ends literal.2) fun _ => .ite' (Check.reported_ends _ _ _) ?_
      refine .bind' (b.literal_ends literal.1) fun _ => .bind' (e.literal_ends literal.2) fun _ => ?_
      exact .ite' (Check.reported_ends _ _ _) (.pure' _)
  | .upTo id e l, literal => by
    refine .bind' e.check_ends fun _ => .bind' (Check.matrixNamed_ends id l) fun found => ?_
    split
    · exact .pure' _
    · exact .bind' (e.literal_ends literal) fun _ => .ite' (Check.reported_ends _ _ _) (.pure' _)
  | .onwards id b l, literal => by
    refine .bind' b.check_ends fun _ => .bind' (Check.matrixNamed_ends id l) fun found => ?_
    split
    · exact .pure' _
    · exact .bind' (b.literal_ends literal) fun _ => .ite' (Check.reported_ends _ _ _) (.pure' _)

theorem Target.check_ends : (t : Target) → t.literalIndices = true →
    EStateM.Ends Checker.Sane t.check
  | .var n l, _ => Check.typeOf_ends n l
  | .element id is l, literal => .bind' (elementCheck_ends id is l literal) fun _ => .pure' _
  | .slice s, literal => .bind' (s.check_ends literal) fun _ => .pure' _

/-! ### Operations on matrices -/

/-- The operand `a` names a variable whose symbol, in the scopes of `c`, has the vector type. -/
def Expr.NamesMatrix (c : Checker) (a : Expr) : Prop :=
  ∃ n sym, a.operandName = pure n ∧ c.lookup n = some sym ∧ sym.ty = .vector

theorem Expr.NamesMatrix.congr {c c' : Checker} {a : Expr} (named : a.NamesMatrix c)
    (same : c'.scopes = c.scopes) : a.NamesMatrix c' := by
  obtain ⟨n, sym, name, found, vector⟩ := named
  exact ⟨n, sym, name, by rwa [Checker.lookup_congr same], vector⟩

/-- A leaf is typed without a change of scopes, as a vector only when it names a variable whose
symbol has the vector type. -/
theorem Atom.check_typed (x : Atom) (c : Checker) :
    ∃ t c', x.check.run c = .ok t c' ∧ c'.scopes = c.scopes ∧
      (t = some .vector → (Expr.atom x).NamesMatrix c) := by
  match x with
  | .int .. | .float .. | .str .. => exact ⟨_, c, rfl, rfl, fun typed => by cases typed⟩
  | .var n l =>
    cases found : c.lookup n with
    | none =>
      -- an unknown name is reported, and typed as nothing
      have ran : ∃ c', (Atom.var n l).check.run c = .ok none c' ∧ c'.scopes = c.scopes :=
        ⟨_, by simp only [Atom.check, Check.typeOf, EStateM.run_bind, EStateM.run_get, found]; rfl,
          by rfl⟩
      obtain ⟨c', ran, same⟩ := ran
      exact ⟨none, c', ran, same, fun typed => by cases typed⟩
    | some sym =>
      refine ⟨some sym.ty, c, ?_, rfl, fun typed => ⟨n, sym, rfl, found, Option.some.inj typed⟩⟩
      simp only [Atom.check, Check.typeOf, EStateM.run_bind, EStateM.run_get, found]
      rfl

/-- A plain operand is typed as its leaf is, and names the leaf's variable. -/
theorem Expr.plain_typed {a : Expr} (plain : a.plainOperand = true) (c : Checker) :
    ∃ t c', a.check.run c = .ok t c' ∧ c'.scopes = c.scopes ∧ (t = some .vector → a.NamesMatrix c) := by
  match a, plain with
  | .atom x, _ => exact x.check_typed c
  | .transpose (.atom x) l, _ =>
    obtain ⟨t, c', ran, same, named⟩ := x.check_typed c
    refine ⟨t, c', ran, same, fun vector => ?_⟩
    obtain ⟨n, sym, name, found, typed⟩ := named vector
    exact ⟨n, sym, name, found, typed⟩

/-- The size of a name whose symbol has the vector type is read without stopping. -/
theorem matrixShape_of_vector {c : Checker} (sane : c.Sane) {n : String} {sym : Symbol}
    (found : c.lookup n = some sym) (vector : sym.ty = .vector) :
    ∃ shape, (matrixShape n).run c = .ok shape c := by
  cases sym with
  | scalar _ t =>
    have fits := sane.lookup found
    simp only [Symbol.ty] at vector
    simp [Symbol.sane, vector] at fits
  | matrix _ s d =>
    refine ⟨(s, d), ?_⟩
    simp only [matrixShape, EStateM.run_bind, EStateM.run_get, found]
    rfl

/-- A binary node ends where not both operands are vectors: no names are read then. -/
theorem binaryCheck_apart {op : String} {line : Nat} {ta tb : Option Ty}
    (apart : ¬(ta = some .vector ∧ tb = some .vector)) (names : Check (String × String)) :
    EStateM.Ends Checker.Sane (binaryCheck op line ta tb names) := by
  unfold binaryCheck
  split
  · exact Check.reported_ends _ _ _
  · have neither : ¬(ta == some .vector && tb == some .vector) = true := by
      simpa only [Bool.and_eq_true, beq_iff_eq] using apart
    rw [if_neg neither]
    exact .pure' _

/-- A binary node ends on the names of two symbols of the vector type. -/
theorem binaryCheck_named (op : String) (line : Nat) (ta tb : Option Ty) {c : Checker}
    (sane : c.Sane) {n₁ n₂ : String} {sym₁ sym₂ : Symbol} (found₁ : c.lookup n₁ = some sym₁)
    (vector₁ : sym₁.ty = .vector) (found₂ : c.lookup n₂ = some sym₂) (vector₂ : sym₂.ty = .vector) :
    ∃ t c', (binaryCheck op line ta tb (pure (n₁, n₂))).run c = .ok t c' ∧ c'.Sane := by
  obtain ⟨shape₁, sized₁⟩ := matrixShape_of_vector sane found₁ vector₁
  obtain ⟨shape₂, sized₂⟩ := matrixShape_of_vector sane found₂ vector₂
  unfold binaryCheck
  split
  · exact (Check.reported_ends _ _ _).ends sane
  · split
    · simp only [pure_bind, EStateM.run_bind, sized₁, sized₂]
      exact (EStateM.Ends.ite' (Check.reported_ends _ _ _) (.pure' _)).ends sane
    · exact ⟨_, c, rfl, sane⟩

/-- A binary operation on plain operands is checked without stopping. -/
theorem Expr.plain_binary_ends (op : String) (a b : Expr) (l : Nat) (plainA : a.plainOperand = true)
    (plainB : b.plainOperand = true) : EStateM.Ends Checker.Sane (Expr.binary op a b l).check where
  ends {c} sane := by
    obtain ⟨ta, c₁, typedA, sameA, namedA⟩ := Expr.plain_typed plainA c
    obtain ⟨tb, c₂, typedB, sameB, namedB⟩ := Expr.plain_typed plainB c₁
    -- typing the operands reports unknown names at most, so every name reads as before
    have same : c₂.scopes = c.scopes := sameB.trans sameA
    have sane₂ : c₂.Sane := sane.of_scopes same
    simp only [Expr.check, EStateM.run_bind, typedA, typedB]
    by_cases both : ta = some .vector ∧ tb = some .vector
    · obtain ⟨n₁, sym₁, name₁, found₁, vector₁⟩ := (namedA both.1).congr same
      obtain ⟨n₂, sym₂, name₂, found₂, vector₂⟩ := (namedB both.2).congr sameB
      simp only [name₁, name₂, pure_bind]
      exact binaryCheck_named op l ta tb sane₂ found₁ vector₁ found₂ vector₂
    · exact (binaryCheck_apart both _).ends sane₂

/-- A binary operation whose operands end, and are named wherever sizes are compared, ends. -/
theorem Expr.binary_ends (op : String) (a b : Expr) (l : Nat)
    (endsA : EStateM.Ends Checker.Sane a.check) (endsB : EStateM.Ends Checker.Sane b.check)
    (named : Expr.operandsNamed a b = true) :
    EStateM.Ends Checker.Sane (Expr.binary op a b l).check := by
  simp only [Expr.operandsNamed, Bool.or_eq_true, Bool.and_eq_true] at named
  rcases named with (⟨plainA, plainB⟩ | scalarA) | scalarB
  · exact Expr.plain_binary_ends op a b l plainA plainB
  · exact .bind_gives endsA (a.check_scalar scalarA) fun _ notA => .bind' endsB fun _ =>
      binaryCheck_apart (fun both => notA both.1) _
  · exact .bind' endsA fun _ => .bind_gives endsB (b.check_scalar scalarB) fun _ notB =>
      binaryCheck_apart (fun both => notB both.2) _

/-! ### Checkable syntax -/

mutual
theorem Expr.check_ends : (e : Expr) → e.checkable = true → EStateM.Ends Checker.Sane e.check
  | .atom a, _ => a.check_ends
  | .assign a, ok => .bind' (a.check_ends ok) fun _ => .pure' _
  | .relation c, ok => c.check_ends ok
  | .matrixFun f n l, _ => matrixFunctionCheck_ends f n l
  | .element id is l, ok => elementCheck_ends id is l ok
  | .negate e _, ok => .bind' (e.check_ends ok) fun _ => .pure' _
  | .literal .., _ => .pure' _
  | .transpose e _, ok => e.check_ends ok
  | .binary op a b l, ok => by
    simp only [Expr.checkable, Bool.and_eq_true] at ok
    exact Expr.binary_ends op a b l (a.check_ends ok.1.1) (b.check_ends ok.1.2) ok.2

theorem Assign.check_ends : (a : Assign) → a.checkable = true → EStateM.Ends Checker.Sane a.check
  | .declare (.var name _) v l, ok => by
    simp only [Assign.checkable, Bool.and_eq_true, Bool.not_eq_true'] at ok
    refine .bind' (v.check_ends ok.1) fun ty => ?_
    dsimp -zeta only
    -- the branches on the value share the declaration of the name, once its shape is known
    extract_lets declare
    have declared : ∀ shape, EStateM.Ends Checker.Sane (declare shape) := by
      -- a value of the vector type is declared as a matrix, any other as a scalar
      rintro (_ | ⟨_ | t, s, d⟩)
      · exact .pure' _
      · exact .pure' _
      · cases t <;> exact .modify' fun _ sane => sane.put rfl
    -- the shape of the value: a transposition, which reads a symbol, is left out
    split
    · exact .ite' (.bind' (Check.flag_ends _ _) fun _ => .bind' (.pure' _) declared)
        (.bind' (.pure' _) declared)
    · exact .bind' (.pure' _) declared
    · exact .bind' (.pure' _) declared
    · simp [Expr.isTranspose] at ok
    · exact .bind' (.pure' _) declared
  | .declare (.element id is l') v _, ok => by
    simp only [Assign.checkable, Bool.and_eq_true] at ok
    exact .bind' (v.check_ends ok.1) fun _ =>
      .bind' ((Target.element id is l').check_ends ok.2) fun _ => .pure' _
  | .declare (.slice s) v _, ok => by
    simp only [Assign.checkable, Bool.and_eq_true] at ok
    exact .bind' (v.check_ends ok.1) fun _ => .bind' ((Target.slice s).check_ends ok.2) fun _ => .pure' _
  | .update op t v l, ok => by
    simp only [Assign.checkable, Bool.and_eq_true, Bool.or_eq_true, Bool.not_eq_true'] at ok
    obtain ⟨⟨literal, okV⟩, reference | scalar⟩ := ok
    · -- a reference as a target is typed as nothing, so no sizes are compared
      exact .bind_gives (t.check_ends literal) (t.check_reference reference) fun _ untyped =>
        .bind' (v.check_ends okV) fun _ =>
          .bind' (binaryCheck_apart (fun both => by simp [untyped] at both) _) fun _ => .pure' _
    · exact .bind' (t.check_ends literal) fun _ =>
        .bind_gives (v.check_ends okV) (v.check_scalar scalar) fun _ notV =>
          .bind' (binaryCheck_apart (fun both => notV both.2) _) fun _ => .pure' _

theorem Compare.check_ends : (c : Compare) → c.checkable = true → EStateM.Ends Checker.Sane c.check
  | .mk op a b l, ok => by
    simp only [Compare.checkable, Bool.and_eq_true] at ok
    rw [Compare.check_eq_binary]
    exact Expr.binary_ends op a b l (a.check_ends ok.1.1) (b.check_ends ok.1.2) ok.2
end

theorem Printed.check_ends : (p : Printed) → EStateM.Ends Checker.Sane p.check
  | .single a => .bind' a.check_ends fun _ => .pure' _
  | .more rest a _ => .bind' rest.check_ends fun _ => .bind' a.check_ends fun _ => .pure' _

mutual
theorem Stmt.check_ends : (s : Stmt) → s.checkable = true → EStateM.Ends Checker.Sane s.check
  | .control .., _ => .bind' .get' fun _ => .ite' (Check.flag_ends _ _) (.pure' _)
  | .block body _, ok => Check.inScope_ends (Stmt.checkAll_ends body ok)
  | .ifElse c y n _, ok => by
    simp only [Stmt.checkable, Bool.and_eq_true] at ok
    exact .bind' (c.check_ends ok.1.1) fun _ =>
      .bind' (Check.inScope_ends (Stmt.checkOpt_ends y ok.1.2)) fun _ =>
        Check.inScope_ends (Stmt.checkOpt_ends n ok.2)
  | .ifThen c y _, ok => by
    simp only [Stmt.checkable, Bool.and_eq_true] at ok
    exact .bind' (c.check_ends ok.1) fun _ => Check.inScope_ends (Stmt.checkOpt_ends y ok.2)
  | .whileLoop c b _, ok => by
    simp only [Stmt.checkable, Bool.and_eq_true] at ok
    exact .bind' (c.check_ends ok.1) fun _ => Check.inScope_ends (Stmt.checkOpt_ends b ok.2)
  | .forLoop _ a b body _, ok =>
    -- the loop's variable is declared as a whole number, a sane symbol
    Check.inScope_ends (.bind' (.modify' fun _ sane => sane.put rfl) fun _ =>
      .bind' a.check_ends fun _ => .bind' b.check_ends fun _ => Stmt.checkOpt_ends body ok)
  | .assign a, ok => a.check_ends ok
  | .print items _, _ => items.check_ends
  | .ret e _, ok => by
    refine .bind' .get' fun _ => ?_
    -- the value is checked whether or not the place of the `return` is reported
    extract_lets value
    have checked : ∀ r, EStateM.Ends Checker.Sane (value r) :=
      fun _ => .bind' (e.check_ends ok) fun _ => .pure' _
    exact .ite' (.bind' (Check.flag_ends _ _) checked) (checked ())

theorem Stmt.checkOpt_ends : (s : Option Stmt) → Stmt.checkableOpt s = true →
    EStateM.Ends Checker.Sane (Stmt.checkOpt s)
  | some s, ok => s.check_ends ok
  | none, never => by simp [Stmt.checkableOpt] at never

theorem Stmt.checkAll_ends : (ss : List (Option Stmt)) → Stmt.checkableAll ss = true →
    EStateM.Ends Checker.Sane (Stmt.checkAll ss)
  | [], _ => .pure' _
  | s :: ss, ok => by
    simp only [Stmt.checkableAll, Bool.and_eq_true] at ok
    exact .bind' (Stmt.checkOpt_ends s ok.1) fun _ => Stmt.checkAll_ends ss ok.2
end

/-- The checker ends on every program of the checkable fragment. -/
theorem Program.check_ends {p : Program} (ok : Stmt.checkableAll p = true) :
    ∃ c, p.check = .ok c ∧ c.Sane := by
  obtain ⟨_, c, ran, sane⟩ := (Stmt.checkAll_ends p ok).ends Checker.Sane.start
  exact ⟨c, by simp [Program.check, ran], sane⟩

/-! ### Every stop is on a missing attribute -/

section Stops

variable {α : Type}

theorem Check.flag_stops (line : Nat) (text : String) :
    EStateM.StopsOn Error.Missing (Check.flag line text) :=
  .modify' _

theorem Check.reported_stops (line : Nat) (text : String) (a : α) :
    EStateM.StopsOn Error.Missing (Check.flag line text >>= fun _ => pure a) :=
  .bind' (Check.flag_stops _ _) fun _ => .pure' _

theorem Check.typeOf_stops (name : String) (line : Nat) :
    EStateM.StopsOn Error.Missing (Check.typeOf name line) := by
  unfold Check.typeOf
  refine .bind' .get' fun _ => ?_
  split
  · exact .pure' _
  · exact Check.reported_stops _ _ _

theorem Check.matrixNamed_stops (id : String) (line : Nat) :
    EStateM.StopsOn Error.Missing (Check.matrixNamed id line) := by
  unfold Check.matrixNamed
  refine .bind' .get' fun _ => ?_
  split
  · exact Check.reported_stops _ _ _
  · exact Check.reported_stops _ _ _
  · exact .pure' _

theorem Check.inScope_stops {name : String} {body : Check α}
    (inner : EStateM.StopsOn Error.Missing body) :
    EStateM.StopsOn Error.Missing (Check.inScope name body) :=
  .bind' (.modify' _) fun _ => .bind' inner fun _ => .bind' (.modify' _) fun _ => .pure' _

theorem matrixFunctionCheck_stops (name : String) (size line : Nat) :
    EStateM.StopsOn Error.Missing (matrixFunctionCheck name size line) :=
  .ite' (.bind' (.modify' _) fun _ => Check.reported_stops _ _ _) (.pure' _)

end Stops

theorem Atom.check_stops : (a : Atom) → EStateM.StopsOn Error.Missing a.check
  | .int .. | .float .. | .str .. => .pure' _
  | .var n l => Check.typeOf_stops n l

theorem Index.check_stops : (i : Index) → EStateM.StopsOn Error.Missing i.check
  | .lit .. => .pure' _
  | .name n l => Check.typeOf_stops n l

theorem Index.literal_stops : (i : Index) → EStateM.StopsOn Error.Missing i.literal
  | .lit .. => .pure' _
  | .name .. => .throw' rfl

theorem indicesBelow_stops (size line : Nat) : (is : List Index) →
    EStateM.StopsOn Error.Missing (indicesBelow size line is)
  | [] => .pure' _
  | i :: is => .bind' i.literal_stops fun _ =>
      .ite' (Check.reported_stops _ _ _) (indicesBelow_stops size line is)

theorem elementCheck_stops (id : String) (is : List Index) (line : Nat) :
    EStateM.StopsOn Error.Missing (elementCheck id is line) := by
  unfold elementCheck
  refine .bind' (.forIn' is _ fun i _ => .bind' i.check_stops fun _ => .pure' _) fun _ => ?_
  refine .bind' (Check.matrixNamed_stops id line) fun found => ?_
  split
  · exact .pure' _
  · refine .ite' (Check.reported_stops _ _ _) ?_
    exact .bind' (indicesBelow_stops _ _ is) fun _ => .ite' (.pure' _) (.pure' _)

theorem Slice.check_stops : (s : Slice) → EStateM.StopsOn Error.Missing s.check
  | .both id b e l => by
    refine .bind' b.check_stops fun _ => .bind' e.check_stops fun _ => ?_
    refine .bind' (Check.matrixNamed_stops id l) fun found => ?_
    split
    · exact .pure' _
    · refine .bind' e.literal_stops fun _ => .ite' (Check.reported_stops _ _ _) ?_
      refine .bind' b.literal_stops fun _ => .bind' e.literal_stops fun _ => ?_
      exact .ite' (Check.reported_stops _ _ _) (.pure' _)
  | .upTo id e l => by
    refine .bind' e.check_stops fun _ => .bind' (Check.matrixNamed_stops id l) fun found => ?_
    split
    · exact .pure' _
    · exact .bind' e.literal_stops fun _ => .ite' (Check.reported_stops _ _ _) (.pure' _)
  | .onwards id b l => by
    refine .bind' b.check_stops fun _ => .bind' (Check.matrixNamed_stops id l) fun found => ?_
    split
    · exact .pure' _
    · exact .bind' b.literal_stops fun _ => .ite' (Check.reported_stops _ _ _) (.pure' _)

theorem Target.check_stops : (t : Target) → EStateM.StopsOn Error.Missing t.check
  | .var n l => Check.typeOf_stops n l
  | .element id is l => .bind' (elementCheck_stops id is l) fun _ => .pure' _
  | .slice s => .bind' s.check_stops fun _ => .pure' _

theorem Expr.variableName_stops : (e : Expr) → EStateM.StopsOn Error.Missing e.variableName
  | .atom (.var ..) => .pure' _
  | .atom (.int ..) | .atom (.float ..) | .atom (.str ..) => .throw' rfl
  | .assign _ | .relation _ | .matrixFun .. | .element .. | .negate .. | .literal .. | .transpose ..
  | .binary .. => .throw' rfl

theorem Expr.operandName_stops (e : Expr) : EStateM.StopsOn Error.Missing e.operandName := by
  unfold Expr.operandName
  split <;> exact Expr.variableName_stops _

theorem matrixShape_stops (name : String) : EStateM.StopsOn Error.Missing (matrixShape name) := by
  unfold matrixShape
  refine .bind' .get' fun _ => ?_
  split
  · exact .pure' _
  · exact .throw' rfl
  · exact .throw' rfl

theorem binaryCheck_stops (op : String) (line : Nat) (ta tb : Option Ty)
    {names : Check (String × String)} (read : EStateM.StopsOn Error.Missing names) :
    EStateM.StopsOn Error.Missing (binaryCheck op line ta tb names) := by
  unfold binaryCheck
  split
  · exact Check.reported_stops _ _ _
  · refine .ite' ?_ (.pure' _)
    refine .bind' read fun ⟨_, _⟩ => ?_
    refine .bind' (matrixShape_stops _) fun _ => .bind' (matrixShape_stops _) fun _ => ?_
    exact .ite' (Check.reported_stops _ _ _) (.pure' _)

mutual
theorem Expr.check_stops : (e : Expr) → EStateM.StopsOn Error.Missing e.check
  | .atom a => a.check_stops
  | .assign a => .bind' a.check_stops fun _ => .pure' _
  | .relation c => c.check_stops
  | .matrixFun f n l => matrixFunctionCheck_stops f n l
  | .element id is l => elementCheck_stops id is l
  | .negate e _ => .bind' e.check_stops fun _ => .pure' _
  | .literal .. => .pure' _
  | .transpose e _ => e.check_stops
  | .binary op a b l =>
    .bind' a.check_stops fun _ => .bind' b.check_stops fun _ =>
      binaryCheck_stops op l _ _ (.bind' a.operandName_stops fun _ =>
        .bind' b.operandName_stops fun _ => .pure' _)

theorem Assign.check_stops : (a : Assign) → EStateM.StopsOn Error.Missing a.check
  | .declare (.var name _) v l => by
    refine .bind' v.check_stops fun ty => ?_
    dsimp -zeta only
    extract_lets declare
    have declared : ∀ shape, EStateM.StopsOn Error.Missing (declare shape) := by
      rintro (_ | ⟨_ | t, s, d⟩)
      · exact .pure' _
      · exact .pure' _
      · cases t <;> exact .modify' _
    split
    · exact .ite' (.bind' (Check.flag_stops _ _) fun _ => .bind' (.pure' _) declared)
        (.bind' (.pure' _) declared)
    · exact .bind' (.pure' _) declared
    · exact .bind' (.pure' _) declared
    · -- a transposition reads the symbol of the name it transposes
      next x _ =>
      refine .bind' .get' fun _ => .bind' x.variableName_stops fun _ => ?_
      split
      · exact .bind' (.pure' _) declared
      · exact .bind' (.throw' rfl) declared
      · exact .bind' (.pure' _) declared
    · exact .bind' (.pure' _) declared
  | .declare (.element id is l') v _ =>
    .bind' v.check_stops fun _ => .bind' (Target.element id is l').check_stops fun _ => .pure' _
  | .declare (.slice s) v _ =>
    .bind' v.check_stops fun _ => .bind' (Target.slice s).check_stops fun _ => .pure' _
  | .update op t v l =>
    .bind' t.check_stops fun _ => .bind' v.check_stops fun _ =>
      .bind' (binaryCheck_stops op l _ _ (.throw' rfl)) fun _ => .pure' _

theorem Compare.check_stops : (c : Compare) → EStateM.StopsOn Error.Missing c.check
  | .mk op a b l =>
    .bind' a.check_stops fun _ => .bind' b.check_stops fun _ =>
      binaryCheck_stops op l _ _ (.bind' a.operandName_stops fun _ =>
        .bind' b.operandName_stops fun _ => .pure' _)
end

theorem Printed.check_stops : (p : Printed) → EStateM.StopsOn Error.Missing p.check
  | .single a => .bind' a.check_stops fun _ => .pure' _
  | .more rest a _ => .bind' rest.check_stops fun _ => .bind' a.check_stops fun _ => .pure' _

mutual
theorem Stmt.check_stops : (s : Stmt) → EStateM.StopsOn Error.Missing s.check
  | .control .. => .bind' .get' fun _ => .ite' (Check.flag_stops _ _) (.pure' _)
  | .block body _ => Check.inScope_stops (Stmt.checkAll_stops body)
  | .ifElse c y n _ =>
    .bind' c.check_stops fun _ => .bind' (Check.inScope_stops (Stmt.checkOpt_stops y)) fun _ =>
      Check.inScope_stops (Stmt.checkOpt_stops n)
  | .ifThen c y _ => .bind' c.check_stops fun _ => Check.inScope_stops (Stmt.checkOpt_stops y)
  | .whileLoop c b _ => .bind' c.check_stops fun _ => Check.inScope_stops (Stmt.checkOpt_stops b)
  | .forLoop _ a b body _ =>
    Check.inScope_stops (.bind' (.modify' _) fun _ => .bind' a.check_stops fun _ =>
      .bind' b.check_stops fun _ => Stmt.checkOpt_stops body)
  | .assign a => a.check_stops
  | .print items _ => items.check_stops
  | .ret e _ => by
    refine .bind' .get' fun _ => ?_
    extract_lets value
    have checked : ∀ r, EStateM.StopsOn Error.Missing (value r) :=
      fun _ => .bind' e.check_stops fun _ => .pure' _
    exact .ite' (.bind' (Check.flag_stops _ _) checked) (checked ())

theorem Stmt.checkOpt_stops : (s : Option Stmt) → EStateM.StopsOn Error.Missing (Stmt.checkOpt s)
  | some s => s.check_stops
  | none => .throw' rfl

theorem Stmt.checkAll_stops : (ss : List (Option Stmt)) →
    EStateM.StopsOn Error.Missing (Stmt.checkAll ss)
  | [] => .pure' _
  | s :: ss => .bind' (Stmt.checkOpt_stops s) fun _ => Stmt.checkAll_stops ss
end

/-! ### Main results -/

/-- The checker of version 4 stops on nothing but a missing attribute, and it ends on every
program of the checkable fragment. -/
theorem Program.check_stops_on_attribute (p : Program) :
    (∀ f c, p.check = .error (f, c) → f.kind = "AttributeError") ∧
      (Stmt.checkableAll p = true → ∃ c, p.check = .ok c) := by
  refine ⟨fun f c stopped => ?_, fun ok => ?_⟩
  · unfold Program.check at stopped
    split at stopped
    · cases stopped
    · next f' c' ran =>
      cases stopped
      exact (Stmt.checkAll_stops p).stops ran
  · obtain ⟨c, checked, -⟩ := Program.check_ends ok
    exact ⟨c, checked⟩

end Annotated

/-- Neither checker stops on anything but a missing attribute, and each ends on every program of
its checkable fragment. -/
theorem checkers_stop_on_attribute (p : Script.Program) (q : Annotated.Program) :
    ((∀ f c, p.check = .error (f, c) → f.kind = "AttributeError") ∧
      (Script.Stmt.checkableAll p = true → ∃ c, p.check = .ok c)) ∧
    ((∀ f c, q.check = .error (f, c) → f.kind = "AttributeError") ∧
      (Annotated.Stmt.checkableAll q = true → ∃ c, q.check = .ok c)) :=
  ⟨Script.Program.check_stops_on_attribute p, Annotated.Program.check_stops_on_attribute q⟩

/-- `A = eye(3); B = A .+ A; print B[1, 1];` in version 5 and `A = eye(3); B = A + A; print B;`
in version 4 are checkable, and checked to the end. -/
theorem checkers_stop_on_attribute_of_sums :
    Script.Stmt.checkableAll [some (.assign (.declare (.var "A" 1) (.matrixFun "eye" 3 1) 1)),
      some (.assign (.declare (.var "B" 1) (.dotted ".+" (.atom (.var "A" 1)) (.atom (.var "A" 1)) 1) 1)),
      some (.print (.single (.value (.element (.pair "B" (.lit 1 1) (.lit 1 1) 1)))) 1)] = true ∧
    Annotated.Stmt.checkableAll [some (.assign (.declare (.var "A" 1) (.matrixFun "eye" 3 1) 1)),
      some (.assign (.declare (.var "B" 1) (.binary "+" (.atom (.var "A" 1)) (.atom (.var "A" 1)) 1) 1)),
      some (.print (.single (.var "B" 1)) 1)] = true ∧
    (∃ c, Script.Program.check [some (.assign (.declare (.var "A" 1) (.matrixFun "eye" 3 1) 1)),
      some (.assign (.declare (.var "B" 1) (.dotted ".+" (.atom (.var "A" 1)) (.atom (.var "A" 1)) 1) 1)),
      some (.print (.single (.value (.element (.pair "B" (.lit 1 1) (.lit 1 1) 1)))) 1)] = .ok c) ∧
    ∃ c, Annotated.Program.check [some (.assign (.declare (.var "A" 1) (.matrixFun "eye" 3 1) 1)),
      some (.assign (.declare (.var "B" 1) (.binary "+" (.atom (.var "A" 1)) (.atom (.var "A" 1)) 1) 1)),
      some (.print (.single (.var "B" 1)) 1)] = .ok c :=
  have proved := checkers_stop_on_attribute
    [some (.assign (.declare (.var "A" 1) (.matrixFun "eye" 3 1) 1)),
      some (.assign (.declare (.var "B" 1) (.dotted ".+" (.atom (.var "A" 1)) (.atom (.var "A" 1)) 1) 1)),
      some (.print (.single (.value (.element (.pair "B" (.lit 1 1) (.lit 1 1) 1)))) 1)]
    [some (.assign (.declare (.var "A" 1) (.matrixFun "eye" 3 1) 1)),
      some (.assign (.declare (.var "B" 1) (.binary "+" (.atom (.var "A" 1)) (.atom (.var "A" 1)) 1) 1)),
      some (.print (.single (.var "B" 1)) 1)]
  ⟨rfl, rfl, proved.1.2 rfl, proved.2.2 rfl⟩

end MatrixLang
