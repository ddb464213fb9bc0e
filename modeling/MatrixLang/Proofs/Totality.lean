import MatrixLang.Proofs.Agreement

/-!
# Where the checker stops

The checker is meant to report what it cannot type as an error message and go on. It does not
always: an empty statement, a name as the index of an element reference or a slice, an
element-wise operation on two matrices one of which is no plain name, and the copy of a scalar
through a transposition or parentheses stop it, each on a missing attribute.

## Main results

* `Stmt.checkAll_ends`: on statements of the checkable fragment (`Stmt.checkableAll`), which
  leaves out exactly those constructs, the checker ends, from every state whose symbols are sane.
* `Program.check_stops_on_attribute`: the checker stops on nothing but a missing attribute, and
  it ends on every program of the checkable fragment.

## Proof strategy

Two properties of a step, each closed under the ways steps are combined: `EStateM.Ends` (from
every state of an invariant the step ends, in a state of the invariant) and `EStateM.StopsOn`
(every error the step stops on is of a kind). The invariant is `Checker.Sane`: a symbol of the
vector type is a matrix. It is what lets the element-wise check read the sizes of two matrix
operands: it looks their names up as matrices once their types say vector.
-/
namespace MatrixLang

/-! ### Steps that end, and steps that stop on errors of a kind -/

section Steps

variable {ε σ α β : Type}

/-- A step that ends from every state of an invariant, in a state of the invariant. -/
structure EStateM.Ends (I : σ → Prop) (x : EStateM ε σ α) : Prop where
  ends : ∀ {s}, I s → ∃ a s', x.run s = .ok a s' ∧ I s'

/-- A step whose every error is of a kind. -/
structure EStateM.StopsOn (P : ε → Prop) (x : EStateM ε σ α) : Prop where
  stops : ∀ {s e s'}, x.run s = .error e s' → P e

variable {I : σ → Prop} {P : ε → Prop}

namespace EStateM.Ends

theorem pure' (a : α) : EStateM.Ends I (pure a : EStateM ε σ α) where
  ends kept := ⟨a, _, rfl, kept⟩

theorem get' : EStateM.Ends I (get : EStateM ε σ σ) where
  ends kept := ⟨_, _, rfl, kept⟩

theorem modify' {g : σ → σ} (keeps : ∀ s, I s → I (g s)) :
    EStateM.Ends I (modify g : EStateM ε σ PUnit) where
  ends kept := ⟨(), _, rfl, keeps _ kept⟩

theorem bind' {x : EStateM ε σ α} {f : α → EStateM ε σ β} (first : EStateM.Ends I x)
    (rest : ∀ a, EStateM.Ends I (f a)) : EStateM.Ends I (x >>= f) where
  ends kept := by
    obtain ⟨a, s₁, started, kept₁⟩ := first.ends kept
    obtain ⟨b, s₂, finished, kept₂⟩ := (rest a).ends kept₁
    exact ⟨b, s₂, by rw [EStateM.run_bind, started]; exact finished, kept₂⟩

theorem ite' {c : Prop} [Decidable c] {x y : EStateM ε σ α} (yes : EStateM.Ends I x)
    (no : EStateM.Ends I y) : EStateM.Ends I (if c then x else y) := by
  split
  · exact yes
  · exact no

end EStateM.Ends

namespace EStateM.StopsOn

theorem pure' (a : α) : EStateM.StopsOn P (pure a : EStateM ε σ α) where
  stops stopped := by cases stopped

theorem get' : EStateM.StopsOn P (get : EStateM ε σ σ) where
  stops stopped := by cases stopped

theorem modify' (g : σ → σ) : EStateM.StopsOn P (modify g : EStateM ε σ PUnit) where
  stops stopped := by cases stopped

theorem throw' {e : ε} (kind : P e) : EStateM.StopsOn P (throw e : EStateM ε σ α) where
  stops stopped := by
    cases stopped
    exact kind

theorem bind' {x : EStateM ε σ α} {f : α → EStateM ε σ β} (first : EStateM.StopsOn P x)
    (rest : ∀ a, EStateM.StopsOn P (f a)) : EStateM.StopsOn P (x >>= f) where
  stops stopped := by
    rcases Script.EStateM.bind_error stopped with early | ⟨a, s₁, -, late⟩
    · exact first.stops early
    · exact (rest a).stops late

theorem ite' {c : Prop} [Decidable c] {x y : EStateM ε σ α} (yes : EStateM.StopsOn P x)
    (no : EStateM.StopsOn P y) : EStateM.StopsOn P (if c then x else y) := by
  split
  · exact yes
  · exact no

end EStateM.StopsOn

end Steps

namespace Script

/-! ### Sane scopes -/

/-- Whether a symbol of the vector type is a matrix: the checker declares every value of that
type with its size. -/
def Symbol.sane : Symbol → Bool
  | .scalar _ t => t != .vector
  | .matrix .. => true

/-- Every symbol of the open scopes is sane. -/
def Checker.Sane (c : Checker) : Prop :=
  ∀ s ∈ c.scopes, ∀ name sym, s.symbols.lookup name = some sym → sym.sane = true

namespace Checker.Sane

variable {c c' : Checker}

theorem start : ({} : Checker).Sane := by
  intro s member name sym found
  simp only [List.mem_cons, List.not_mem_nil, or_false] at member
  subst member
  cases found

/-- Sanity is a property of the scopes alone. -/
theorem of_scopes (sane : c.Sane) (same : c'.scopes = c.scopes) : c'.Sane := by
  unfold Checker.Sane
  rw [same]
  exact sane

theorem push (sane : c.Sane) (scope : String) : (c.push scope).Sane := by
  intro s member name sym found
  rcases List.mem_cons.1 member with rfl | member
  · cases found
  · exact sane s member name sym found

theorem pop (sane : c.Sane) : c.pop.Sane :=
  fun s member => sane s (List.mem_of_mem_drop member)

theorem put (sane : c.Sane) {name : String} {sym : Symbol} (fits : sym.sane = true) :
    (c.put name sym).Sane := by
  unfold Checker.put
  split
  next s rest scopes =>
    intro s' member n sym' found
    rcases List.mem_cons.1 member with rfl | member
    · -- the new innermost scope: the symbol declared, in front of the other names' symbols
      by_cases same : n = name
      · subst same
        simp only [List.lookup_cons, beq_self_eq_true, Option.some.injEq] at found
        exact found ▸ fits
      · have missed : (n == name) = false := by simpa using same
        simp only [List.lookup_cons, missed, ne_eq, decide_not, Checker.lookup_filter_ne _ same]
          at found
        exact sane s (by simp [scopes]) n sym' found
    · exact sane s' (by simp [scopes, member]) n sym' found
  next => exact sane

theorem lookup (sane : c.Sane) {name : String} {sym : Symbol} (found : c.lookup name = some sym) :
    sym.sane = true := by
  obtain ⟨s, member, found⟩ := List.exists_of_findSome?_eq_some found
  exact sane s member name sym found

end Checker.Sane

/-- A lookup sees the scopes alone. -/
theorem Checker.lookup_congr {c c' : Checker} (same : c'.scopes = c.scopes) (name : String) :
    c'.lookup name = c.lookup name := by
  simp [Checker.lookup, same]

/-! ### The checkable fragment -/

/-- Whether an index is a literal. -/
def Index.isLiteral : Index → Bool
  | .lit .. => true
  | .name .. => false

/-- Whether the indices of an element reference are literals. -/
def Element.literalIndices : Element → Bool
  | .pair _ r c _ => r.isLiteral && c.isLiteral
  | .single _ r _ => r.isLiteral

/-- Whether the ends of a slice are literals. -/
def Slice.literalIndices : Slice → Bool
  | .both _ b e _ => b.isLiteral && e.isLiteral
  | .upTo _ e _ => e.isLiteral
  | .onwards _ b _ => b.isLiteral

/-- Whether the indices of an assignment target are literals. -/
def Target.literalIndices : Target → Bool
  | .var .. => true
  | .element r => r.literalIndices
  | .slice s => s.literalIndices

/-- Whether an expression is a transposition or stands in parentheses. -/
def Expr.wrapped : Expr → Bool
  | .transpose .. | .paren .. => true
  | _ => false

/-- Whether an expression is a leaf, or a leaf transposed or in parentheses: an operand whose
variable the element-wise check can name. -/
def Expr.plainOperand : Expr → Bool
  | .atom _ | .transpose (.atom _) _ | .paren (.atom _) _ => true
  | _ => false

mutual
/-- Whether the checker can take an expression without stopping: its element references have
literal indices, and the operands of its element-wise operations are plain. -/
def Expr.checkable : Expr → Bool
  | .atom _ | .matrixFun .. | .literal .. => true
  | .assign a => a.checkable
  | .relation c => c.checkable
  | .element r => r.literalIndices
  | .negate e _ | .transpose e _ | .paren e _ => e.checkable
  | .arith _ a b _ => a.checkable && b.checkable
  | .dotted _ a b _ => a.plainOperand && b.plainOperand

/-- Whether the checker can take an assignment: a name is given no transposed or parenthesised
value, and a reference is written at literal indices. -/
def Assign.checkable : Assign → Bool
  | .declare (.var ..) v _ => v.checkable && !v.wrapped
  | .declare t v _ => v.checkable && t.literalIndices
  | .update _ t v _ => t.literalIndices && v.checkable

/-- Whether the checker can take a comparison. -/
def Compare.checkable : Compare → Bool
  | .mk _ a b _ => a.checkable && b.checkable
end

/-- Whether the checker can take the end of a range. -/
def Bound.checkable : Bound → Bool
  | .index _ => true
  | .arith _ a b _ => a.checkable && b.checkable

/-- Whether the checker can take an item of a `print`. -/
def PrintItem.checkable : PrintItem → Bool
  | .value e => e.checkable
  | .arith _ a b _ => a.checkable && b.checkable

/-- Whether the checker can take the items of a `print`. -/
def Printed.checkable : Printed → Bool
  | .single i => i.checkable
  | .more rest i _ => rest.checkable && i.checkable

mutual
/-- Whether the checker can take a statement: it has no empty statement inside, and its
expressions are checkable. -/
def Stmt.checkable : Stmt → Bool
  | .control .. => true
  | .block body _ => Stmt.checkableAll body
  | .ifElse c y n _ => c.checkable && Stmt.checkableOpt y && Stmt.checkableOpt n
  | .ifThen c y _ => c.checkable && Stmt.checkableOpt y
  | .whileLoop c b _ => c.checkable && Stmt.checkableOpt b
  | .forLoop _ _ b body _ => b.checkable && Stmt.checkableOpt body
  | .assign a => a.checkable
  | .print items _ => items.checkable
  | .ret e _ => e.checkable

/-- Whether the checker can take a possibly empty statement: it is not empty. -/
def Stmt.checkableOpt : Option Stmt → Bool
  | some s => s.checkable
  | none => false

/-- Whether the checker can take some statements. -/
def Stmt.checkableAll : List (Option Stmt) → Bool
  | [] => true
  | s :: ss => Stmt.checkableOpt s && Stmt.checkableAll ss
end

/-! ### Steps of the checker that end -/

section Ends

variable {α : Type}

theorem Check.flag_ends (line : Nat) (text : String) :
    EStateM.Ends Checker.Sane (Check.flag line text) :=
  .modify' fun _ sane => sane

/-- Reporting an error and giving a result. -/
theorem Check.reported_ends (line : Nat) (text : String) (a : α) :
    EStateM.Ends Checker.Sane (Check.flag line text >>= fun _ => pure a) :=
  .bind' (Check.flag_ends _ _) fun _ => .pure' _

theorem Check.typeOf_ends (name : String) (line : Nat) :
    EStateM.Ends Checker.Sane (Check.typeOf name line) := by
  unfold Check.typeOf
  refine .bind' .get' fun _ => ?_
  split
  · exact .pure' _
  · exact Check.reported_ends _ _ _

theorem Check.operation_ends (op : String) (line : Nat) (a b : Option Ty) :
    EStateM.Ends Checker.Sane (Check.operation op line a b) := by
  unfold Check.operation
  split
  · exact .pure' _
  · exact Check.reported_ends _ _ _

theorem Check.matrixNamed_ends (id : String) (line : Nat) :
    EStateM.Ends Checker.Sane (Check.matrixNamed id line) := by
  unfold Check.matrixNamed
  refine .bind' .get' fun _ => ?_
  split
  · exact Check.reported_ends _ _ _
  · exact Check.reported_ends _ _ _
  · exact .pure' _

theorem Check.requireScope_ends (names : List String) (line : Nat) (word : String) :
    EStateM.Ends Checker.Sane (Check.requireScope names line word) :=
  .bind' .get' fun _ => .ite' (Check.flag_ends _ _) (.pure' _)

theorem Check.inScope_ends {name : String} {body : Check α} (inner : EStateM.Ends Checker.Sane body) :
    EStateM.Ends Checker.Sane (Check.inScope name body) :=
  .bind' (.modify' fun _ sane => sane.push name) fun _ => .bind' inner fun _ =>
    .bind' (.modify' fun _ sane => sane.pop) fun _ => .pure' _

end Ends

theorem Atom.check_ends : (a : Atom) → EStateM.Ends Checker.Sane a.check
  | .int .. | .float .. | .str .. => .pure' _
  | .var n l => Check.typeOf_ends n l

theorem Index.check_ends : (i : Index) → EStateM.Ends Checker.Sane i.check
  | .lit .. => .pure' _
  | .name n l => Check.typeOf_ends n l

theorem Index.literal_ends : (i : Index) → i.isLiteral = true → EStateM.Ends Checker.Sane i.literal
  | .lit .., _ => .pure' _
  | .name .., never => by simp [Index.isLiteral] at never

theorem Element.check_ends : (r : Element) → r.literalIndices = true →
    EStateM.Ends Checker.Sane r.check
  | .pair id r c l, literal => by
    simp only [Element.literalIndices, Bool.and_eq_true] at literal
    refine .bind' r.check_ends fun _ => .bind' c.check_ends fun _ => ?_
    refine .bind' (Check.matrixNamed_ends id l) fun found => ?_
    split
    · exact .pure' _
    · refine .ite' (Check.reported_ends _ _ _) ?_
      refine .bind' (r.literal_ends literal.1) fun _ => .ite' (Check.reported_ends _ _ _) ?_
      exact .bind' (c.literal_ends literal.2) fun _ =>
        .ite' (Check.reported_ends _ _ _) (.pure' _)
  | .single id r l, literal => by
    refine .bind' r.check_ends fun _ => .bind' (Check.matrixNamed_ends id l) fun found => ?_
    split
    · exact .pure' _
    · exact .bind' (r.literal_ends literal) fun _ => .ite' (Check.reported_ends _ _ _) (.pure' _)

theorem Slice.check_ends : (s : Slice) → s.literalIndices = true → EStateM.Ends Checker.Sane s.check
  | .both id b e l, literal => by
    simp only [Slice.literalIndices, Bool.and_eq_true] at literal
    refine .bind' b.check_ends fun _ => .bind' e.check_ends fun _ => ?_
    refine .bind' (Check.matrixNamed_ends id l) fun found => ?_
    split
    · exact .pure' _
    · refine .bind' (e.literal_ends literal.2) fun _ => .ite' (Check.reported_ends _ _ _) ?_
      refine .bind' (b.literal_ends literal.1) fun _ => .bind' (e.literal_ends literal.2) fun _ => ?_
      exact .ite' (Check.reported_ends _ _ _) (.pure' _)
  | .upTo id e l, literal => by
    refine .bind' e.check_ends fun _ => .bind' (Check.matrixNamed_ends id l) fun found => ?_
    split
    · exact .pure' _
    · exact .bind' (e.literal_ends literal) fun _ => .ite' (Check.reported_ends _ _ _) (.pure' _)
  | .onwards id b l, literal => by
    refine .bind' b.check_ends fun _ => .bind' (Check.matrixNamed_ends id l) fun found => ?_
    split
    · exact .pure' _
    · exact .bind' (b.literal_ends literal) fun _ => .ite' (Check.reported_ends _ _ _) (.pure' _)

theorem Target.check_ends : (t : Target) → t.literalIndices = true →
    EStateM.Ends Checker.Sane t.check
  | .var n l, _ => Check.typeOf_ends n l
  | .element r, literal => .bind' (r.check_ends literal) fun _ => .pure' _
  | .slice s, literal => .bind' (s.check_ends literal) fun _ => .pure' _

theorem Expr.shape_ends (ty : Option Ty) (line : Nat) :
    (e : Expr) → e.wrapped = false → EStateM.Ends Checker.Sane (e.shape ty line)
  | .literal (.rows _ _) _, _ => .ite' (Check.reported_ends _ _ _) (.pure' _)
  | .literal (.row _) _, _ | .matrixFun .., _ => .pure' _
  | .transpose .., never | .paren .., never => by simp [Expr.wrapped] at never
  | .atom _, _ | .assign _, _ | .relation _, _ | .element _, _ | .negate .., _ | .arith .., _
  | .dotted .., _ => .pure' _

/-- A declaration declares a sane symbol: a matrix for the vector type. -/
theorem declareShape_ends (name : String) :
    (shape : Option (Option Ty × (Nat × Nat) × Nat)) →
      EStateM.Ends Checker.Sane (declareShape name shape)
  | some (some .vector, (_, _), _) | some (some .int, _, _) | some (some .float, _, _)
  | some (some .string, _, _) | some (some .logic, _, _) => .modify' fun _ sane => sane.put rfl
  | some (none, _, _) | none => .pure' _

/-! ### Element-wise operations on plain operands -/

/-- The operand `a` names a variable whose symbol, in the scopes of `c`, has the vector type. -/
def Expr.NamesMatrix (c : Checker) (a : Expr) : Prop :=
  ∃ n sym, a.operandName = pure n ∧ c.lookup n = some sym ∧ sym.ty = .vector

theorem Expr.NamesMatrix.congr {c c' : Checker} {a : Expr} (named : a.NamesMatrix c)
    (same : c'.scopes = c.scopes) : a.NamesMatrix c' := by
  obtain ⟨n, sym, name, found, vector⟩ := named
  exact ⟨n, sym, name, by rwa [Checker.lookup_congr same], vector⟩

/-- A leaf is typed without a change of scopes, as a vector only when it names a variable whose
symbol has the vector type. -/
theorem Atom.check_typed (x : Atom) (c : Checker) :
    ∃ t c', x.check.run c = .ok t c' ∧ c'.scopes = c.scopes ∧
      (t = some .vector → (Expr.atom x).NamesMatrix c) := by
  match x with
  | .int .. | .float .. | .str .. => exact ⟨_, c, rfl, rfl, fun typed => by cases typed⟩
  | .var n l =>
    cases found : c.lookup n with
    | none =>
      -- an unknown name is reported, and typed as nothing
      have ran : ∃ c', (Atom.var n l).check.run c = .ok none c' ∧ c'.scopes = c.scopes :=
        ⟨_, by simp only [Atom.check, Check.typeOf, EStateM.run_bind, EStateM.run_get, found]; rfl,
          by rfl⟩
      obtain ⟨c', ran, same⟩ := ran
      exact ⟨none, c', ran, same, fun typed => by cases typed⟩
    | some sym =>
      refine ⟨some sym.ty, c, ?_, rfl, fun typed => ⟨n, sym, rfl, found, Option.some.inj typed⟩⟩
      simp only [Atom.check, Check.typeOf, EStateM.run_bind, EStateM.run_get, found]
      rfl

/-- A plain operand is typed as its leaf is, and names the leaf's variable. -/
theorem Expr.plain_typed {a : Expr} (plain : a.plainOperand = true) (c : Checker) :
    ∃ t c', a.check.run c = .ok t c' ∧ c'.scopes = c.scopes ∧ (t = some .vector → a.NamesMatrix c) := by
  match a, plain with
  | .atom x, _ => exact x.check_typed c
  | .transpose (.atom x) l, _ | .paren (.atom x) l, _ =>
    obtain ⟨t, c', ran, same, named⟩ := x.check_typed c
    refine ⟨t, c', ran, same, fun vector => ?_⟩
    obtain ⟨n, sym, name, found, typed⟩ := named vector
    exact ⟨n, sym, name, found, typed⟩

/-- The size of a name whose symbol has the vector type is read without stopping. -/
theorem matrixShape_of_vector {c : Checker} (sane : c.Sane) {n : String} {sym : Symbol}
    (found : c.lookup n = some sym) (vector : sym.ty = .vector) :
    ∃ shape, (matrixShape n).run c = .ok shape c := by
  cases sym with
  | scalar _ t =>
    have fits := sane.lookup found
    simp only [Symbol.ty] at vector
    simp [Symbol.sane, vector] at fits
  | matrix _ r k d =>
    refine ⟨((r, k), d), ?_⟩
    simp only [matrixShape, EStateM.run_bind, EStateM.run_get, found]
    rfl

theorem Expr.dottedType_ends (op : String) (l : Nat) (a b : Expr) (ta tb : Option Ty) {c : Checker}
    (sane : c.Sane) (namedA : ta = some .vector → a.NamesMatrix c)
    (namedB : tb = some .vector → b.NamesMatrix c) :
    ∃ t c', (Expr.dottedType op l a b ta tb).run c = .ok t c' ∧ c'.Sane := by
  obtain ⟨found, c₁, typed, sane₁⟩ := (Check.operation_ends op l ta tb).ends sane
  have same := (Check.operation_fixed op l ta tb).keeps typed
  unfold Expr.dottedType
  rw [EStateM.run_bind, typed]
  cases found with
  | none => exact ⟨none, c₁, rfl, sane₁⟩
  | some t =>
    dsimp only
    by_cases both : ta = some .vector ∧ tb = some .vector
    · obtain ⟨n₁, sym₁, name₁, found₁, vector₁⟩ := (namedA both.1).congr same
      obtain ⟨n₂, sym₂, name₂, found₂, vector₂⟩ := (namedB both.2).congr same
      obtain ⟨shape₁, sized₁⟩ := matrixShape_of_vector sane₁ found₁ vector₁
      obtain ⟨shape₂, sized₂⟩ := matrixShape_of_vector sane₁ found₂ vector₂
      simp only [both.1, both.2, beq_self_eq_true, Bool.and_self, if_true, name₁, name₂, pure_bind,
        EStateM.run_bind, sized₁, sized₂]
      exact (EStateM.Ends.ite' (Check.reported_ends _ _ _)
        (.ite' (Check.reported_ends _ _ _) (.pure' _))).ends sane₁
    · have neither : ¬(ta == some .vector && tb == some .vector) = true := by
        simpa only [Bool.and_eq_true, beq_iff_eq] using both
      rw [if_neg neither]
      exact ⟨some t, c₁, rfl, sane₁⟩

/-- An element-wise operation on plain operands is checked without stopping. -/
theorem Expr.dotted_ends (op : String) (a b : Expr) (l : Nat) (plainA : a.plainOperand = true)
    (plainB : b.plainOperand = true) : EStateM.Ends Checker.Sane (Expr.dotted op a b l).check where
  ends {c} sane := by
    obtain ⟨ta, c₁, typedA, sameA, namedA⟩ := Expr.plain_typed plainA c
    obtain ⟨tb, c₂, typedB, sameB, namedB⟩ := Expr.plain_typed plainB c₁
    -- typing the operands reports unknown names at most, so every name reads as before
    have same : c₂.scopes = c.scopes := sameB.trans sameA
    simp only [Expr.check, EStateM.run_bind, typedA, typedB]
    exact Expr.dottedType_ends op l a b ta tb (sane.of_scopes same)
      (fun vector => (namedA vector).congr same) (fun vector => (namedB vector).congr sameB)

/-! ### Checkable syntax -/

mutual
theorem Expr.check_ends : (e : Expr) → e.checkable = true → EStateM.Ends Checker.Sane e.check
  | .atom a, _ => a.check_ends
  | .assign a, ok => .bind' (a.check_ends ok) fun _ => .pure' _
  | .relation c, ok => c.check_ends ok
  | .matrixFun .., _ | .literal .., _ => .pure' _
  | .element r, ok => r.check_ends ok
  | .negate e _, ok => .bind' (e.check_ends ok) fun _ => .pure' _
  | .transpose e _, ok | .paren e _, ok => e.check_ends ok
  | .arith op a b l, ok => by
    simp only [Expr.checkable, Bool.and_eq_true] at ok
    exact .bind' (a.check_ends ok.1) fun _ => .bind' (b.check_ends ok.2) fun _ =>
      Check.operation_ends op l _ _
  | .dotted op a b l, ok => by
    simp only [Expr.checkable, Bool.and_eq_true] at ok
    exact Expr.dotted_ends op a b l ok.1 ok.2

theorem Assign.check_ends : (a : Assign) → a.checkable = true → EStateM.Ends Checker.Sane a.check
  | .declare (.var name _) v l, ok => by
    simp only [Assign.checkable, Bool.and_eq_true, Bool.not_eq_true'] at ok
    exact .bind' (v.check_ends ok.1) fun ty => .bind' (v.shape_ends ty l ok.2) fun shape =>
      declareShape_ends name shape
  | .declare (.element r) v _, ok => by
    simp only [Assign.checkable, Target.literalIndices, Bool.and_eq_true] at ok
    exact .bind' (v.check_ends ok.1) fun _ => .bind' (r.check_ends ok.2) fun _ => .pure' _
  | .declare (.slice s) v _, ok => by
    simp only [Assign.checkable, Target.literalIndices, Bool.and_eq_true] at ok
    exact .bind' (v.check_ends ok.1) fun _ => .bind' (s.check_ends ok.2) fun _ => .pure' _
  | .update op t v l, ok => by
    simp only [Assign.checkable, Bool.and_eq_true] at ok
    exact .bind' (t.check_ends ok.1) fun _ => .bind' (v.check_ends ok.2) fun _ =>
      .bind' (Check.operation_ends op l _ _) fun _ => .pure' _

theorem Compare.check_ends : (c : Compare) → c.checkable = true → EStateM.Ends Checker.Sane c.check
  | .mk op a b l, ok => by
    simp only [Compare.checkable, Bool.and_eq_true] at ok
    exact .bind' (a.check_ends ok.1) fun _ => .bind' (b.check_ends ok.2) fun _ =>
      Check.operation_ends op l _ _
end

theorem Bound.check_ends : (b : Bound) → b.checkable = true → EStateM.Ends Checker.Sane b.check
  | .index i, _ => i.check_ends
  | .arith op a b l, ok => by
    simp only [Bound.checkable, Bool.and_eq_true] at ok
    exact .bind' (a.check_ends ok.1) fun _ => .bind' (b.check_ends ok.2) fun _ =>
      Check.operation_ends op l _ _

theorem PrintItem.check_ends : (p : PrintItem) → p.checkable = true →
    EStateM.Ends Checker.Sane p.check
  | .value e, ok => .bind' (e.check_ends ok) fun _ => .pure' _
  | .arith op a b l, ok => by
    simp only [PrintItem.checkable, Bool.and_eq_true] at ok
    exact .bind' (a.check_ends ok.1) fun _ => .bind' (b.check_ends ok.2) fun _ =>
      .bind' (Check.operation_ends op l _ _) fun _ => .pure' _

theorem Printed.check_ends : (p : Printed) → p.checkable = true → EStateM.Ends Checker.Sane p.check
  | .single i, ok => i.check_ends ok
  | .more rest i _, ok => by
    simp only [Printed.checkable, Bool.and_eq_true] at ok
    exact .bind' (rest.check_ends ok.1) fun _ => i.check_ends ok.2

mutual
theorem Stmt.check_ends : (s : Stmt) → s.checkable = true → EStateM.Ends Checker.Sane s.check
  | .control w l, _ => Check.requireScope_ends _ l w
  | .block body _, ok => Check.inScope_ends (Stmt.checkAll_ends body ok)
  | .ifElse c y n _, ok => by
    simp only [Stmt.checkable, Bool.and_eq_true] at ok
    exact .bind' (c.check_ends ok.1.1) fun _ =>
      .bind' (Check.inScope_ends (Stmt.checkOpt_ends y ok.1.2)) fun _ =>
        Check.inScope_ends (Stmt.checkOpt_ends n ok.2)
  | .ifThen c y _, ok => by
    simp only [Stmt.checkable, Bool.and_eq_true] at ok
    exact .bind' (c.check_ends ok.1) fun _ => Check.inScope_ends (Stmt.checkOpt_ends y ok.2)
  | .whileLoop c b _, ok => by
    simp only [Stmt.checkable, Bool.and_eq_true] at ok
    exact .bind' (c.check_ends ok.1) fun _ => Check.inScope_ends (Stmt.checkOpt_ends b ok.2)
  | .forLoop v a b body _, ok => by
    simp only [Stmt.checkable, Bool.and_eq_true] at ok
    -- the loop's variable is declared as a whole number, a sane symbol
    exact Check.inScope_ends (.bind' (.modify' fun _ sane => sane.put rfl) fun _ =>
      .bind' a.check_ends fun _ => .bind' (b.check_ends ok.1) fun _ =>
        Stmt.checkOpt_ends body ok.2)
  | .assign a, ok => a.check_ends ok
  | .print items _, ok => items.check_ends ok
  | .ret e l, ok =>
    .bind' (Check.requireScope_ends _ l _) fun _ => .bind' (e.check_ends ok) fun _ => .pure' _

theorem Stmt.checkOpt_ends : (s : Option Stmt) → Stmt.checkableOpt s = true →
    EStateM.Ends Checker.Sane (Stmt.checkOpt s)
  | some s, ok => s.check_ends ok
  | none, never => by simp [Stmt.checkableOpt] at never

theorem Stmt.checkAll_ends : (ss : List (Option Stmt)) → Stmt.checkableAll ss = true →
    EStateM.Ends Checker.Sane (Stmt.checkAll ss)
  | [], _ => .pure' _
  | s :: ss, ok => by
    simp only [Stmt.checkableAll, Bool.and_eq_true] at ok
    exact .bind' (Stmt.checkOpt_ends s ok.1) fun _ => Stmt.checkAll_ends ss ok.2
end

/-- The checker ends on every program of the checkable fragment. -/
theorem Program.check_ends {p : Program} (ok : Stmt.checkableAll p = true) :
    ∃ c, p.check = .ok c ∧ c.Sane := by
  obtain ⟨_, c, ran, sane⟩ := (Stmt.checkAll_ends p ok).ends Checker.Sane.start
  exact ⟨c, by simp [Program.check, ran], sane⟩

/-! ### Every stop is on a missing attribute -/

/-- The error of a missing attribute, an `AttributeError`. -/
def Error.Missing (e : Error) : Prop := e.kind = "AttributeError"

section Stops

variable {α : Type}

theorem Check.flag_stops (line : Nat) (text : String) :
    EStateM.StopsOn Error.Missing (Check.flag line text) :=
  .modify' _

theorem Check.reported_stops (line : Nat) (text : String) (a : α) :
    EStateM.StopsOn Error.Missing (Check.flag line text >>= fun _ => pure a) :=
  .bind' (Check.flag_stops _ _) fun _ => .pure' _

theorem Check.typeOf_stops (name : String) (line : Nat) :
    EStateM.StopsOn Error.Missing (Check.typeOf name line) := by
  unfold Check.typeOf
  refine .bind' .get' fun _ => ?_
  split
  · exact .pure' _
  · exact Check.reported_stops _ _ _

theorem Check.operation_stops (op : String) (line : Nat) (a b : Option Ty) :
    EStateM.StopsOn Error.Missing (Check.operation op line a b) := by
  unfold Check.operation
  split
  · exact .pure' _
  · exact Check.reported_stops _ _ _

theorem Check.matrixNamed_stops (id : String) (line : Nat) :
    EStateM.StopsOn Error.Missing (Check.matrixNamed id line) := by
  unfold Check.matrixNamed
  refine .bind' .get' fun _ => ?_
  split
  · exact Check.reported_stops _ _ _
  · exact Check.reported_stops _ _ _
  · exact .pure' _

theorem Check.requireScope_stops (names : List String) (line : Nat) (word : String) :
    EStateM.StopsOn Error.Missing (Check.requireScope names line word) :=
  .bind' .get' fun _ => .ite' (Check.flag_stops _ _) (.pure' _)

theorem Check.inScope_stops {name : String} {body : Check α}
    (inner : EStateM.StopsOn Error.Missing body) :
    EStateM.StopsOn Error.Missing (Check.inScope name body) :=
  .bind' (.modify' _) fun _ => .bind' inner fun _ => .bind' (.modify' _) fun _ => .pure' _

end Stops

theorem Atom.check_stops : (a : Atom) → EStateM.StopsOn Error.Missing a.check
  | .int .. | .float .. | .str .. => .pure' _
  | .var n l => Check.typeOf_stops n l

theorem Index.check_stops : (i : Index) → EStateM.StopsOn Error.Missing i.check
  | .lit .. => .pure' _
  | .name n l => Check.typeOf_stops n l

theorem Index.literal_stops : (i : Index) → EStateM.StopsOn Error.Missing i.literal
  | .lit .. => .pure' _
  | .name .. => .throw' rfl

theorem Element.check_stops : (r : Element) → EStateM.StopsOn Error.Missing r.check
  | .pair id r c l => by
    refine .bind' r.check_stops fun _ => .bind' c.check_stops fun _ => ?_
    refine .bind' (Check.matrixNamed_stops id l) fun found => ?_
    split
    · exact .pure' _
    · refine .ite' (Check.reported_stops _ _ _) ?_
      refine .bind' r.literal_stops fun _ => .ite' (Check.reported_stops _ _ _) ?_
      exact .bind' c.literal_stops fun _ => .ite' (Check.reported_stops _ _ _) (.pure' _)
  | .single id r l => by
    refine .bind' r.check_stops fun _ => .bind' (Check.matrixNamed_stops id l) fun found => ?_
    split
    · exact .pure' _
    · exact .bind' r.literal_stops fun _ => .ite' (Check.reported_stops _ _ _) (.pure' _)

theorem Slice.check_stops : (s : Slice) → EStateM.StopsOn Error.Missing s.check
  | .both id b e l => by
    refine .bind' b.check_stops fun _ => .bind' e.check_stops fun _ => ?_
    refine .bind' (Check.matrixNamed_stops id l) fun found => ?_
    split
    · exact .pure' _
    · refine .bind' e.literal_stops fun _ => .ite' (Check.reported_stops _ _ _) ?_
      refine .bind' b.literal_stops fun _ => .bind' e.literal_stops fun _ => ?_
      exact .ite' (Check.reported_stops _ _ _) (.pure' _)
  | .upTo id e l => by
    refine .bind' e.check_stops fun _ => .bind' (Check.matrixNamed_stops id l) fun found => ?_
    split
    · exact .pure' _
    · exact .bind' e.literal_stops fun _ => .ite' (Check.reported_stops _ _ _) (.pure' _)
  | .onwards id b l => by
    refine .bind' b.check_stops fun _ => .bind' (Check.matrixNamed_stops id l) fun found => ?_
    split
    · exact .pure' _
    · exact .bind' b.literal_stops fun _ => .ite' (Check.reported_stops _ _ _) (.pure' _)

theorem Target.check_stops : (t : Target) → EStateM.StopsOn Error.Missing t.check
  | .var n l => Check.typeOf_stops n l
  | .element r => .bind' r.check_stops fun _ => .pure' _
  | .slice s => .bind' s.check_stops fun _ => .pure' _

theorem Expr.variableName_stops : (e : Expr) → EStateM.StopsOn Error.Missing e.variableName
  | .atom (.var ..) => .pure' _
  | .atom (.int ..) | .atom (.float ..) | .atom (.str ..) => .throw' rfl
  | .assign _ | .relation _ | .matrixFun .. | .element _ | .negate .. | .literal .. | .transpose ..
  | .paren .. | .arith .. | .dotted .. => .throw' rfl

theorem Expr.operandName_stops (e : Expr) : EStateM.StopsOn Error.Missing e.operandName := by
  unfold Expr.operandName
  split <;> exact Expr.variableName_stops _

theorem matrixShape_stops (name : String) : EStateM.StopsOn Error.Missing (matrixShape name) := by
  unfold matrixShape
  refine .bind' .get' fun _ => ?_
  split
  · exact .pure' _
  · exact .throw' rfl
  · exact .throw' rfl

theorem Expr.dottedType_stops (op : String) (l : Nat) (a b : Expr) (ta tb : Option Ty) :
    EStateM.StopsOn Error.Missing (Expr.dottedType op l a b ta tb) := by
  unfold Expr.dottedType
  refine .bind' (Check.operation_stops op l _ _) fun found => ?_
  split
  · exact .pure' _
  · refine .ite' ?_ (.pure' _)
    refine .bind' a.operandName_stops fun _ => .bind' b.operandName_stops fun _ => ?_
    refine .bind' (matrixShape_stops _) fun _ => .bind' (matrixShape_stops _) fun _ => ?_
    exact .ite' (Check.reported_stops _ _ _) (.ite' (Check.reported_stops _ _ _) (.pure' _))

theorem Expr.shape_stops (ty : Option Ty) (line : Nat) :
    (e : Expr) → EStateM.StopsOn Error.Missing (e.shape ty line)
  | .literal (.rows _ _) _ => .ite' (Check.reported_stops _ _ _) (.pure' _)
  | .literal (.row _) _ | .matrixFun .. => .pure' _
  | .transpose x _ | .paren x _ => by
    refine .bind' .get' fun _ => .bind' x.variableName_stops fun _ => ?_
    split
    · exact .pure' _
    · exact .throw' rfl
    · exact .pure' _
  | .atom _ | .assign _ | .relation _ | .element _ | .negate .. | .arith .. | .dotted .. => .pure' _

theorem declareShape_stops (name : String) (shape : Option (Option Ty × (Nat × Nat) × Nat)) :
    EStateM.StopsOn Error.Missing (declareShape name shape) := by
  unfold declareShape
  split
  · exact .modify' _
  · exact .modify' _
  · exact .pure' _

mutual
theorem Expr.check_stops : (e : Expr) → EStateM.StopsOn Error.Missing e.check
  | .atom a => a.check_stops
  | .assign a => .bind' a.check_stops fun _ => .pure' _
  | .relation c => c.check_stops
  | .matrixFun .. | .literal .. => .pure' _
  | .element r => r.check_stops
  | .negate e _ => .bind' e.check_stops fun _ => .pure' _
  | .transpose e _ | .paren e _ => e.check_stops
  | .arith op a b l =>
    .bind' a.check_stops fun _ => .bind' b.check_stops fun _ => Check.operation_stops op l _ _
  | .dotted op a b l =>
    .bind' a.check_stops fun _ => .bind' b.check_stops fun _ => Expr.dottedType_stops op l a b _ _

theorem Assign.check_stops : (a : Assign) → EStateM.StopsOn Error.Missing a.check
  | .declare (.var name _) v l =>
    .bind' v.check_stops fun ty => .bind' (v.shape_stops ty l) fun shape =>
      declareShape_stops name shape
  | .declare (.element r) v _ => .bind' v.check_stops fun _ => .bind' r.check_stops fun _ => .pure' _
  | .declare (.slice s) v _ => .bind' v.check_stops fun _ => .bind' s.check_stops fun _ => .pure' _
  | .update op t v l =>
    .bind' t.check_stops fun _ => .bind' v.check_stops fun _ =>
      .bind' (Check.operation_stops op l _ _) fun _ => .pure' _

theorem Compare.check_stops : (c : Compare) → EStateM.StopsOn Error.Missing c.check
  | .mk op a b l =>
    .bind' a.check_stops fun _ => .bind' b.check_stops fun _ => Check.operation_stops op l _ _
end

theorem Bound.check_stops : (b : Bound) → EStateM.StopsOn Error.Missing b.check
  | .index i => i.check_stops
  | .arith op a b l =>
    .bind' a.check_stops fun _ => .bind' b.check_stops fun _ => Check.operation_stops op l _ _

theorem PrintItem.check_stops : (p : PrintItem) → EStateM.StopsOn Error.Missing p.check
  | .value e => .bind' e.check_stops fun _ => .pure' _
  | .arith op a b l =>
    .bind' a.check_stops fun _ => .bind' b.check_stops fun _ =>
      .bind' (Check.operation_stops op l _ _) fun _ => .pure' _

theorem Printed.check_stops : (p : Printed) → EStateM.StopsOn Error.Missing p.check
  | .single i => i.check_stops
  | .more rest i _ => .bind' rest.check_stops fun _ => i.check_stops

mutual
theorem Stmt.check_stops : (s : Stmt) → EStateM.StopsOn Error.Missing s.check
  | .control w l => Check.requireScope_stops _ l w
  | .block body _ => Check.inScope_stops (Stmt.checkAll_stops body)
  | .ifElse c y n _ =>
    .bind' c.check_stops fun _ => .bind' (Check.inScope_stops (Stmt.checkOpt_stops y)) fun _ =>
      Check.inScope_stops (Stmt.checkOpt_stops n)
  | .ifThen c y _ => .bind' c.check_stops fun _ => Check.inScope_stops (Stmt.checkOpt_stops y)
  | .whileLoop c b _ => .bind' c.check_stops fun _ => Check.inScope_stops (Stmt.checkOpt_stops b)
  | .forLoop _ a b body _ =>
    Check.inScope_stops (.bind' (.modify' _) fun _ => .bind' a.check_stops fun _ =>
      .bind' b.check_stops fun _ => Stmt.checkOpt_stops body)
  | .assign a => a.check_stops
  | .print items _ => items.check_stops
  | .ret e l =>
    .bind' (Check.requireScope_stops _ l _) fun _ => .bind' e.check_stops fun _ => .pure' _

theorem Stmt.checkOpt_stops : (s : Option Stmt) → EStateM.StopsOn Error.Missing (Stmt.checkOpt s)
  | some s => s.check_stops
  | none => .throw' rfl

theorem Stmt.checkAll_stops : (ss : List (Option Stmt)) →
    EStateM.StopsOn Error.Missing (Stmt.checkAll ss)
  | [] => .pure' _
  | s :: ss => .bind' (Stmt.checkOpt_stops s) fun _ => Stmt.checkAll_stops ss
end

/-! ### Main results -/

/-- The checker stops on nothing but a missing attribute, and it ends on every program of the
checkable fragment. -/
theorem Program.check_stops_on_attribute (p : Program) :
    (∀ f c, p.check = .error (f, c) → f.kind = "AttributeError") ∧
      (Stmt.checkableAll p = true → ∃ c, p.check = .ok c) := by
  refine ⟨fun f c stopped => ?_, fun ok => ?_⟩
  · unfold Program.check at stopped
    split at stopped
    · cases stopped
    · next f' c' ran =>
      cases stopped
      exact (Stmt.checkAll_stops p).stops ran
  · obtain ⟨c, checked, -⟩ := Program.check_ends ok
    exact ⟨c, checked⟩

/-- `A = eye(3); i = 1; print A[i, i];` stops the checker: a name as an index has no value. -/
theorem Program.check_stops_on_name_index :
    ∃ c, Program.check [some (.assign (.declare (.var "A" 1) (.matrixFun "eye" 3 1) 1)),
      some (.assign (.declare (.var "i" 1) (.atom (.int 1 1)) 1)),
      some (.print (.single (.value (.element (.pair "A" (.name "i" 1) (.name "i" 1) 1)))) 1)] =
      .error (.attribute "Variable" "value", c) :=
  ⟨_, rfl⟩

end Script

end MatrixLang
