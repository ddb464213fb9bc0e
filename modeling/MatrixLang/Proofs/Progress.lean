import MatrixLang.Proofs.Raised
import MatrixLang.Proofs.Scopes

/-!
# What a clean check rules out at run time

A compound assignment (`+=` and the like) to an element or a slice has no type for the checker,
so the checker reports it; the interpreter would stop on it with the missing field `name`. A
program the checker accepts with no error therefore never stops on a missing field, and among
the unknown operators only on `.*`, which the interpreter does not know outside its product mode.
The errors of operations on values (wrong kinds, indices out of range, division by zero) remain
possible: the checker does not follow values into loop ranges, through element assignments or
out of nested scopes.

## Main result

`Program.run_raises_no_attribute_error`: a program the checker accepts with an empty list of
errors stops on no `AttributeError`, and on a `KeyError` only for `.*`.

## Proof strategy

`Check.Vouches P x` says that checking `x` adds an error unless `P` holds. Every compound
assignment to a reference adds one, so a check that adds none vouches for `Stmt.updatesNames`;
`Stmt.execAll_admitted` does the rest.
-/
namespace MatrixLang.Script

/-! ### Checks that vouch for a property -/

/-- Checking `x` vouches for `P`: whenever it ends with no more errors than it started with,
`P` holds. -/
def Check.Vouches {α : Type} (P : Prop) (x : Check α) : Prop :=
  ∀ c a c', x.run c = .ok a c' → c'.errors.size ≤ c.errors.size → P

section Vouches

variable {α β : Type} {P Q : Prop}

theorem Check.Vouches.holds (holds : P) (x : Check α) : x.Vouches P :=
  fun _ _ _ _ _ => holds

theorem Check.Vouches.mono {x : Check α} (vouches : x.Vouches P) (implies : P → Q) :
    x.Vouches Q :=
  fun c a c' ended fewer => implies (vouches c a c' ended fewer)

theorem Check.Vouches.and {x : Check α} (left : x.Vouches P) (right : x.Vouches Q) :
    x.Vouches (P ∧ Q) :=
  fun c a c' ended fewer => ⟨left c a c' ended fewer, right c a c' ended fewer⟩

theorem Check.Vouches.throw' (e : Error) : (throw e : Check α).Vouches P := by
  intro c a c' ended
  cases ended

/-- A first step vouches for what it vouches for when the rest only adds errors. -/
theorem Check.Vouches.bind_left {x : Check α} {f : α → Check β} (first : x.Vouches P)
    (rest : ∀ a, (f a).Steady) : (x >>= f).Vouches P := by
  intro c b c' ended fewer
  obtain ⟨a, c₁, started, ended⟩ := EStateM.bind_ok ended
  have grown := (rest a).size_le ended
  exact first c a c₁ started (by omega)

/-- A continuation may use what the first step is known to return. -/
theorem Check.Vouches.bind_returns {x : Check α} {f : α → Check β} {V : α → Prop}
    (first : x.Steady) (returns : ∀ c a c', x.run c = .ok a c' → V a)
    (rest : ∀ a, V a → (f a).Vouches P) : (x >>= f).Vouches P := by
  intro c b c' ended fewer
  obtain ⟨a, c₁, started, ended⟩ := EStateM.bind_ok ended
  have grown := first.size_le started
  exact rest a (returns c a c₁ started) c₁ b c' ended (by omega)

/-- The rest of a run vouches for what it vouches for after a first step that only adds
errors. -/
theorem Check.Vouches.bind_right {x : Check α} {f : α → Check β} (first : x.Steady)
    (rest : ∀ a, (f a).Vouches P) : (x >>= f).Vouches P :=
  .bind_returns first (fun _ _ _ _ => trivial) fun a _ => rest a

theorem Check.Vouches.inScope' {name : String} {body : Check α} (inner : body.Vouches P) :
    (Check.inScope name body).Vouches P := by
  intro c a c' ended fewer
  obtain ⟨c₁, ran, rfl⟩ := Check.inScope_ok ended
  -- closing the scope leaves the errors alone
  exact inner (c.push name) a c₁ ran fewer

end Vouches

/-! ### Compound assignments to references -/

/-- An operation whose left operand has no type is reported. -/
theorem Check.operation_untyped_vouches (op : String) (line : Nat) (b : Option Ty) :
    (Check.operation op line none b).Vouches False := by
  intro c a c' ended fewer
  simp only [Check.operation, Ty.binary, Check.flag, EStateM.run_bind, EStateM.run_modify,
    EStateM.run_pure] at ended
  cases ended
  -- the report is one more error
  simp only [Array.size_push] at fewer
  omega

/-- An element or a slice as a target has no type. -/
theorem Target.check_reference {t : Target} (reference : ∀ name line, t ≠ .var name line)
    {c c' : Checker} {ty : Option Ty} (ended : t.check.run c = .ok ty c') : ty = none := by
  cases t with
  | var name line => exact absurd rfl (reference name line)
  | element r | slice r =>
    obtain ⟨_, c₁, -, ended⟩ := EStateM.bind_ok ended
    cases ended
    rfl

/-- A compound assignment to an element or a slice is always reported. -/
theorem Assign.update_reference_vouches (op : String) (t : Target) (v : Expr) (line : Nat)
    (reference : ∀ name line, t ≠ .var name line) :
    (Assign.update op t v line).check.Vouches False := by
  refine .bind_returns t.check_steady (fun _ _ _ ended => Target.check_reference reference ended)
    fun ty untyped => ?_
  subst untyped
  exact .bind_right v.check_steady fun _ =>
    .bind_left (Check.operation_untyped_vouches op line _) fun _ => .pure' _

/-! ### Checked expressions and statements -/

/-- Two operands checked one after the other, then `rest`, vouch for both operands. -/
theorem Check.Vouches.operands {α : Type} {P Q : Prop} {x y : Check (Option Ty)}
    {rest : Option Ty → Option Ty → Check α} (left : x.Vouches P) (leftSteady : x.Steady)
    (right : y.Vouches Q) (rightSteady : y.Steady) (restSteady : ∀ a b, (rest a b).Steady) :
    (x >>= fun a => y >>= fun b => rest a b).Vouches (P ∧ Q) :=
  (Check.Vouches.bind_left left fun a => .bind' rightSteady fun b => restSteady a b).and
    (.bind_right leftSteady fun a => .bind_left right fun b => restSteady a b)

mutual
/-- Checking an expression with no new error vouches that its compound assignments update
plain variables. -/
theorem Expr.check_vouches : (e : Expr) → e.check.Vouches (e.updatesNames = true)
  | .atom _ => .holds rfl _
  | .assign a => .bind_left a.check_vouches fun _ => .pure' _
  | .relation c => c.check_vouches
  | .matrixFun .. => .holds rfl _
  | .element _ => .holds rfl _
  | .negate e _ => .bind_left e.check_vouches fun _ => .pure' _
  | .literal .. => .holds rfl _
  | .transpose e _ => e.check_vouches
  | .paren e _ => e.check_vouches
  | .arith op a b l =>
    (Check.Vouches.operands a.check_vouches a.check_steady b.check_vouches b.check_steady
      fun _ _ => Check.operation_steady op l _ _).mono fun both => by
        simp [Expr.updatesNames, both.1, both.2]
  | .dotted op a b l =>
    (Check.Vouches.operands a.check_vouches a.check_steady b.check_vouches b.check_steady
      fun _ _ => Expr.dottedType_steady op l a b _ _).mono fun both => by
        simp [Expr.updatesNames, both.1, both.2]

/-- Checking an assignment with no new error vouches that it, and every compound assignment
inside it, updates plain variables. -/
theorem Assign.check_vouches : (a : Assign) → a.check.Vouches (a.updatesNames = true)
  | .declare (.element r) v _ =>
    .bind_left v.check_vouches fun _ => .bind' r.check_steady fun _ => .pure' _
  | .declare (.slice s) v _ =>
    .bind_left v.check_vouches fun _ => .bind' s.check_steady fun _ => .pure' _
  | .declare (.var name _) v l =>
    .bind_left v.check_vouches fun ty =>
      .bind' (v.shape_steady ty l) fun shape => declareShape_steady name shape
  | .update op (.var name l') v l =>
    .bind_right (Target.check_steady (.var name l')) fun _ =>
      .bind_left v.check_vouches fun _ => .bind' (Check.operation_steady op l _ _) fun _ => .pure' _
  | .update op (.element r) v l =>
    (Assign.update_reference_vouches op (.element r) v l fun _ _ => nofun).mono False.elim
  | .update op (.slice s) v l =>
    (Assign.update_reference_vouches op (.slice s) v l fun _ _ => nofun).mono False.elim

theorem Compare.check_vouches : (c : Compare) → c.check.Vouches (c.updatesNames = true)
  | .mk op a b l =>
    (Check.Vouches.operands a.check_vouches a.check_steady b.check_vouches b.check_steady
      fun _ _ => Check.operation_steady op l _ _).mono fun both => by
        simp [Compare.updatesNames, both.1, both.2]
end

theorem Bound.check_vouches : (b : Bound) → b.check.Vouches (b.updatesNames = true)
  | .index _ => .holds rfl _
  | .arith op a b l =>
    (Check.Vouches.operands a.check_vouches a.check_steady b.check_vouches b.check_steady
      fun _ _ => Check.operation_steady op l _ _).mono fun both => by
        simp [Bound.updatesNames, both.1, both.2]

theorem PrintItem.check_vouches : (p : PrintItem) → p.check.Vouches (p.updatesNames = true)
  | .value e => .bind_left e.check_vouches fun _ => .pure' _
  | .arith op a b l =>
    (Check.Vouches.operands a.check_vouches a.check_steady b.check_vouches b.check_steady
      fun _ _ => .bind' (Check.operation_steady op l _ _) fun _ => .pure' _).mono fun both => by
        simp [PrintItem.updatesNames, both.1, both.2]

theorem Printed.check_vouches : (p : Printed) → p.check.Vouches (p.updatesNames = true)
  | .single i => i.check_vouches
  | .more rest i _ =>
    ((Check.Vouches.bind_left rest.check_vouches fun _ => i.check_steady).and
      (.bind_right rest.check_steady fun _ => i.check_vouches)).mono fun both => by
        simp [Printed.updatesNames, both.1, both.2]

mutual
/-- Checking a statement with no new error vouches that its compound assignments update plain
variables. -/
theorem Stmt.check_vouches : (s : Stmt) → s.check.Vouches (s.updatesNames = true)
  | .control .. => .holds rfl _
  | .block body _ => .inScope' (Stmt.checkAll_vouches body)
  | .ifElse c y n _ =>
    -- the condition, then each branch in a scope of its own
    have cond : (Stmt.ifElse c y n _).check.Vouches (c.updatesNames = true) :=
      .bind_left c.check_vouches fun _ =>
        .bind' (.inScope' (Stmt.checkOpt_steady y)) fun _ => .inScope' (Stmt.checkOpt_steady n)
    have yes : (Stmt.ifElse c y n _).check.Vouches (Stmt.updatesNamesOpt y = true) :=
      .bind_right c.check_steady fun _ =>
        .bind_left (.inScope' (Stmt.checkOpt_vouches y)) fun _ => .inScope' (Stmt.checkOpt_steady n)
    have no : (Stmt.ifElse c y n _).check.Vouches (Stmt.updatesNamesOpt n = true) :=
      .bind_right c.check_steady fun _ => .bind_right (.inScope' (Stmt.checkOpt_steady y)) fun _ =>
        .inScope' (Stmt.checkOpt_vouches n)
    ((cond.and yes).and no).mono fun all => by
      simp [Stmt.updatesNames, all.1.1, all.1.2, all.2]
  | .ifThen c y _ =>
    ((Check.Vouches.bind_left c.check_vouches fun _ => .inScope' (Stmt.checkOpt_steady y)).and
      (.bind_right c.check_steady fun _ => .inScope' (Stmt.checkOpt_vouches y))).mono fun both => by
        simp [Stmt.updatesNames, both.1, both.2]
  | .whileLoop c b _ =>
    ((Check.Vouches.bind_left c.check_vouches fun _ => .inScope' (Stmt.checkOpt_steady b)).and
      (.bind_right c.check_steady fun _ => .inScope' (Stmt.checkOpt_vouches b))).mono fun both => by
        simp [Stmt.updatesNames, both.1, both.2]
  | .forLoop v a b body _ =>
    -- the counter is declared first; then the range and the body are checked in the loop's scope
    have range : (Stmt.forLoop v a b body _).check.Vouches (b.updatesNames = true) :=
      .inScope' (.bind_right (.put' _ _) fun _ => .bind_right a.check_steady fun _ =>
        .bind_left b.check_vouches fun _ => Stmt.checkOpt_steady body)
    have pass : (Stmt.forLoop v a b body _).check.Vouches (Stmt.updatesNamesOpt body = true) :=
      .inScope' (.bind_right (.put' _ _) fun _ => .bind_right a.check_steady fun _ =>
        .bind_right b.check_steady fun _ => Stmt.checkOpt_vouches body)
    (range.and pass).mono fun both => by simp [Stmt.updatesNames, both.1, both.2]
  | .assign a => a.check_vouches
  | .print items _ => items.check_vouches
  | .ret e l =>
    .bind_right (Check.requireScope_steady _ l _) fun _ =>
      .bind_left e.check_vouches fun _ => .pure' _

theorem Stmt.checkOpt_vouches : (s : Option Stmt) →
    (Stmt.checkOpt s).Vouches (Stmt.updatesNamesOpt s = true)
  | some s => Stmt.check_vouches s
  | none => .holds rfl _

theorem Stmt.checkAll_vouches : (ss : List (Option Stmt)) →
    (Stmt.checkAll ss).Vouches (Stmt.updatesNamesAll ss = true)
  | [] => .holds rfl _
  | s :: ss =>
    ((Check.Vouches.bind_left (Stmt.checkOpt_vouches s) fun _ => Stmt.checkAll_steady ss).and
      (.bind_right (Stmt.checkOpt_steady s) fun _ => Stmt.checkAll_vouches ss)).mono fun both => by
        simp [Stmt.updatesNamesAll, both.1, both.2]
end

/-! ### Checked programs -/

/-- An admitted error is no `AttributeError`, and a `KeyError` only for `.*`. -/
theorem Error.Admitted.kind {e : Error} (admitted : e.Admitted) :
    e.kind ≠ "AttributeError" ∧ (e.kind = "KeyError" → e = .key ".*") := by
  match e, admitted with
  | .attribute .., never => exact never.elim
  | .key name, admitted =>
    have star : name = ".*" := admitted
    subst star
    exact ⟨by simp [Error.kind], fun _ => rfl⟩
  | .op o, _ => cases o <;> simp [Error.kind, OpError.kind]

/-- A program the checker accepts with an empty list of errors stops on no `AttributeError`,
and on a `KeyError` only for the element-wise product `.*`. -/
theorem Program.run_raises_no_attribute_error (p : Program) (product : Bool) (c : Checker)
    (checked : p.check = .ok c) (clean : c.errors = #[]) (e : Error) (m : Machine)
    (stopped : p.run product = .error (.raised e, m)) :
    e.kind ≠ "AttributeError" ∧ (e.kind = "KeyError" → e = .key ".*") := by
  have accepted : (Stmt.checkAll p).run {} = .ok () c := Program.check_ok checked
  have raised : (Stmt.execAll budget p).run { product } = .error (.raised e) m :=
    Program.run_error stopped
  have named : Stmt.updatesNamesAll p = true :=
    Stmt.checkAll_vouches p {} () c accepted (by simp [clean])
  exact (Stmt.execAll_admitted budget p named { product } e m raised).kind

/-- `x = 1; { x = [1, 2]; } y = x + 1;` passes the checker with no error, which declares the
inner `x` in the block's scope; the interpreter assigns the outer `x`, and `x + 1` stops on a
`TypeError`. -/
theorem Program.block_redeclaration_type_error :
    ∃ c e m, Program.check [some (.assign (.declare (.var "x" 1) (.atom (.int 1 1)) 1)),
        some (.block [some (.assign (.declare (.var "x" 1) (.literal (.row ⟨[1, 2], 1, 14⟩) 1)
          1))] 1),
        some (.assign (.declare (.var "y" 1) (.arith "+" (.atom (.var "x" 1)) (.atom (.int 1 1))
          1) 1))] = .ok c ∧ c.errors = #[] ∧
      Program.run [some (.assign (.declare (.var "x" 1) (.atom (.int 1 1)) 1)),
        some (.block [some (.assign (.declare (.var "x" 1) (.literal (.row ⟨[1, 2], 1, 14⟩) 1)
          1))] 1),
        some (.assign (.declare (.var "y" 1) (.arith "+" (.atom (.var "x" 1)) (.atom (.int 1 1))
          1) 1))] false = .error (.raised e, m) ∧
      e.kind = "TypeError" :=
  ⟨_, _, _, rfl, rfl, rfl, rfl⟩

/-- `A = [[1, 2], [3, 4]]; B = A .* A;` passes the checker with no error and stops on the
unknown operator `.*`. -/
theorem Program.product_stops_on_key_error :
    ∃ c m, Program.check [some (.assign (.declare (.var "A" 1)
        (.literal (.rows [⟨[1, 2], 1, 6⟩, ⟨[3, 4], 1, 14⟩] 1) 1) 1)),
      some (.assign (.declare (.var "B" 1) (.dotted ".*" (.atom (.var "A" 1))
        (.atom (.var "A" 1)) 1) 1))] = .ok c ∧ c.errors = #[] ∧
      Program.run [some (.assign (.declare (.var "A" 1)
        (.literal (.rows [⟨[1, 2], 1, 6⟩, ⟨[3, 4], 1, 14⟩] 1) 1) 1)),
      some (.assign (.declare (.var "B" 1) (.dotted ".*" (.atom (.var "A" 1))
        (.atom (.var "A" 1)) 1) 1))] false = .error (.raised (.key ".*"), m) ∧
      (Error.key ".*").kind ≠ "AttributeError" ∧
      ((Error.key ".*").kind = "KeyError" → Error.key ".*" = .key ".*") := by
  refine ⟨_, _, rfl, rfl, rfl, ?_⟩
  exact Program.run_raises_no_attribute_error [some (.assign (.declare (.var "A" 1)
      (.literal (.rows [⟨[1, 2], 1, 6⟩, ⟨[3, 4], 1, 14⟩] 1) 1) 1)),
    some (.assign (.declare (.var "B" 1) (.dotted ".*" (.atom (.var "A" 1))
      (.atom (.var "A" 1)) 1) 1))] false _ rfl rfl _ _ rfl

end MatrixLang.Script
