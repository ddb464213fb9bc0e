import MatrixLang.Script.Check
import MatrixLang.Proofs.Effects

/-!
# Checking keeps the scopes and only adds errors

The checker opens a scope for each block, branch and loop and closes it when the construct is
done; in between it declares names in the innermost scope and appends error messages. This
module states what every step of the checker keeps, as a property of a step, `Check.Steady`: a
normal end leaves the open scopes with the names they had, every scope but the innermost as it
was, and the errors found before in front of the errors found after.

As for runs of the interpreter, the property is closed under the operations of the monad, and
each checking function inherits it from the functions it calls. The main statements are
`Expr.check_steady` with its companions for assignments and comparisons, and
`Stmt.check_steady` for statements, where `Check.inScope` puts back the scope it opened.
-/
namespace MatrixLang.Script

/-! ### The names of the scopes -/

/-- The names of the open scopes, innermost first. -/
def Checker.names (c : Checker) : List String := c.scopes.map Scope.name

@[simp] theorem Checker.names_push (c : Checker) (name : String) :
    (c.push name).names = name :: c.names := rfl

@[simp] theorem Checker.names_pop (c : Checker) : c.pop.names = c.names.drop 1 := by
  simp [Checker.pop, Checker.names]

@[simp] theorem Checker.names_put (c : Checker) (name : String) (sym : Symbol) :
    (c.put name sym).names = c.names := by
  unfold Checker.put
  split
  next s rest scopes => simp [Checker.names, scopes]
  next => rfl

@[simp] theorem Checker.errors_put (c : Checker) (name : String) (sym : Symbol) :
    (c.put name sym).errors = c.errors := by
  unfold Checker.put
  split <;> rfl

/-- A declaration changes the innermost scope only. -/
@[simp] theorem Checker.outer_put (c : Checker) (name : String) (sym : Symbol) :
    (c.put name sym).scopes.tail = c.scopes.tail := by
  unfold Checker.put
  split
  next s rest scopes => simp [scopes]
  next => rfl

/-- Whether a scope of some names is open depends only on the names of the scopes. -/
theorem Checker.within_eq (c : Checker) (names : List String) :
    c.within names = c.names.any (names.contains ·) := by
  simp [Checker.within, Checker.names, List.any_map, Function.comp_def]

/-! ### Steady steps -/

/-- A step of the checker that keeps the names of the open scopes, changes no scope but the
innermost, and only adds errors. -/
structure Check.Steady {α : Type} (x : Check α) : Prop where
  keeps : ∀ {c a c'}, x.run c = .ok a c' → c'.names = c.names
  outer : ∀ {c a c'}, x.run c = .ok a c' → c'.scopes.tail = c.scopes.tail
  grows : ∀ {c a c'}, x.run c = .ok a c' → c.errors.toList <+: c'.errors.toList

section Steady

variable {α β : Type}

theorem Check.Steady.pure' (a : α) : (pure a : Check α).Steady where
  keeps ended := by cases ended; rfl
  outer ended := by cases ended; rfl
  grows ended := by cases ended; exact List.prefix_refl _

theorem Check.Steady.get' : (get : Check Checker).Steady where
  keeps ended := by cases ended; rfl
  outer ended := by cases ended; rfl
  grows ended := by cases ended; exact List.prefix_refl _

theorem Check.Steady.throw' (e : Error) : (throw e : Check α).Steady where
  keeps ended := by cases ended
  outer ended := by cases ended
  grows ended := by cases ended

theorem Check.Steady.bind' {x : Check α} {f : α → Check β} (first : x.Steady)
    (rest : ∀ a, (f a).Steady) : (x >>= f).Steady where
  keeps ended := by
    obtain ⟨a, c₁, started, ended⟩ := EStateM.bind_ok ended
    exact ((rest a).keeps ended).trans (first.keeps started)
  outer ended := by
    obtain ⟨a, c₁, started, ended⟩ := EStateM.bind_ok ended
    exact ((rest a).outer ended).trans (first.outer started)
  grows ended := by
    obtain ⟨a, c₁, started, ended⟩ := EStateM.bind_ok ended
    exact (first.grows started).trans ((rest a).grows ended)

theorem Check.Steady.ite' {c : Prop} [Decidable c] {x y : Check α} (yes : x.Steady)
    (no : y.Steady) : (if c then x else y).Steady := by
  split
  · exact yes
  · exact no

theorem Check.Steady.flag' (line : Nat) (text : String) : (Check.flag line text).Steady where
  keeps ended := by cases ended; rfl
  outer ended := by cases ended; rfl
  grows ended := by cases ended; simp [List.prefix_append]

theorem Check.Steady.put' (name : String) (sym : Symbol) :
    (modify (·.put name sym) : Check Unit).Steady where
  keeps ended := by cases ended; exact Checker.names_put _ _ _
  outer ended := by cases ended; exact Checker.outer_put _ _ _
  grows ended := by cases ended; simp

/-- The inside of `inScope` runs from the state with the new scope, and the scope is closed
after it. -/
theorem Check.inScope_ok {name : String} {body : Check α} {c c' : Checker} {a : α}
    (ended : (Check.inScope name body).run c = .ok a c') :
    ∃ c₁, body.run (c.push name) = .ok a c₁ ∧ c' = c₁.pop := by
  simp only [Check.inScope, EStateM.run_bind, EStateM.run_modify, EStateM.run_pure] at ended
  cases inner : body.run (c.push name) with
  | ok b c₁ =>
    rw [inner] at ended
    cases ended
    exact ⟨c₁, rfl, rfl⟩
  | error e c₁ => rw [inner] at ended; cases ended

theorem Check.Steady.inScope' {name : String} {body : Check α} (inner : body.Steady) :
    (Check.inScope name body).Steady where
  keeps ended := by
    obtain ⟨c₁, ran, rfl⟩ := Check.inScope_ok ended
    simp [inner.keeps ran]
  outer {c a c'} ended := by
    obtain ⟨c₁, ran, rfl⟩ := Check.inScope_ok ended
    -- the body leaves every scope below its own as it found them, and its own is closed
    have below : c₁.scopes.tail = c.scopes := inner.outer ran
    simp [Checker.pop, List.drop_one, below]
  grows ended := by
    obtain ⟨c₁, ran, rfl⟩ := Check.inScope_ok ended
    -- opening and closing a scope leave the errors alone
    have grown := inner.grows ran
    exact grown

theorem Check.Steady.size_le {x : Check α} (steady : x.Steady) {c c' : Checker} {a : α}
    (ended : x.run c = .ok a c') : c.errors.size ≤ c'.errors.size := by
  have grown := (steady.grows ended).length_le
  simpa using grown

end Steady

/-! ### Checking expressions -/

theorem Check.typeOf_steady (name : String) (line : Nat) : (Check.typeOf name line).Steady := by
  unfold Check.typeOf
  refine .bind' .get' fun _ => ?_
  split
  · exact .pure' _
  · exact .bind' (.flag' _ _) fun _ => .pure' _

theorem Check.operation_steady (op : String) (line : Nat) (a b : Option Ty) :
    (Check.operation op line a b).Steady := by
  unfold Check.operation
  split
  · exact .pure' _
  · exact .bind' (.flag' _ _) fun _ => .pure' _

theorem Check.matrixNamed_steady (id : String) (line : Nat) : (Check.matrixNamed id line).Steady := by
  unfold Check.matrixNamed
  refine .bind' .get' fun _ => ?_
  split
  · exact .bind' (.flag' _ _) fun _ => .pure' _
  · exact .bind' (.flag' _ _) fun _ => .pure' _
  · exact .pure' _

theorem Check.requireScope_steady (names : List String) (line : Nat) (word : String) :
    (Check.requireScope names line word).Steady :=
  .bind' .get' fun _ => .ite' (.flag' _ _) (.pure' _)

theorem Atom.check_steady : (a : Atom) → a.check.Steady
  | .int .. | .float .. | .str .. => .pure' _
  | .var n l => Check.typeOf_steady n l

theorem Index.check_steady : (i : Index) → i.check.Steady
  | .lit .. => .pure' _
  | .name n l => Check.typeOf_steady n l

theorem Index.literal_steady : (i : Index) → i.literal.Steady
  | .lit .. => .pure' _
  | .name .. => .throw' _

/-- A reference checked against a size: each failed test is reported and ends the check. -/
theorem Element.check_steady : (r : Element) → r.check.Steady
  | .pair id r c l => by
    refine .bind' r.check_steady fun _ => .bind' c.check_steady fun _ => ?_
    refine .bind' (Check.matrixNamed_steady id l) fun found => ?_
    split
    · exact .pure' _
    · refine .ite' (.bind' (.flag' _ _) fun _ => .pure' _) ?_
      refine .bind' r.literal_steady fun _ => .ite' (.bind' (.flag' _ _) fun _ => .pure' _) ?_
      exact .bind' c.literal_steady fun _ => .ite' (.bind' (.flag' _ _) fun _ => .pure' _) (.pure' _)
  | .single id r l => by
    refine .bind' r.check_steady fun _ => .bind' (Check.matrixNamed_steady id l) fun found => ?_
    split
    · exact .pure' _
    · exact .bind' r.literal_steady fun _ => .ite' (.bind' (.flag' _ _) fun _ => .pure' _) (.pure' _)

theorem Slice.check_steady : (s : Slice) → s.check.Steady
  | .both id b e l => by
    refine .bind' b.check_steady fun _ => .bind' e.check_steady fun _ => ?_
    refine .bind' (Check.matrixNamed_steady id l) fun found => ?_
    split
    · exact .pure' _
    · refine .bind' e.literal_steady fun _ => .ite' (.bind' (.flag' _ _) fun _ => .pure' _) ?_
      refine .bind' b.literal_steady fun _ => .bind' e.literal_steady fun _ => ?_
      exact .ite' (.bind' (.flag' _ _) fun _ => .pure' _) (.pure' _)
  | .upTo id e l => by
    refine .bind' e.check_steady fun _ => .bind' (Check.matrixNamed_steady id l) fun found => ?_
    split
    · exact .pure' _
    · exact .bind' e.literal_steady fun _ => .ite' (.bind' (.flag' _ _) fun _ => .pure' _) (.pure' _)
  | .onwards id b l => by
    refine .bind' b.check_steady fun _ => .bind' (Check.matrixNamed_steady id l) fun found => ?_
    split
    · exact .pure' _
    · exact .bind' b.literal_steady fun _ => .ite' (.bind' (.flag' _ _) fun _ => .pure' _) (.pure' _)

theorem Target.check_steady : (t : Target) → t.check.Steady
  | .var n l => Check.typeOf_steady n l
  | .element r => .bind' r.check_steady fun _ => .pure' _
  | .slice s => .bind' s.check_steady fun _ => .pure' _

theorem Expr.variableName_steady : (e : Expr) → e.variableName.Steady
  | .atom (.var ..) => .pure' _
  | .atom (.int ..) | .atom (.float ..) | .atom (.str ..) => .throw' _
  | .assign _ | .relation _ | .matrixFun .. | .element _ | .negate .. | .literal .. | .transpose ..
  | .paren .. | .arith .. | .dotted .. => .throw' _

theorem Expr.operandName_steady (e : Expr) : e.operandName.Steady := by
  unfold Expr.operandName
  split <;> exact Expr.variableName_steady _

theorem matrixShape_steady (name : String) : (matrixShape name).Steady := by
  unfold matrixShape
  refine .bind' .get' fun _ => ?_
  split
  · exact .pure' _
  · exact .throw' _
  · exact .throw' _

theorem Expr.dottedType_steady (op : String) (l : Nat) (a b : Expr) (ta tb : Option Ty) :
    (Expr.dottedType op l a b ta tb).Steady := by
  unfold Expr.dottedType
  refine .bind' (Check.operation_steady op l _ _) fun found => ?_
  split
  · exact .pure' _
  · -- two matrices: their recorded sizes must fit the operator
    refine .ite' ?_ (.pure' _)
    refine .bind' a.operandName_steady fun _ => .bind' b.operandName_steady fun _ => ?_
    refine .bind' (matrixShape_steady _) fun _ => .bind' (matrixShape_steady _) fun _ => ?_
    refine .ite' (.bind' (.flag' _ _) fun _ => .pure' _) ?_
    exact .ite' (.bind' (.flag' _ _) fun _ => .pure' _) (.pure' _)

theorem Expr.shape_steady (ty : Option Ty) (line : Nat) : (e : Expr) → (e.shape ty line).Steady
  | .literal (.rows _ _) _ => .ite' (.bind' (.flag' _ _) fun _ => .pure' _) (.pure' _)
  | .literal (.row _) _ | .matrixFun .. => .pure' _
  | .transpose x _ | .paren x _ => by
    refine .bind' .get' fun _ => .bind' x.variableName_steady fun _ => ?_
    split
    · exact .pure' _
    · exact .throw' _
    · exact .pure' _
  | .atom _ | .assign _ | .relation _ | .element _ | .negate .. | .arith .. | .dotted .. => .pure' _

theorem declareShape_steady (name : String) (shape : Option (Option Ty × (Nat × Nat) × Nat)) :
    (declareShape name shape).Steady := by
  unfold declareShape
  split
  · exact .put' _ _
  · exact .put' _ _
  · exact .pure' _

mutual
/-- Checking an expression keeps the scopes and only adds errors. -/
theorem Expr.check_steady : (e : Expr) → e.check.Steady
  | .atom a => a.check_steady
  | .assign a => .bind' a.check_steady fun _ => .pure' _
  | .relation c => c.check_steady
  | .matrixFun .. => .pure' _
  | .element r => r.check_steady
  | .negate e _ => .bind' e.check_steady fun _ => .pure' _
  | .literal .. => .pure' _
  | .transpose e _ => e.check_steady
  | .paren e _ => e.check_steady
  | .arith op a b l =>
    .bind' a.check_steady fun _ => .bind' b.check_steady fun _ => Check.operation_steady op l _ _
  | .dotted op a b l =>
    .bind' a.check_steady fun _ => .bind' b.check_steady fun _ => Expr.dottedType_steady op l a b _ _

/-- Checking an assignment keeps the scopes: a declaration goes into the innermost one. -/
theorem Assign.check_steady : (a : Assign) → a.check.Steady
  | .declare (.element r) v _ => .bind' v.check_steady fun _ => .bind' r.check_steady fun _ => .pure' _
  | .declare (.slice s) v _ => .bind' v.check_steady fun _ => .bind' s.check_steady fun _ => .pure' _
  | .declare (.var name _) v l =>
    .bind' v.check_steady fun ty => .bind' (v.shape_steady ty l) fun shape => declareShape_steady name shape
  | .update op t v l =>
    .bind' t.check_steady fun _ => .bind' v.check_steady fun _ =>
      .bind' (Check.operation_steady op l _ _) fun _ => .pure' _

theorem Compare.check_steady : (c : Compare) → c.check.Steady
  | .mk op a b l =>
    .bind' a.check_steady fun _ => .bind' b.check_steady fun _ => Check.operation_steady op l _ _
end

theorem Bound.check_steady : (b : Bound) → b.check.Steady
  | .index i => i.check_steady
  | .arith op a b l =>
    .bind' a.check_steady fun _ => .bind' b.check_steady fun _ => Check.operation_steady op l _ _

theorem PrintItem.check_steady : (p : PrintItem) → p.check.Steady
  | .value e => .bind' e.check_steady fun _ => .pure' _
  | .arith op a b l =>
    .bind' a.check_steady fun _ => .bind' b.check_steady fun _ =>
      .bind' (Check.operation_steady op l _ _) fun _ => .pure' _

theorem Printed.check_steady : (p : Printed) → p.check.Steady
  | .single i => i.check_steady
  | .more rest i _ => .bind' rest.check_steady fun _ => i.check_steady

/-! ### Checking statements -/

mutual
/-- Checking a statement keeps the scopes: every scope it opens it closes again. -/
theorem Stmt.check_steady : (s : Stmt) → s.check.Steady
  | .control w l => Check.requireScope_steady _ l w
  | .block body _ => .inScope' (Stmt.checkAll_steady body)
  | .ifElse c y n _ =>
    .bind' c.check_steady fun _ => .bind' (.inScope' (Stmt.checkOpt_steady y)) fun _ =>
      .inScope' (Stmt.checkOpt_steady n)
  | .ifThen c y _ => .bind' c.check_steady fun _ => .inScope' (Stmt.checkOpt_steady y)
  | .whileLoop c b _ => .bind' c.check_steady fun _ => .inScope' (Stmt.checkOpt_steady b)
  | .forLoop _ a b body _ =>
    .inScope' (.bind' (.put' _ _) fun _ => .bind' a.check_steady fun _ => .bind' b.check_steady
      fun _ => Stmt.checkOpt_steady body)
  | .assign a => a.check_steady
  | .print items _ => items.check_steady
  | .ret e l =>
    .bind' (Check.requireScope_steady _ l _) fun _ => .bind' e.check_steady fun _ => .pure' _

theorem Stmt.checkOpt_steady : (s : Option Stmt) → (Stmt.checkOpt s).Steady
  | some s => Stmt.check_steady s
  | none => .throw' _

theorem Stmt.checkAll_steady : (ss : List (Option Stmt)) → (Stmt.checkAll ss).Steady
  | [] => .pure' _
  | s :: ss => .bind' (Stmt.checkOpt_steady s) fun _ => Stmt.checkAll_steady ss
end

/-- A program the checker accepts was checked to its end from the empty state. -/
theorem Program.check_ok {p : Program} {c : Checker} (checked : p.check = .ok c) :
    (Stmt.checkAll p).run {} = .ok () c := by
  unfold Program.check at checked
  split at checked <;> cases checked
  assumption

end MatrixLang.Script
