import MatrixLang.Proofs.Growth
import MatrixLang.Proofs.Scopes

/-!
# The checker's global names and the interpreter's global memory

The checker declares a name in the innermost scope, so a declaration inside a block, branch or
loop is gone when the construct ends; the interpreter assigns a name in every frame that has it,
so the same declaration updates a variable of the global memory in place. A list value can also
change after it is declared, through an element or slice assignment, and the checker types an
element reference as an integer or a matrix whatever it holds. The checker's global names and
the interpreter's global memory therefore agree only on programs that avoid these: programs
whose top-level declarations name distinct variables that nothing else writes, that assign no
element, in which no `return` leaves a loop, and whose top-level declarations assign values the
checker types exactly (`Program.tracked`).

## Main results

* `Program.checked_globals_fit`: for such a program that the checker accepts with no error and
  the interpreter runs to its end, the global memory is the only frame left and every name of
  the checker's global scope has there a value of its type and, for a matrix, of its size.
* `Program.block_declaration_escapes`: without these conditions the checker's global names and
  the global memory part: a declaration inside a block changes the type of a global variable
  behind the checker's back.

## Proof strategy

The checker's global scope changes only through top-level declarations (`Check.Fixed` for
everything else), and the interpreter's global memory only through the names those statements
write (`Stmt.exec_grows`). Statement by statement, `Agreement` carries the fact that each name of
the global scope has a fitting value in the global memory.
-/
namespace MatrixLang.Script

/-! ### Expressions that assign nothing -/

mutual
/-- Whether an expression assigns nothing: it holds no assignment used as a value. -/
def Expr.readOnly : Expr → Bool
  | .assign _ => false
  | .atom _ | .matrixFun .. | .element _ | .literal .. => true
  | .relation c => c.readOnly
  | .negate e _ | .transpose e _ | .paren e _ => e.readOnly
  | .arith _ a b _ | .dotted _ a b _ => a.readOnly && b.readOnly

/-- Whether a comparison assigns nothing. -/
def Compare.readOnly : Compare → Bool
  | .mk _ a b _ => a.readOnly && b.readOnly
end

/-- Whether an item of a `print` assigns nothing. -/
def PrintItem.readOnly : PrintItem → Bool
  | .value e => e.readOnly
  | .arith _ a b _ => a.readOnly && b.readOnly

/-- Whether the items of a `print` assign nothing. -/
def Printed.readOnly : Printed → Bool
  | .single i => i.readOnly
  | .more rest i _ => rest.readOnly && i.readOnly

/-- Whether the parts of a statement that are checked in the scope around it assign nothing:
its condition, the items it prints, the value it combines with a variable or returns. A
declaration is checked there as a whole. -/
def Stmt.outerReadOnly : Stmt → Bool
  | .ifElse c .. | .ifThen c .. | .whileLoop c .. => c.readOnly
  | .assign (.update _ _ v _) => v.readOnly
  | .assign (.declare ..) => false
  | .print items _ => items.readOnly
  | .ret e _ => e.readOnly
  | .control .. | .block .. | .forLoop .. => true

/-! ### Checking steps that leave the scopes alone -/

/-- A step of the checker that leaves the scopes as they were. -/
structure Check.Fixed {α : Type} (x : Check α) : Prop where
  keeps : ∀ {c a c'}, x.run c = .ok a c' → c'.scopes = c.scopes

section Fixed

variable {α β : Type}

theorem Check.Fixed.pure' (a : α) : (pure a : Check α).Fixed where
  keeps ended := by cases ended; rfl

theorem Check.Fixed.get' : (get : Check Checker).Fixed where
  keeps ended := by cases ended; rfl

theorem Check.Fixed.throw' (e : Error) : (throw e : Check α).Fixed where
  keeps ended := by cases ended

theorem Check.Fixed.bind' {x : Check α} {f : α → Check β} (first : x.Fixed)
    (rest : ∀ a, (f a).Fixed) : (x >>= f).Fixed where
  keeps ended := by
    obtain ⟨a, c₁, started, ended⟩ := EStateM.bind_ok ended
    exact ((rest a).keeps ended).trans (first.keeps started)

theorem Check.Fixed.ite' {c : Prop} [Decidable c] {x y : Check α} (yes : x.Fixed)
    (no : y.Fixed) : (if c then x else y).Fixed := by
  split
  · exact yes
  · exact no

theorem Check.Fixed.flag' (line : Nat) (text : String) : (Check.flag line text).Fixed where
  keeps ended := by cases ended; rfl

/-- A scope opened around a steady step is closed again on the scopes found. -/
theorem Check.Fixed.inScope' {name : String} {body : Check α} (inner : body.Steady) :
    (Check.inScope name body).Fixed where
  keeps {c a c'} ended := by
    obtain ⟨c₁, ran, rfl⟩ := Check.inScope_ok ended
    have below : c₁.scopes.tail = c.scopes := inner.outer ran
    simp [Checker.pop, List.drop_one, below]

end Fixed

theorem Check.typeOf_fixed (name : String) (line : Nat) : (Check.typeOf name line).Fixed := by
  unfold Check.typeOf
  refine .bind' .get' fun _ => ?_
  split
  · exact .pure' _
  · exact .bind' (.flag' _ _) fun _ => .pure' _

theorem Check.operation_fixed (op : String) (line : Nat) (a b : Option Ty) :
    (Check.operation op line a b).Fixed := by
  unfold Check.operation
  split
  · exact .pure' _
  · exact .bind' (.flag' _ _) fun _ => .pure' _

theorem Check.matrixNamed_fixed (id : String) (line : Nat) : (Check.matrixNamed id line).Fixed := by
  unfold Check.matrixNamed
  refine .bind' .get' fun _ => ?_
  split
  · exact .bind' (.flag' _ _) fun _ => .pure' _
  · exact .bind' (.flag' _ _) fun _ => .pure' _
  · exact .pure' _

theorem Check.requireScope_fixed (names : List String) (line : Nat) (word : String) :
    (Check.requireScope names line word).Fixed :=
  .bind' .get' fun _ => .ite' (.flag' _ _) (.pure' _)

theorem Atom.check_fixed : (a : Atom) → a.check.Fixed
  | .int .. | .float .. | .str .. => .pure' _
  | .var n l => Check.typeOf_fixed n l

theorem Index.check_fixed : (i : Index) → i.check.Fixed
  | .lit .. => .pure' _
  | .name n l => Check.typeOf_fixed n l

theorem Index.literal_fixed : (i : Index) → i.literal.Fixed
  | .lit .. => .pure' _
  | .name .. => .throw' _

theorem Element.check_fixed : (r : Element) → r.check.Fixed
  | .pair id r c l => by
    refine .bind' r.check_fixed fun _ => .bind' c.check_fixed fun _ => ?_
    refine .bind' (Check.matrixNamed_fixed id l) fun found => ?_
    split
    · exact .pure' _
    · refine .ite' (.bind' (.flag' _ _) fun _ => .pure' _) ?_
      refine .bind' r.literal_fixed fun _ => .ite' (.bind' (.flag' _ _) fun _ => .pure' _) ?_
      exact .bind' c.literal_fixed fun _ => .ite' (.bind' (.flag' _ _) fun _ => .pure' _) (.pure' _)
  | .single id r l => by
    refine .bind' r.check_fixed fun _ => .bind' (Check.matrixNamed_fixed id l) fun found => ?_
    split
    · exact .pure' _
    · exact .bind' r.literal_fixed fun _ => .ite' (.bind' (.flag' _ _) fun _ => .pure' _) (.pure' _)

theorem Slice.check_fixed : (s : Slice) → s.check.Fixed
  | .both id b e l => by
    refine .bind' b.check_fixed fun _ => .bind' e.check_fixed fun _ => ?_
    refine .bind' (Check.matrixNamed_fixed id l) fun found => ?_
    split
    · exact .pure' _
    · refine .bind' e.literal_fixed fun _ => .ite' (.bind' (.flag' _ _) fun _ => .pure' _) ?_
      refine .bind' b.literal_fixed fun _ => .bind' e.literal_fixed fun _ => ?_
      exact .ite' (.bind' (.flag' _ _) fun _ => .pure' _) (.pure' _)
  | .upTo id e l => by
    refine .bind' e.check_fixed fun _ => .bind' (Check.matrixNamed_fixed id l) fun found => ?_
    split
    · exact .pure' _
    · exact .bind' e.literal_fixed fun _ => .ite' (.bind' (.flag' _ _) fun _ => .pure' _) (.pure' _)
  | .onwards id b l => by
    refine .bind' b.check_fixed fun _ => .bind' (Check.matrixNamed_fixed id l) fun found => ?_
    split
    · exact .pure' _
    · exact .bind' b.literal_fixed fun _ => .ite' (.bind' (.flag' _ _) fun _ => .pure' _) (.pure' _)

theorem Target.check_fixed : (t : Target) → t.check.Fixed
  | .var n l => Check.typeOf_fixed n l
  | .element r => .bind' r.check_fixed fun _ => .pure' _
  | .slice s => .bind' s.check_fixed fun _ => .pure' _

theorem Expr.variableName_fixed : (e : Expr) → e.variableName.Fixed
  | .atom (.var ..) => .pure' _
  | .atom (.int ..) | .atom (.float ..) | .atom (.str ..) => .throw' _
  | .assign _ | .relation _ | .matrixFun .. | .element _ | .negate .. | .literal .. | .transpose ..
  | .paren .. | .arith .. | .dotted .. => .throw' _

theorem Expr.operandName_fixed (e : Expr) : e.operandName.Fixed := by
  unfold Expr.operandName
  split <;> exact Expr.variableName_fixed _

theorem matrixShape_fixed (name : String) : (matrixShape name).Fixed := by
  unfold matrixShape
  refine .bind' .get' fun _ => ?_
  split
  · exact .pure' _
  · exact .throw' _
  · exact .throw' _

theorem Expr.dottedType_fixed (op : String) (l : Nat) (a b : Expr) (ta tb : Option Ty) :
    (Expr.dottedType op l a b ta tb).Fixed := by
  unfold Expr.dottedType
  refine .bind' (Check.operation_fixed op l _ _) fun found => ?_
  split
  · exact .pure' _
  · refine .ite' ?_ (.pure' _)
    refine .bind' a.operandName_fixed fun _ => .bind' b.operandName_fixed fun _ => ?_
    refine .bind' (matrixShape_fixed _) fun _ => .bind' (matrixShape_fixed _) fun _ => ?_
    refine .ite' (.bind' (.flag' _ _) fun _ => .pure' _) ?_
    exact .ite' (.bind' (.flag' _ _) fun _ => .pure' _) (.pure' _)

theorem Expr.shape_fixed (ty : Option Ty) (line : Nat) : (e : Expr) → (e.shape ty line).Fixed
  | .literal (.rows _ _) _ => .ite' (.bind' (.flag' _ _) fun _ => .pure' _) (.pure' _)
  | .literal (.row _) _ | .matrixFun .. => .pure' _
  | .transpose x _ | .paren x _ => by
    refine .bind' .get' fun _ => .bind' x.variableName_fixed fun _ => ?_
    split
    · exact .pure' _
    · exact .throw' _
    · exact .pure' _
  | .atom _ | .assign _ | .relation _ | .element _ | .negate .. | .arith .. | .dotted .. => .pure' _

mutual
/-- Checking an expression that assigns nothing leaves the scopes alone. -/
theorem Expr.check_fixed : (e : Expr) → e.readOnly = true → e.check.Fixed
  | .atom a, _ => a.check_fixed
  | .assign _, reads => by simp [Expr.readOnly] at reads
  | .relation c, reads => c.check_fixed reads
  | .matrixFun .., _ => .pure' _
  | .element r, _ => r.check_fixed
  | .negate e _, reads => .bind' (e.check_fixed reads) fun _ => .pure' _
  | .literal .., _ => .pure' _
  | .transpose e _, reads => e.check_fixed reads
  | .paren e _, reads => e.check_fixed reads
  | .arith op a b l, reads => by
    simp only [Expr.readOnly, Bool.and_eq_true] at reads
    exact .bind' (a.check_fixed reads.1) fun _ => .bind' (b.check_fixed reads.2) fun _ =>
      Check.operation_fixed op l _ _
  | .dotted op a b l, reads => by
    simp only [Expr.readOnly, Bool.and_eq_true] at reads
    exact .bind' (a.check_fixed reads.1) fun _ => .bind' (b.check_fixed reads.2) fun _ =>
      Expr.dottedType_fixed op l a b _ _

theorem Compare.check_fixed : (c : Compare) → c.readOnly = true → c.check.Fixed
  | .mk op a b l, reads => by
    simp only [Compare.readOnly, Bool.and_eq_true] at reads
    exact .bind' (a.check_fixed reads.1) fun _ => .bind' (b.check_fixed reads.2) fun _ =>
      Check.operation_fixed op l _ _
end

theorem PrintItem.check_fixed : (p : PrintItem) → p.readOnly = true → p.check.Fixed
  | .value e, reads => .bind' (e.check_fixed reads) fun _ => .pure' _
  | .arith op a b l, reads => by
    simp only [PrintItem.readOnly, Bool.and_eq_true] at reads
    exact .bind' (a.check_fixed reads.1) fun _ => .bind' (b.check_fixed reads.2) fun _ =>
      .bind' (Check.operation_fixed op l _ _) fun _ => .pure' _

theorem Printed.check_fixed : (p : Printed) → p.readOnly = true → p.check.Fixed
  | .single i, reads => i.check_fixed reads
  | .more rest i _, reads => by
    simp only [Printed.readOnly, Bool.and_eq_true] at reads
    exact .bind' (rest.check_fixed reads.1) fun _ => i.check_fixed reads.2

/-- A statement that declares nothing in the scope around it leaves the scopes as they were:
blocks, branches and loops declare in scopes of their own. -/
theorem Stmt.check_fixed : (s : Stmt) → s.outerReadOnly = true → s.check.Fixed
  | .control w l, _ => Check.requireScope_fixed _ l w
  | .block body _, _ => .inScope' (Stmt.checkAll_steady body)
  | .ifElse c y n _, reads =>
    .bind' (c.check_fixed reads) fun _ => .bind' (.inScope' (Stmt.checkOpt_steady y)) fun _ =>
      .inScope' (Stmt.checkOpt_steady n)
  | .ifThen c y _, reads => .bind' (c.check_fixed reads) fun _ => .inScope' (Stmt.checkOpt_steady y)
  | .whileLoop c b _, reads =>
    .bind' (c.check_fixed reads) fun _ => .inScope' (Stmt.checkOpt_steady b)
  | .forLoop v a b body _, _ =>
    .inScope' (.bind' (.put' _ _) fun _ => .bind' a.check_steady fun _ =>
      .bind' b.check_steady fun _ => Stmt.checkOpt_steady body)
  | .assign (.declare ..), reads => by simp [Stmt.outerReadOnly] at reads
  | .assign (.update op t v l), reads =>
    .bind' t.check_fixed fun _ => .bind' (v.check_fixed reads) fun _ =>
      .bind' (Check.operation_fixed op l _ _) fun _ => .pure' _
  | .print items _, reads => items.check_fixed reads
  | .ret e l, reads =>
    .bind' (Check.requireScope_fixed _ l _) fun _ => .bind' (e.check_fixed reads) fun _ => .pure' _

/-! ### Programs whose global names the checker follows -/

/-- Whether a comparison is one the checker types as a truth value: its operator is a
comparison and its operands assign nothing. -/
def Compare.exactlyTyped : Compare → Bool
  | .mk op a b _ => Ty.comparisons.contains op && a.readOnly && b.readOnly

/-- Whether the checker gives an expression the type of every value the interpreter computes for
it from names that hold values of their symbols' types. An element reference is typed by its
number of indices, not by what the matrix holds, and an assignment has no type; an operator
must be one the interpreter computes as the table types it. -/
def Expr.exactlyTyped : Expr → Bool
  | .atom _ | .matrixFun .. | .literal .. => true
  | .relation c => c.exactlyTyped
  | .negate e _ | .transpose e _ | .paren e _ => e.exactlyTyped
  | .arith op a b _ => ["+", "-", "*", "/"].contains op && a.exactlyTyped && b.exactlyTyped
  | .dotted op a b _ => Ty.elementwise.contains op && a.readOnly && b.readOnly
  | .assign _ | .element _ => false

theorem Expr.readOnly_of_exactlyTyped : (e : Expr) → e.exactlyTyped = true → e.readOnly = true
  | .atom _, _ | .matrixFun .., _ | .literal .., _ => rfl
  | .relation (.mk _ a b _), exact => by
    simp only [Expr.exactlyTyped, Compare.exactlyTyped, Bool.and_eq_true] at exact
    simp [Expr.readOnly, Compare.readOnly, exact.1.2, exact.2]
  | .negate e _, exact | .transpose e _, exact | .paren e _, exact =>
    e.readOnly_of_exactlyTyped exact
  | .arith _ a b _, exact => by
    simp only [Expr.exactlyTyped, Bool.and_eq_true] at exact
    simp [Expr.readOnly, a.readOnly_of_exactlyTyped exact.1.2, b.readOnly_of_exactlyTyped exact.2]
  | .dotted _ a b _, exact => by
    simp only [Expr.exactlyTyped, Bool.and_eq_true] at exact
    simp [Expr.readOnly, exact.1.2, exact.2]

/-- The name a statement declares in the scope around it: that of an assignment to a plain
variable. -/
def Stmt.declaredName : Stmt → Option String
  | .assign (.declare (.var x _) _ _) => some x
  | _ => none

/-- The names a program declares at the top level, in order. -/
def Program.declared (p : Program) : List String := p.filterMap fun s => s.bind Stmt.declaredName

/-- Whether a top-level statement keeps the checker's global names in step with the global
memory, where `D` are the names the program declares at the top level and `T` gives each row
literal its length: a declaration of a value the checker types exactly, or a statement that
declares nothing in the global scope, writes no name of `D`, assigns no element and has no
`return` leaving a loop. -/
def Stmt.topLevel (D : List String) (T : Nat → Nat) : Stmt → Bool
  | .assign (.declare (.var _ _) e _) => e.exactlyTyped && e.spares D T
  | s => !s.returnLeavesLoop && s.spares D T && s.outerReadOnly

/-- Whether the checker's global names follow the global memory through a program: it declares
each global name once, and each of its statements is `Stmt.topLevel`. -/
def Program.tracked (T : Nat → Nat) (p : Program) : Bool :=
  decide p.declared.Nodup && p.all fun s => s.all (Stmt.topLevel p.declared T)

/-- A top-level statement is a declaration of a value typed exactly, or a statement that
declares nothing in the global scope. -/
theorem Stmt.topLevel_cases {D : List String} {T : Nat → Nat} {s : Stmt}
    (top : s.topLevel D T = true) :
    (∃ x lx e l, s = .assign (.declare (.var x lx) e l) ∧ e.exactlyTyped = true ∧
      e.spares D T = true) ∨
    (s.declaredName = none ∧ s.returnLeavesLoop = false ∧ s.spares D T = true ∧
      s.outerReadOnly = true) := by
  unfold Stmt.topLevel at top
  split at top
  next x lx e l =>
    simp only [Bool.and_eq_true] at top
    exact .inl ⟨x, lx, e, l, rfl, top⟩
  next other =>
    simp only [Bool.and_eq_true, Bool.not_eq_true'] at top
    refine .inr ⟨?_, top.1.1, top.1.2, top.2⟩
    unfold Stmt.declaredName
    split
    next x lx e l => exact absurd rfl (other x lx e l)
    next => rfl

/-! ### What the checker's steps give -/

/-- A step of the checker whose every result passes `P`. -/
structure Check.Gives {α : Type} (x : Check α) (P : α → Prop) : Prop where
  gives : ∀ {c a c'}, x.run c = .ok a c' → P a

section Gives

variable {α β : Type} {P : β → Prop}

theorem Check.Gives.pure' {b : β} (holds : P b) : (pure b : Check β).Gives P where
  gives ended := by cases ended; exact holds

theorem Check.Gives.bind' {x : Check α} {Q : α → Prop} {f : α → Check β} (first : x.Gives Q)
    (rest : ∀ a, Q a → (f a).Gives P) : (x >>= f).Gives P where
  gives ended := by
    obtain ⟨a, c₁, started, ended⟩ := EStateM.bind_ok ended
    exact (rest a (first.gives started)).gives ended

theorem Check.Gives.any (x : Check α) : x.Gives fun _ => True where
  gives _ := trivial

theorem Check.Gives.ite' {c : Prop} [Decidable c] {x y : Check β} (yes : x.Gives P)
    (no : y.Gives P) : (if c then x else y).Gives P := by
  split
  · exact yes
  · exact no

end Gives

/-- Whether the operator table gives an operator the type an optional type names. -/
def Ty.Tabled (op : String) (r : Option Ty) : Prop :=
  ∀ t, r = some t → ∃ ta tb, Ty.binary op ta tb = some t

theorem Check.operation_gives (op : String) (line : Nat) (ta tb : Option Ty) :
    (Check.operation op line ta tb).Gives (Ty.Tabled op) := by
  unfold Check.operation
  split
  next t typed => exact .pure' fun _ same => ⟨ta, tb, by cases same; exact typed⟩
  next => exact .bind' (.any _) fun _ _ => .pure' fun _ => nofun

/-- An element-wise operation is typed by the table, whatever sizes it finds. -/
theorem Expr.dottedType_gives (op : String) (l : Nat) (a b : Expr) (ta tb : Option Ty) :
    (Expr.dottedType op l a b ta tb).Gives (Ty.Tabled op) := by
  unfold Expr.dottedType
  refine .bind' (Check.operation_gives op l ta tb) fun found tabled => ?_
  split
  · exact .pure' fun _ => nofun
  · refine .ite' ?_ (.pure' tabled)
    refine .bind' (.any _) fun _ _ => .bind' (.any _) fun _ _ => .bind' (.any _) fun _ _ => ?_
    refine .bind' (.any _) fun _ _ => .ite' (.bind' (.any _) fun _ _ => .pure' fun _ => nofun) ?_
    exact .ite' (.bind' (.any _) fun _ _ => .pure' fun _ => nofun) (.pure' tabled)

/-! ### Checking that adds no error -/

section Clean

variable {α β : Type} {c c' : Checker}

/-- A steady step followed by steady steps that adds no error adds none in either part. -/
theorem Check.bind_clean {x : Check α} {f : α → Check β} (first : x.Steady)
    (rest : ∀ a, (f a).Steady) {b : β} (ended : (x >>= f).run c = .ok b c')
    (clean : c'.errors.size ≤ c.errors.size) :
    ∃ a c₁, (x.run c = .ok a c₁ ∧ c₁.errors.size ≤ c.errors.size) ∧
      ((f a).run c₁ = .ok b c' ∧ c'.errors.size ≤ c₁.errors.size) := by
  obtain ⟨a, c₁, started, ended⟩ := EStateM.bind_ok ended
  have before := first.size_le started
  have after := (rest a).size_le ended
  exact ⟨a, c₁, ⟨started, by omega⟩, ended, by omega⟩

/-- A report is one more error. -/
theorem Check.flag_reports {line : Nat} {text : String} {x : Check α} {a : α}
    (ended : (Check.flag line text >>= fun _ => x).run c = .ok a c') (rest : x.Steady) :
    c.errors.size < c'.errors.size := by
  obtain ⟨_, c₁, flagged, ended⟩ := EStateM.bind_ok ended
  cases flagged
  have after := rest.size_le ended
  simp only [Array.size_push] at after
  omega

/-- A name the checker types with no report is known, and has its symbol's type. -/
theorem Check.typeOf_clean {name : String} {line : Nat} {t : Option Ty}
    (ended : (Check.typeOf name line).run c = .ok t c') (clean : c'.errors.size ≤ c.errors.size) :
    ∃ sym, c.lookup name = some sym ∧ t = some sym.ty ∧ c' = c := by
  obtain ⟨_, c₁, got, ended⟩ := EStateM.bind_ok ended
  cases got
  split at ended
  next sym found => cases ended; exact ⟨sym, found, rfl, rfl⟩
  next => exact absurd clean (Nat.not_le.mpr (Check.flag_reports ended (.pure' _)))

/-- An operation the checker types with no report has the type of the operator table. -/
theorem Check.operation_clean {op : String} {line : Nat} {ta tb r : Option Ty}
    (ended : (Check.operation op line ta tb).run c = .ok r c')
    (clean : c'.errors.size ≤ c.errors.size) : ∃ t, r = some t ∧ Ty.binary op ta tb = some t := by
  unfold Check.operation at ended
  split at ended
  next t typed => cases ended; exact ⟨t, rfl, typed⟩
  next => exact absurd clean (Nat.not_le.mpr (Check.flag_reports ended (.pure' _)))

end Clean

/-! ### The global scope and the global memory -/

namespace Checker

variable {x y : String} {sym sym' : Symbol}

theorem lookup_filter_ne {β : Type} (symbols : List (String × β)) (other : y ≠ x) :
    (symbols.filter fun p => !decide (p.1 = x)).lookup y = symbols.lookup y := by
  induction symbols with
  | nil => rfl
  | cons p ps ih =>
    obtain ⟨n, s⟩ := p
    by_cases named : n = x
    · subst named
      have missed : (y == n) = false := by simpa using other
      simp [List.lookup_cons, missed, ih]
    · simp only [List.filter_cons, named, decide_false, Bool.not_false, if_true, List.lookup_cons]
      split <;> simp [ih]

/-- A declaration leaves the symbols of the other names as they were. -/
theorem lookup_put_of_ne (c : Checker) (other : y ≠ x) : (c.put x sym).lookup y = c.lookup y := by
  unfold Checker.put
  split
  next s rest scopes =>
    have missed : (y == x) = false := by simpa using other
    simp [Checker.lookup, scopes, List.findSome?_cons, List.lookup_cons, missed,
      lookup_filter_ne _ other]
  next => rfl

/-- A declaration gives its name the symbol declared, or, with no scope open, nothing. -/
theorem lookup_put (c : Checker) (found : (c.put x sym).lookup y = some sym') :
    (y = x ∧ sym' = sym) ∨ c.lookup y = some sym' := by
  by_cases named : y = x
  · subst named
    unfold Checker.put at found
    split at found
    next s rest scopes =>
      simp [Checker.lookup] at found
      exact .inl ⟨rfl, found.symm⟩
    next => exact .inr found
  · exact .inr (by rwa [lookup_put_of_ne c named] at found)

end Checker

namespace Machine

variable {m m' : Machine} {f : Frame} {x name : String} {v : Value}

theorem single_frame (single : m.layout = [name]) : ∃ f, m.frames = [f] ∧ f.name = name := by
  simpa [Machine.layout, List.map_eq_singleton_iff] using single

theorem global_single (frames : m.frames = [f]) : m.global x = f.vars.lookup x := by
  simp [Machine.global, frames]

/-- On a machine of one frame, reading a name gives its global value. -/
theorem lookup_of_global (frames : m.frames = [f]) (found : m.global x = some v) :
    m.lookup x = v := by
  rw [global_single frames] at found
  have bound : (f.vars.lookup x).isSome = true := by simp [found]
  have present : f.has x = true := by
    obtain ⟨p, member, named⟩ := List.lookup_isSome_iff.mp bound
    simp only [beq_iff_eq] at named
    exact List.any_eq_true.mpr ⟨p, member, by simp [named]⟩
  simp [Machine.lookup, frames, present, found]

end Machine

/-- On a machine of one frame, a declaration sets the name's global value. -/
theorem declare_global {m m' : Machine} {f : Frame} {x : String} {v : Value}
    (frames : m.frames = [f]) (ran : (declare x v).run m = .ok () m') : m'.global x = some v := by
  unfold declare at ran
  obtain ⟨_, m₁, got, ran⟩ := EStateM.bind_ok ran
  cases got
  split at ran
  · cases ran
    simp [Machine.global, Machine.insert, frames, Frame.lookup_put_self]
  · next unbound =>
    cases ran
    have present : f.has x = true := by
      cases bound : f.has x
      · exact (unbound (by simp [Machine.lookup, frames, bound])).elim
      · rfl
    simp [Machine.global, Machine.assign, frames, present, Frame.lookup_put_self]

theorem Machine.Evolves.mono {N N' : List String} {T : Nat → Nat} {m m' : Machine}
    (evolved : Machine.Evolves N T m m') (sub : N' ⊆ N) : Machine.Evolves N' T m m' where
  heap := evolved.heap
  layout := evolved.layout
  global x named := evolved.global x (sub named)
  rows := evolved.rows

/-- The symbol a declaration of a recorded shape puts in the innermost scope: a matrix of its
size, a scalar of its type, or nothing for a value of no type. -/
def Symbol.ofShape (name : String) : Option (Option Ty × (Nat × Nat) × Nat) → Option Symbol
  | some (some .vector, (r, c), d) => some (.matrix name r c d)
  | some (some t, _, _) => some (.scalar name t)
  | _ => none

theorem declareShape_run (name : String) (shape : Option (Option Ty × (Nat × Nat) × Nat))
    (c : Checker) :
    (declareShape name shape).run c = .ok () ((Symbol.ofShape name shape).elim c (c.put name)) := by
  rcases shape with _ | ⟨_ | ⟨_ | _ | _ | _ | _⟩, ⟨r, k⟩, d⟩ <;> rfl

/-- The checker's names and the global memory in agreement: the global memory is the only frame,
the row literals met are lists of the lengths `T` gives, and every name the checker knows is one
of `N` with a global value of the shape of its symbol. -/
structure Agreement (N : List String) (T : Nat → Nat) (c : Checker) (m : Machine) : Prop where
  frame : m.layout = ["global_memory"]
  rows : m.RowsFit T
  fits : ∀ x sym, c.lookup x = some sym →
    x ∈ N ∧ ∃ v, m.global x = some v ∧ m.heap.fits sym v = true

namespace Agreement

variable {N N' : List String} {T : Nat → Nat} {c c' : Checker} {m m' : Machine}

theorem evolve (agree : Agreement N T c m) (evolved : Machine.Evolves N T m m') :
    Agreement N T c m' where
  frame := evolved.layout.trans agree.frame
  rows := evolved.rows agree.rows
  fits x sym found := by
    obtain ⟨named, v, stored, fit⟩ := agree.fits x sym found
    exact ⟨named, v, (evolved.global x named).trans stored, evolved.heap.fits fit⟩

theorem rescope (agree : Agreement N T c m) (same : c'.scopes = c.scopes) : Agreement N T c' m where
  frame := agree.frame
  rows := agree.rows
  fits x sym found := agree.fits x sym (by simpa [Checker.lookup, same] using found)

theorem widen (agree : Agreement N T c m) (sub : N ⊆ N') : Agreement N' T c m where
  frame := agree.frame
  rows := agree.rows
  fits x sym found := (agree.fits x sym found).imp_left fun named => sub named

/-- A name the checker knows reads as a value of its symbol's shape. -/
theorem lookup_fits (agree : Agreement N T c m) {x : String} {sym : Symbol}
    (found : c.lookup x = some sym) : m.heap.fits sym (m.lookup x) = true := by
  obtain ⟨f, frames, -⟩ := Machine.single_frame agree.frame
  obtain ⟨-, v, stored, fit⟩ := agree.fits x sym found
  rwa [Machine.lookup_of_global frames stored]

/-- Checking and running an expression that assigns nothing and spares `N` keeps the agreement. -/
theorem after (agree : Agreement N T c m) {e : Expr} (reads : e.readOnly = true)
    (spared : e.spares N T = true) {ot : Option Ty} {v : Value}
    (checked : e.check.run c = .ok ot c') (ran : e.eval.run m = .ok v m') : Agreement N T c' m' :=
  (agree.rescope ((e.check_fixed reads).keeps checked)).evolve ((e.eval_grows spared).ended ran)

/-- A declaration adds its name with a symbol that fits the name's global value. -/
theorem declare (agree : Agreement N T c m) {x : String} {v : Value}
    {shape : Option (Option Ty × (Nat × Nat) × Nat)} (stored : m.global x = some v)
    (fits : ∀ sym, Symbol.ofShape x shape = some sym → m.heap.fits sym v = true) :
    Agreement (N ++ [x]) T ((Symbol.ofShape x shape).elim c (c.put x)) m where
  frame := agree.frame
  rows := agree.rows
  fits y sym' found := by
    cases declared : Symbol.ofShape x shape with
    | none =>
      rw [declared] at found
      exact (agree.fits y sym' found).imp_left (List.mem_append_left _)
    | some sym =>
      rw [declared] at found
      rcases Checker.lookup_put c found with ⟨rfl, rfl⟩ | found
      · exact ⟨by simp, v, stored, fits sym' declared⟩
      · exact (agree.fits y sym' found).imp_left (List.mem_append_left _)

end Agreement

/-! ### Values of the interpreter's operations -/

/-- A run whose value is a list on the heap it leaves. -/
structure Run.Fresh (x : Run Value) : Prop where
  listed : ∀ {m v m'}, x.run m = .ok v m' → m'.heap.admits .vector v = true

section Fresh

variable {α : Type}

theorem Run.Fresh.alloc' (items : Array Value) :
    (Run.onHeap fun h => .ok (h.alloc items)).Fresh where
  listed {m v m'} ended := by
    obtain ⟨h', made, rfl⟩ := Run.onHeap_ok ended
    obtain ⟨rfl, rfl⟩ := Heap.alloc_eq (Except.ok.inj made)
    simp [Heap.admits]

theorem Run.Fresh.bind' {x : Run α} {f : α → Run Value} (rest : ∀ a, (f a).Fresh) :
    (x >>= f).Fresh where
  listed ended := by
    obtain ⟨a, m₁, -, ended⟩ := EStateM.bind_ok ended
    exact (rest a).listed ended

theorem Run.Fresh.ite' {c : Prop} [Decidable c] {x y : Run Value} (yes : x.Fresh) (no : y.Fresh) :
    (if c then x else y).Fresh := by
  split
  · exact yes
  · exact no

theorem Run.Fresh.throw' (f : Fault) : (throw f : Run Value).Fresh where
  listed ended := by cases ended

end Fresh

theorem pairwise_fresh (op : String) (a b : Value) : (pairwise op a b).Fresh := by
  unfold pairwise
  exact .bind' fun _ => .bind' fun _ => .bind' fun _ => .bind' fun _ => .alloc' _

theorem matrixProduct_fresh (a b : Value) : (matrixProduct a b).Fresh := by
  unfold matrixProduct
  refine .bind' fun _ => .bind' fun _ => .ite' (pairwise_fresh _ _ _) ?_
  exact .bind' fun _ => .bind' fun _ => .bind' fun _ => .alloc' _

theorem combine_fresh (op : String) (a b : Value) : (combine op a b).Fresh := by
  unfold combine
  refine .ite' (matrixProduct_fresh a b) (.bind' fun _ => .bind' fun _ => ?_)
  refine .ite' (pairwise_fresh op a b) ?_
  exact .bind' fun _ => .bind' fun _ => .bind' fun _ => .bind' fun _ => .alloc' _

/-- An element-wise operator gives a new list, whatever its operands. -/
theorem elementwise_fresh (op : String) (a b : Value) : (elementwise op a b).Fresh := by
  unfold elementwise
  exact .bind' fun _ => .ite' (.throw' _) (.bind' fun (a, b) => combine_fresh op a b)

theorem Value.untyped_of_admits {h : Heap} {v : Value} (listed : h.admits .vector v = true) :
    v.untyped = true := by
  cases v <;> simp_all [Heap.admits, Value.untyped]

/-- A comparison's type, if the table gives one, fits a truth value. -/
theorem Ty.Tabled.admits_bool {op : String} {ot : Option Ty} (tabled : Ty.Tabled op ot)
    (compared : op ∈ Ty.comparisons) {h : Heap} {b : Bool} : h.admitsOpt ot (.bool b) = true := by
  cases ot with
  | none => rfl
  | some t =>
    obtain ⟨ta, tb, typed⟩ := tabled t rfl
    rw [Heap.admitsOpt, Ty.binary_comparison compared typed]
    rfl

/-- An element-wise operation's type, if the table gives one, fits a list. -/
theorem Ty.Tabled.admits_list {op : String} {ot : Option Ty} (tabled : Ty.Tabled op ot)
    (dotted : op ∈ Ty.elementwise) {h : Heap} {v : Value} (listed : h.admits .vector v = true) :
    h.admitsOpt ot v = true := by
  cases ot with
  | none => exact Value.untyped_of_admits listed
  | some t =>
    obtain ⟨ta, tb, typed⟩ := tabled t rfl
    rw [Heap.admitsOpt, Ty.binary_elementwise dotted typed]
    exact listed

/-- Negation leaves its operand as it is, and its type where the table keeps it. -/
theorem Heap.admitsOpt_negate {h : Heap} {t : Option Ty} {v : Value}
    (typed : h.admitsOpt t v = true) : h.admitsOpt (Ty.negate t) v = true := by
  rcases t with _ | ⟨_ | _ | _ | _ | _⟩ <;> cases v <;>
    simp_all [Ty.negate, Ty.binary, Ty.isNumber, Heap.admitsOpt, Heap.admits, Value.untyped]

/-- A comparison gives a truth value. -/
theorem Compare.eval_bool {r : Compare} {m m' : Machine} {v : Value}
    (ran : r.eval.run m = .ok v m') : ∃ b, v = .bool b := by
  obtain ⟨op, a, b, l⟩ := r
  obtain ⟨x, m₁, -, ran⟩ := EStateM.bind_ok ran
  obtain ⟨y, m₂, -, ran⟩ := EStateM.bind_ok ran
  obtain ⟨_, m₃, -, ran⟩ := EStateM.bind_ok ran
  obtain ⟨b, m₄, -, ran⟩ := EStateM.bind_ok ran
  cases ran
  exact ⟨b, rfl⟩

section Rows

variable {T : Nat → Nat} {m m' : Machine} {v : Value}

/-- A row literal of the length `T` gives, met on a machine whose rows fit `T`, is a list of its
numbers. -/
theorem NumRow.eval_listOf {r : NumRow} (rowsFit : m.RowsFit T) (fits : r.nums.length = T r.origin)
    (ran : r.eval.run m = .ok v m') : m'.heap.listOf r.nums.length Value.isNumber v = true := by
  rcases NumRow.eval_ok ran with ⟨cached, rfl⟩ | ⟨-, h', made, rfl⟩
  · rw [fits]
    exact rowsFit _ _ cached
  · obtain ⟨rfl, rfl⟩ := Heap.alloc_eq made
    exact r.listOf_alloc m.heap

/-- The rows of a matrix literal whose rows all have one width are lists of that many numbers. -/
theorem NumRow.mapM_listOf {width : Nat} : (rs : List NumRow) → ∀ {m m' : Machine} {vs : List Value},
    m.RowsFit T → (∀ r ∈ rs, r.nums.length = T r.origin) → (∀ r ∈ rs, r.nums.length = width) →
    (rs.mapM NumRow.eval).run m = .ok vs m' →
    vs.length = rs.length ∧ ∀ v ∈ vs, m'.heap.listOf width Value.isNumber v = true
  | [], _, _, _, _, _, _, ran => by cases ran; simp
  | r :: rs, m, m', vs, rowsFit, fits, same, ran => by
    rw [List.mapM_cons] at ran
    obtain ⟨v, m₁, first, ran⟩ := EStateM.bind_ok ran
    obtain ⟨vs', m₂, rest, ran⟩ := EStateM.bind_ok ran
    cases ran
    have fit : r.nums.length = T r.origin := fits r (.head _)
    have evolved := (r.eval_grows (N := []) fit).ended first
    have grown := ((Run.Grows.mapM' (N := []) rs fun r member =>
      r.eval_grows (fits r (.tail _ member))).ended rest).heap
    obtain ⟨counted, listed⟩ := NumRow.mapM_listOf rs (evolved.rows rowsFit)
      (fun r member => fits r (.tail _ member)) (fun r member => same r (.tail _ member)) rest
    have head := grown.listOf (fun _ => id) (NumRow.eval_listOf rowsFit fit first)
    rw [same r (.head _)] at head
    refine ⟨by simp [counted], fun w member => ?_⟩
    rcases List.mem_cons.mp member with rfl | member
    · exact head
    · exact listed w member

end Rows

/-! ### The checker's types are the interpreter's -/

section Simulation

variable {N : List String} {T : Nat → Nat} {c c' : Checker} {m m' : Machine} {ot : Option Ty}
  {v : Value}

/-- A leaf the checker types with no report has a value of its type. -/
theorem Atom.eval_admits (agree : Agreement N T c m) :
    (a : Atom) → a.check.run c = .ok ot c' → c'.errors.size ≤ c.errors.size →
      a.eval.run m = .ok v m' → m'.heap.admitsOpt ot v = true
  | .int .., checked, _, ran | .float .., checked, _, ran | .str .., checked, _, ran => by
    cases checked
    cases ran
    rfl
  | .var n l, checked, clean, ran => by
    obtain ⟨sym, found, rfl, -⟩ := Check.typeOf_clean checked clean
    cases ran
    exact Heap.admits_of_fits (agree.lookup_fits found)

/-- The checker gives an exactly typed expression the type of the value the interpreter computes
for it, from a checker and a machine in agreement, when it reports nothing: by induction on the
expression, each operand being checked and run from states still in agreement. -/
theorem Expr.eval_admits : (e : Expr) → e.exactlyTyped = true → e.spares N T = true →
    ∀ {c c' m m' ot v}, Agreement N T c m → e.check.run c = .ok ot c' →
      c'.errors.size ≤ c.errors.size → e.eval.run m = .ok v m' → m'.heap.admitsOpt ot v = true
  | .atom a, _, _ => fun agree checked clean ran => a.eval_admits agree checked clean ran
  | .relation (.mk op a b l), exact, _ => fun _ checked _ ran => by
    simp only [Expr.exactlyTyped, Compare.exactlyTyped, Bool.and_eq_true, List.contains_iff_mem]
      at exact
    have tabled := (Check.Gives.bind' (.any _) fun _ _ =>
      .bind' (.any _) fun _ _ => Check.operation_gives op l _ _).gives checked
    obtain ⟨r, rfl⟩ := Compare.eval_bool ran
    exact tabled.admits_bool exact.1.1
  | .matrixFun name n l, _, _ => fun _ checked _ ran => by
    cases checked
    simp only [Expr.eval, matrixFunction] at ran
    obtain ⟨h', made, rfl⟩ := Run.onHeap_ok ran
    exact Heap.admits_vector_of_listOf (Heap.square_shape made).2
  | .negate e l, exact, spared => fun agree checked clean ran => by
    obtain ⟨t, c₁, typed, ended⟩ := EStateM.bind_ok checked
    cases ended
    exact Heap.admitsOpt_negate (e.eval_admits exact spared agree typed clean ran)
  | .literal (.rows rs _) _, _, _ => fun _ checked _ ran => by
    cases checked
    exact Value.untyped_of_admits ((Run.Fresh.bind' fun _ => .alloc' _).listed ran)
  | .literal (.row r) _, _, spared => fun agree checked _ ran => by
    cases checked
    have fits : r.nums.length = T r.origin := by simpa [Expr.spares] using spared
    exact Value.untyped_of_admits
      (Heap.admits_vector_of_listOf (NumRow.eval_listOf agree.rows fits ran))
  | .transpose e _, exact, spared | .paren e _, exact, spared =>
    fun agree checked clean ran => e.eval_admits exact spared agree checked clean ran
  | .arith op a b l, exact, spared => fun agree checked clean ran => by
    simp only [Expr.exactlyTyped, Bool.and_eq_true, List.contains_iff_mem] at exact
    simp only [Expr.spares, Bool.and_eq_true] at spared
    obtain ⟨⟨parsed, exactA⟩, exactB⟩ := exact
    -- the checker: both operands and the operation report nothing
    obtain ⟨ta, c₁, ⟨left, clean₁⟩, rest, cleanRest⟩ := Check.bind_clean a.check_steady
      (fun _ => .bind' b.check_steady fun _ => Check.operation_steady op l _ _) checked clean
    obtain ⟨tb, c₂, ⟨right, clean₂⟩, typed, clean₃⟩ := Check.bind_clean b.check_steady
      (fun _ => Check.operation_steady op l _ _) rest cleanRest
    obtain ⟨t, rfl, table⟩ := Check.operation_clean typed clean₃
    -- the interpreter: the second operand runs from states still in agreement
    obtain ⟨x, m₁, ranA, ran⟩ := EStateM.bind_ok ran
    obtain ⟨y, m₂, ranB, ran⟩ := EStateM.bind_ok ran
    have agree₁ := agree.after (a.readOnly_of_exactlyTyped exactA) spared.1 left ranA
    have typedA : m₁.heap.admitsOpt ta x = true :=
      a.eval_admits exactA spared.1 agree left clean₁ ranA
    have typedB : m₂.heap.admitsOpt tb y = true :=
      b.eval_admits exactB spared.2 agree₁ right clean₂ ranB
    have grown : m₁.heap.Extends m₂.heap := ((b.eval_grows spared.2).ended ranB).heap
    exact arithmetic_admits parsed table (grown.admitsOpt typedA) typedB ran
  | .dotted op a b l, exact, _ => fun _ checked _ ran => by
    simp only [Expr.exactlyTyped, Bool.and_eq_true, List.contains_iff_mem] at exact
    have tabled := (Check.Gives.bind' (.any _) fun _ _ =>
      .bind' (.any _) fun _ _ => Expr.dottedType_gives op l a b _ _).gives checked
    exact tabled.admits_list exact.1.1
      ((Run.Fresh.bind' fun _ => .bind' fun _ => elementwise_fresh op _ _).listed ran)
  | .assign _, exact, _ | .element _, exact, _ => by simp [Expr.exactlyTyped] at exact

end Simulation

/-! ### Declarations at the top level -/

/-- A value of the type the checker gives, declared with no size, fits the symbol declared. -/
theorem Symbol.ofShape_default {x : String} {ot : Option Ty} {sym : Symbol} {h : Heap} {v : Value}
    (declared : Symbol.ofShape x (some (ot, (0, 0), 0)) = some sym)
    (typed : h.admitsOpt ot v = true) : h.fits sym v = true := by
  rcases ot with _ | ⟨_ | _ | _ | _ | _⟩ <;> simp only [Symbol.ofShape, Option.some.injEq,
    reduceCtorEq] at declared <;> subst declared <;> simpa [Heap.fits, Heap.admitsOpt] using typed

/-- An expression whose variable the checker finds is a plain variable. -/
theorem Expr.variableName_ok {e : Expr} {c c' : Checker} {n : String}
    (named : e.variableName.run c = .ok n c') : ∃ l, e = .atom (.var n l) ∧ c' = c := by
  unfold Expr.variableName at named
  split at named
  next l => cases named; exact ⟨l, rfl, rfl⟩
  next => cases named
  next => cases named

section Declarations

variable {N : List String} {T : Nat → Nat} {c c₁ c₂ : Checker} {m m' : Machine}
  {ot : Option Ty} {v : Value} {l : Nat} {shape : Option (Option Ty × (Nat × Nat) × Nat)}
  {x : String} {sym : Symbol}

/-- The symbol a declaration of an exactly typed expression puts in the innermost scope fits
the value the interpreter assigns, when the checker reports nothing: a matrix literal or a matrix
function has the size recorded, a copy of a matrix the size of the matrix, and anything else
the type. -/
theorem Expr.shape_fits (agree : Agreement N T c m) :
    (e : Expr) → e.exactlyTyped = true → e.spares N T = true → e.check.run c = .ok ot c₁ →
      c₁.errors.size ≤ c.errors.size → (e.shape ot l).run c₁ = .ok shape c₂ →
      c₂.errors.size ≤ c₁.errors.size → e.eval.run m = .ok v m' →
      Symbol.ofShape x shape = some sym → m'.heap.fits sym v = true
  | .literal (.rows rs _) _, _, spared, checked, _, shaped, clean, ran, declared => by
    cases checked
    simp only [Expr.shape] at shaped
    split at shaped
    · -- rows of different lengths are reported
      exact absurd clean (Nat.not_le.mpr (Check.flag_reports shaped (.pure' _)))
    · -- rows of one width: a new list of the lists of the rows
      next even =>
      cases shaped
      simp only [Symbol.ofShape, Option.some.injEq] at declared
      subst declared
      obtain ⟨vs, m₁, rows, ran⟩ := EStateM.bind_ok ran
      obtain ⟨h', made, rfl⟩ := Run.onHeap_ok ran
      have fits : ∀ r ∈ rs, r.nums.length = T r.origin := by simpa [Expr.spares] using spared
      have same : ∀ r ∈ rs, r.nums.length = ((rs.head?.map (·.nums.length)).getD 0) := by
        simpa using even
      obtain ⟨counted, listed⟩ := NumRow.mapM_listOf rs agree.rows fits same rows
      obtain ⟨rfl, rfl⟩ := Heap.alloc_eq (Except.ok.inj made)
      simp only [Heap.fits, if_true]
      exact Heap.listOf_alloc (by simpa using counted) fun w member =>
        (m₁.heap.extends_alloc _).listOf (fun _ => id) (listed w (by simpa using member))
  | .literal (.row r) _, _, spared, checked, _, shaped, _, ran, declared => by
    cases checked
    cases shaped
    simp only [Symbol.ofShape, Option.some.injEq] at declared
    subst declared
    have fits : r.nums.length = T r.origin := by simpa [Expr.spares] using spared
    simpa [Heap.fits] using NumRow.eval_listOf agree.rows fits ran
  | .matrixFun name n _, _, _, checked, _, shaped, _, ran, declared => by
    cases checked
    cases shaped
    simp only [Symbol.ofShape, Option.some.injEq] at declared
    subst declared
    simp only [Expr.eval, matrixFunction] at ran
    obtain ⟨h', made, rfl⟩ := Run.onHeap_ok ran
    simpa [Heap.fits] using (Heap.square_shape made).2
  | .transpose y _, exact, spared, checked, clean, shaped, _, ran, declared
  | .paren y _, exact, spared, checked, clean, shaped, _, ran, declared => by
    obtain ⟨_, c₃, got, read⟩ := EStateM.bind_ok shaped
    cases got
    obtain ⟨n, c₄, named, copied⟩ := EStateM.bind_ok read
    obtain ⟨ln, rfl, rfl⟩ := Expr.variableName_ok named
    split at copied
    · -- a copy of a matrix the checker knows
      next r k d found =>
      cases copied
      simp only [Symbol.ofShape, Option.some.injEq] at declared
      subst declared
      cases ran
      have agree₁ := agree.rescope ((Check.typeOf_fixed n ln).keeps checked)
      simpa [Heap.fits] using agree₁.lookup_fits found
    · -- a scalar stops the checker
      cases copied
    · -- an unknown name: the value's own type, as for any other expression
      cases copied
      exact Symbol.ofShape_default declared (Expr.eval_admits _ exact spared agree checked clean ran)
  | .atom _, exact, spared, checked, clean, shaped, _, ran, declared
  | .relation _, exact, spared, checked, clean, shaped, _, ran, declared
  | .negate .., exact, spared, checked, clean, shaped, _, ran, declared
  | .arith .., exact, spared, checked, clean, shaped, _, ran, declared
  | .dotted .., exact, spared, checked, clean, shaped, _, ran, declared => by
    cases shaped
    exact Symbol.ofShape_default declared (Expr.eval_admits _ exact spared agree checked clean ran)
  | .assign _, exact, _, _, _, _, _, _, _ | .element _, exact, _, _, _, _, _, _, _ => by
    simp [Expr.exactlyTyped] at exact

end Declarations

/-! ### Programs -/

theorem Program.declared_cons (s : Option Stmt) (ss : List (Option Stmt)) :
    Program.declared (s :: ss) = (s.bind Stmt.declaredName).toList ++ Program.declared ss := by
  cases named : s.bind Stmt.declaredName <;> simp [Program.declared, named]

section Statements

variable {D : List String} {T : Nat → Nat} {done : List String} {c c' : Checker}
  {m m' : Machine}

/-- A top-level statement keeps the checker's global names in step with the global memory: a
declaration adds its name with a symbol that fits the value assigned, and any other statement
leaves the global scope and the global values of the declared names as they were. -/
theorem Stmt.exec_agrees (s : Stmt) (top : s.topLevel D T = true)
    (fresh : ∀ x, s.declaredName = some x → x ∉ done) (sub : done ++ s.declaredName.toList ⊆ D)
    (agree : Agreement done T c m) (checked : s.check.run c = .ok () c')
    (clean : c'.errors.size ≤ c.errors.size) {fuel : Nat} (ran : (Stmt.exec fuel s).run m = .ok () m') :
    Agreement (done ++ s.declaredName.toList) T c' m' := by
  rcases Stmt.topLevel_cases top with
    ⟨x, lx, e, l, rfl, exact, spared⟩ | ⟨undeclared, inside, spared, reads⟩
  · -- a declaration: the checker records the shape of the value the interpreter assigns
    have wide : done ⊆ D := fun y member => sub (List.mem_append_left _ member)
    cases fuel with
    | zero => cases ran
    | succ fuel =>
    obtain ⟨ot, c₁, typed, rest⟩ := EStateM.bind_ok checked
    obtain ⟨shape, c₂, shaped, declared⟩ := EStateM.bind_ok rest
    have grew₁ := e.check_steady.size_le typed
    have grew₂ := (e.shape_steady ot l).size_le shaped
    have grew₃ := (declareShape_steady x shape).size_le declared
    rw [declareShape_run] at declared
    cases declared
    obtain ⟨v, m₁, evaluated, assigned⟩ := EStateM.bind_ok ran
    have fits : ∀ sym, Symbol.ofShape x shape = some sym → m₁.heap.fits sym v = true :=
      fun sym declared => Expr.shape_fits (agree.widen wide) e exact spared typed (by omega) shaped
        (by omega) evaluated declared
    have evolved₁ : Machine.Evolves done T m m₁ := ((e.eval_grows spared).ended evaluated).mono wide
    have evolved₂ : Machine.Evolves done T m₁ m' := (declare_grows (fresh x rfl) v).ended assigned
    obtain ⟨f, frames, -⟩ := Machine.single_frame (evolved₁.layout.trans agree.frame)
    have same : c₂.scopes = c.scopes := ((e.shape_fixed ot l).keeps shaped).trans
      ((e.check_fixed (e.readOnly_of_exactlyTyped exact)).keeps typed)
    have agree₂ : Agreement done T c₂ m' := (agree.rescope same).evolve (evolved₁.trans evolved₂)
    exact agree₂.declare (declare_global frames assigned)
      fun sym declared => evolved₂.heap.fits (fits sym declared)
  · -- any other statement leaves the global scope and the declared names alone
    rw [undeclared] at sub ⊢
    have wide : done ⊆ D := by simpa using sub
    have evolved := ((Stmt.exec_grows fuel s inside spared).ended ran).mono wide
    simpa using (agree.rescope ((s.check_fixed reads).keeps checked)).evolve evolved

/-- Statement after statement, the checker's global names stay in step with the global memory,
each declaration adding its name. -/
theorem Stmt.execAll_agrees : (ss : List (Option Stmt)) → ∀ {fuel : Nat} {done : List String}
    {c c' : Checker} {m m' : Machine}, (ss.all fun s => s.all (Stmt.topLevel D T)) = true →
    (done ++ Program.declared ss).Nodup → done ++ Program.declared ss ⊆ D →
    Agreement done T c m → (Stmt.checkAll ss).run c = .ok () c' →
    c'.errors.size ≤ c.errors.size → (Stmt.execAll fuel ss).run m = .ok () m' →
    Agreement (done ++ Program.declared ss) T c' m'
  | [], fuel, _, _, _, _, _, _, _, _, agree, checked, _, ran => by
    cases checked
    cases fuel with
    | zero => cases ran
    | succ fuel =>
      cases ran
      simpa [Program.declared] using agree
  | none :: _, _, _, _, _, _, _, _, _, _, _, checked, _, _ => by
    obtain ⟨_, _, stopped, _⟩ := EStateM.bind_ok checked
    cases stopped
  | some s :: ss, fuel, done, _, _, _, _, top, distinct, sub, agree, checked, clean, ran => by
    simp only [List.all_cons, Option.all_some, Bool.and_eq_true] at top
    rw [Program.declared_cons, Option.bind_some] at distinct sub ⊢
    rw [← List.append_assoc] at distinct sub ⊢
    obtain ⟨_, c₁, started, rest⟩ := EStateM.bind_ok checked
    have grew₁ := s.check_steady.size_le started
    have grew₂ := (Stmt.checkAll_steady ss).size_le rest
    cases fuel with
    | zero => cases ran
    | succ fuel =>
    obtain ⟨_, m₁, first, later⟩ := EStateM.bind_ok ran
    cases fuel with
    | zero => cases first
    | succ fuel =>
    have fresh : ∀ x, s.declaredName = some x → x ∉ done := by
      intro x named member
      rw [named] at distinct
      have front := (List.nodup_append.mp distinct).1
      exact (List.nodup_append.mp front).2.2 x member x (by simp) rfl
    have step := Stmt.exec_agrees s top.1 fresh
      (fun y member => sub (List.mem_append_left _ member)) agree started (by omega) first
    exact Stmt.execAll_agrees ss top.2 distinct sub step rest (by omega) later

end Statements

/-! ### Checked programs -/

/-- Nothing is known and nothing is stored before a program starts. -/
theorem Agreement.start (T : Nat → Nat) (product : Bool) :
    Agreement [] T ({} : Checker) { product } where
  frame := rfl
  rows _ _ found := by cases found
  fits _ _ found := by cases found

/-- For a program whose global names the checker follows (`Program.tracked`), that the checker
accepts with no error and that the interpreter runs to its end, the global memory is the only
frame left, and every name of the checker's global scope has there a value of its symbol's type:
an integer for `int`, a double for `float`, a text for `string`, a truth value for `logic` and
a list for `vector`; a matrix of two dimensions and size `r × c` is a list of `r` lists of `c`
numbers, and one of one dimension and size `n × 1` a list of `n` numbers. -/
theorem Program.checked_globals_fit (p : Program) (T : Nat → Nat) (tracked : p.tracked T = true)
    (product : Bool) (c : Checker) (checked : p.check = .ok c) (clean : c.errors = #[])
    (m : Machine) (ran : p.run product = .ok m) :
    ∃ f, m.frames = [f] ∧ f.name = "global_memory" ∧
      ∀ x sym, c.globals.lookup x = some sym →
        ∃ v, f.vars.lookup x = some v ∧ m.heap.fits sym v = true := by
  simp only [Program.tracked, Bool.and_eq_true, decide_eq_true_eq] at tracked
  have accepted := Program.check_ok checked
  have agree : Agreement p.declared T c m :=
    Stmt.execAll_agrees (D := p.declared) p tracked.2 (by simpa using tracked.1) (by simp)
      (Agreement.start T product) accepted (by simp [clean]) (Program.run_ok ran)
  -- the checker ends with its root scope alone, the interpreter with its global memory alone
  have names : c.names = ["root"] := (Stmt.checkAll_steady p).keeps accepted
  obtain ⟨root, scopes, -⟩ : ∃ s, c.scopes = [s] ∧ s.name = "root" := by
    simpa [Checker.names, List.map_eq_singleton_iff] using names
  obtain ⟨f, frames, named⟩ := Machine.single_frame agree.frame
  refine ⟨f, frames, named, fun x sym found => ?_⟩
  have known : c.lookup x = some sym := by
    simpa [Checker.globals, Checker.lookup, scopes] using found
  obtain ⟨-, v, stored, fit⟩ := agree.fits x sym known
  exact ⟨v, by rwa [Machine.global_single frames] at stored, fit⟩

/-- `A = [[1, 2], [3, 4]]; { B = A'; } x = 2 + 3;` declares its global names once, at the top
level, and its block writes none of them: the checker accepts it with no error, and the global
memory holds `A` as two rows of two numbers and `x` as an integer. -/
theorem Program.matrix_and_block_globals_fit :
    let p : Program := [some (.assign (.declare (.var "A" 1)
        (.literal (.rows [⟨[1, 2], 1, 6⟩, ⟨[3, 4], 1, 14⟩] 1) 1) 1)),
      some (.block [some (.assign (.declare (.var "B" 1) (.transpose (.atom (.var "A" 1)) 1) 1))] 1),
      some (.assign (.declare (.var "x" 1) (.arith "+" (.atom (.int 2 1)) (.atom (.int 3 1)) 1) 1))]
    ∃ c m, p.tracked (fun _ => 2) = true ∧ p.check = .ok c ∧ c.errors = #[] ∧ p.run = .ok m ∧
      ∃ f, m.frames = [f] ∧ f.name = "global_memory" ∧
        ∀ x sym, c.globals.lookup x = some sym →
          ∃ v, f.vars.lookup x = some v ∧ m.heap.fits sym v = true := by
  intro p
  have tracked : p.tracked (fun _ => 2) = true := by decide
  exact ⟨_, _, tracked, rfl, rfl, rfl,
    Program.checked_globals_fit p (fun _ => 2) tracked false _ rfl rfl _ rfl⟩

/-- `x = 1; { x = [1, 2]; }` passes the checker with no error and runs to its end, but the
checker's global `x` is an integer while the global memory holds a list: the checker declares the
inner `x` in the block's scope, and the interpreter assigns the outer one. -/
theorem Program.block_declaration_escapes :
    ∃ c m, Program.check [some (.assign (.declare (.var "x" 1) (.atom (.int 1 1)) 1)),
        some (.block [some (.assign (.declare (.var "x" 1) (.literal (.row ⟨[1, 2], 1, 14⟩) 1)
          1))] 1)] = .ok c ∧ c.errors = #[] ∧
      Program.run [some (.assign (.declare (.var "x" 1) (.atom (.int 1 1)) 1)),
        some (.block [some (.assign (.declare (.var "x" 1) (.literal (.row ⟨[1, 2], 1, 14⟩) 1)
          1))] 1)] = .ok m ∧
      ¬ ∃ f, m.frames = [f] ∧ f.name = "global_memory" ∧
        ∀ x sym, c.globals.lookup x = some sym →
          ∃ v, f.vars.lookup x = some v ∧ m.heap.fits sym v = true := by
  refine ⟨_, _, rfl, rfl, rfl, ?_⟩
  rintro ⟨f, frames, -, fit⟩
  obtain ⟨v, found, fits⟩ := fit "x" _ rfl
  cases frames
  cases found
  exact absurd fits (by decide)

end MatrixLang.Script
