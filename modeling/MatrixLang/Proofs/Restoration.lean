import MatrixLang.Proofs.AnnotatedTotality
import MatrixLang.Proofs.AnnotatedReports

/-!
# Checking restores the scopes

Both checkers keep a chain of scopes. A block, a branch or a loop opens a scope, checks what it
holds inside it and closes it again; an assignment to a name declares the name in the innermost
scope. So once the checker has checked a node of the syntax, whatever the node holds, the chain
is the one it had before: the same scopes are open, every scope around the innermost one is
exactly as it was, and the innermost one differs only by the declarations the node made there
itself. Every other name stands for the symbol it stood for before.

The declarations a node makes there are among the names it assigns outside the blocks, branches
and loops it holds (`Script.Stmt.declared`, `Script.Expr.declared`): a loop declares its counter,
and whatever its range and body declare, in a scope of its own.

## Main results

* `Scope.Restored`: how a chain of scopes stands to another once some symbols are declared in its
  innermost scope, for the scopes of either checker.
* `Script.Stmt.check_restores`, `Script.Stmt.checkAll_restores`, `Script.Expr.check_restores`,
  and `Annotated.Stmt.check_restores`, `Annotated.Stmt.checkAll_restores`,
  `Annotated.Expr.check_restores` for the checker of version 4.
* `checking_restores_scopes`: for both checkers, checking a statement, a list of statements or an
  expression that ends normally leaves the scopes it started on with only some of the node's own
  names declared in the innermost one; every other name is looked up as before.

## Proof strategy

`Scope.Restores scopesOf D x`: every normal end of `x` leaves the chain it started on with some
declarations of names of `D` in the innermost scope (`Scope.declareAll`). The property is stated
once, for any state that keeps a chain, and is closed under the operations of the monad; each
checker adds the steps of its own: a declaration, a step that leaves the scopes alone (for
version 5 those of `Check.Fixed`) and a scope opened around a step, which closes on the scopes
found.
-/
namespace MatrixLang

/-! ### Chains of scopes -/

namespace Scope

variable {σ : Type}

/-- The symbol a name stands for in the innermost scope of a chain that has it. -/
def find (scopes : List (Scope σ)) (name : String) : Option σ :=
  scopes.findSome? fun s => s.symbols.lookup name

/-- Declares a symbol in the innermost scope of a chain, replacing one of the same name there. -/
def declare : List (Scope σ) → String → σ → List (Scope σ)
  | s :: rest, name, sym =>
    { s with symbols := (name, sym) :: s.symbols.filter (·.1 ≠ name) } :: rest
  | [], _, _ => []

/-- Declares symbols one after the other in the innermost scope of a chain. -/
def declareAll (scopes : List (Scope σ)) (ds : List (String × σ)) : List (Scope σ) :=
  ds.foldl (fun scopes d => declare scopes d.1 d.2) scopes

theorem declareAll_append (scopes : List (Scope σ)) (ds ds' : List (String × σ)) :
    declareAll scopes (ds ++ ds') = declareAll (declareAll scopes ds) ds' := by
  simp [declareAll, List.foldl_append]

/-- A declaration keeps the names of the scopes. -/
@[simp] theorem names_declare (scopes : List (Scope σ)) (name : String) (sym : σ) :
    (declare scopes name sym).map Scope.name = scopes.map Scope.name := by
  cases scopes <;> rfl

/-- A declaration changes the innermost scope only. -/
@[simp] theorem tail_declare (scopes : List (Scope σ)) (name : String) (sym : σ) :
    (declare scopes name sym).tail = scopes.tail := by
  cases scopes <;> rfl

/-- A declaration leaves the symbols of the other names as they were. -/
theorem find_declare_of_ne (scopes : List (Scope σ)) {x y : String} (sym : σ) (other : y ≠ x) :
    find (declare scopes x sym) y = find scopes y := by
  cases scopes with
  | nil => rfl
  | cons s rest =>
    have missed : (y == x) = false := by simpa using other
    simp [find, declare, List.findSome?_cons, List.lookup_cons, missed,
      Script.Checker.lookup_filter_ne _ other]

@[simp] theorem names_declareAll (scopes : List (Scope σ)) (ds : List (String × σ)) :
    (declareAll scopes ds).map Scope.name = scopes.map Scope.name := by
  induction ds generalizing scopes with
  | nil => rfl
  | cons d ds ih => exact (ih _).trans (names_declare scopes d.1 d.2)

@[simp] theorem tail_declareAll (scopes : List (Scope σ)) (ds : List (String × σ)) :
    (declareAll scopes ds).tail = scopes.tail := by
  induction ds generalizing scopes with
  | nil => rfl
  | cons d ds ih => exact (ih _).trans (tail_declare scopes d.1 d.2)

/-- A name declared by none of the declarations is found as before. -/
theorem find_declareAll_of_not_mem (scopes : List (Scope σ)) {ds : List (String × σ)} {name : String}
    (fresh : name ∉ ds.map Prod.fst) : find (declareAll scopes ds) name = find scopes name := by
  induction ds generalizing scopes with
  | nil => rfl
  | cons d ds ih =>
    simp only [List.map_cons, List.mem_cons, not_or] at fresh
    exact (ih _ fresh.2).trans (find_declare_of_ne scopes d.2 fresh.1)

/-- How a chain `after` stands to the chain `before` once `ds` are declared in its innermost scope:
the same scopes are open, those around the innermost one exactly as they were, and every name
that `ds` does not declare stands for what it stood for. -/
structure Restored (before after : List (Scope σ)) (ds : List (String × σ)) : Prop where
  declared : after = declareAll before ds
  names : after.map Scope.name = before.map Scope.name
  outer : after.tail = before.tail
  lookup : ∀ name, name ∉ ds.map Prod.fst → find after name = find before name

theorem Restored.of_declared {before after : List (Scope σ)} {ds : List (String × σ)}
    (declared : after = declareAll before ds) : Restored before after ds where
  declared := declared
  names := by rw [declared, names_declareAll]
  outer := by rw [declared, tail_declareAll]
  lookup _ fresh := by rw [declared, find_declareAll_of_not_mem before fresh]

/-! ### Steps that restore the scopes -/

/-- A step of a checker whose states keep a chain of scopes (`scopesOf`) that, whenever it ends
normally, leaves the chain it started on with some declarations of names of `D` in the innermost
scope. -/
structure Restores {ε S α : Type} (scopesOf : S → List (Scope σ)) (D : List String)
    (x : EStateM ε S α) : Prop where
  restores : ∀ {c a c'}, x.run c = .ok a c' →
    ∃ ds : List (String × σ), (∀ d ∈ ds, d.1 ∈ D) ∧ scopesOf c' = declareAll (scopesOf c) ds

section Restores

variable {ε S α β γ : Type} {scopesOf : S → List (Scope σ)} {D D' : List String}

theorem Restores.pure' (a : α) : Restores scopesOf D (pure a : EStateM ε S α) where
  restores ended := by cases ended; exact ⟨[], by simp, rfl⟩

theorem Restores.get' : Restores scopesOf D (get : EStateM ε S S) where
  restores ended := by cases ended; exact ⟨[], by simp, rfl⟩

theorem Restores.throw' (e : ε) : Restores scopesOf D (throw e : EStateM ε S α) where
  restores ended := by cases ended

/-- A change of the state that leaves the scopes alone. -/
theorem Restores.modify' {g : S → S} (keeps : ∀ c, scopesOf (g c) = scopesOf c) :
    Restores scopesOf D (modify g : EStateM ε S Unit) where
  restores ended := by cases ended; exact ⟨[], by simp, keeps _⟩

theorem Restores.mono {x : EStateM ε S α} (restores : Restores scopesOf D x) (sub : D ⊆ D') :
    Restores scopesOf D' x where
  restores ended := by
    obtain ⟨ds, named, declared⟩ := restores.restores ended
    exact ⟨ds, fun d member => sub (named d member), declared⟩

theorem Restores.bind' {x : EStateM ε S α} {f : α → EStateM ε S β} (first : Restores scopesOf D x)
    (rest : ∀ a, Restores scopesOf D (f a)) : Restores scopesOf D (x >>= f) where
  restores {c b c'} ended := by
    obtain ⟨a, c₁, started, ended⟩ := Script.EStateM.bind_ok ended
    obtain ⟨ds, named, declared⟩ := first.restores started
    obtain ⟨ds', named', declared'⟩ := (rest a).restores ended
    refine ⟨ds ++ ds', fun d member => ?_, ?_⟩
    · rcases List.mem_append.mp member with early | late
      · exact named d early
      · exact named' d late
    · rw [declared', declared, declareAll_append]

/-- A step followed by steps that declare other names declares the names of both. -/
theorem Restores.append' {x : EStateM ε S α} {f : α → EStateM ε S β} (first : Restores scopesOf D x)
    (rest : ∀ a, Restores scopesOf D' (f a)) : Restores scopesOf (D ++ D') (x >>= f) :=
  .bind' (first.mono (List.subset_append_left _ _)) fun a =>
    (rest a).mono (List.subset_append_right _ _)

theorem Restores.ite' {c : Prop} [Decidable c] {x y : EStateM ε S α} (yes : Restores scopesOf D x)
    (no : Restores scopesOf D y) : Restores scopesOf D (if c then x else y) := by
  split
  · exact yes
  · exact no

theorem Restores.forIn' (xs : List γ) (init : β) {g : γ → β → EStateM ε S (ForInStep β)}
    (pass : ∀ c b, Restores scopesOf D (g c b)) : Restores scopesOf D (forIn xs init g) := by
  induction xs generalizing init with
  | nil => exact .pure' init
  | cons c cs ih =>
    rw [List.forIn_cons]
    refine .bind' (pass c init) fun step => ?_
    cases step with
    | done b => exact .pure' b
    | yield b => exact ih b

/-- A step that restores the scopes ends on a chain restored from the one it started from. -/
theorem Restores.restored {x : EStateM ε S α} (restores : Restores scopesOf D x) {c c' : S} {a : α}
    (ended : x.run c = .ok a c') :
    ∃ ds, (∀ d ∈ ds, d.1 ∈ D) ∧ Restored (scopesOf c) (scopesOf c') ds := by
  obtain ⟨ds, named, declared⟩ := restores.restores ended
  exact ⟨ds, named, .of_declared declared⟩

end Restores

end Scope

namespace Script

/-! ### The steps of version 5 -/

/-- The version 5 checker looks names up in its chain of scopes. -/
theorem Checker.lookup_eq_find (c : Checker) (name : String) : c.lookup name = Scope.find c.scopes name :=
  rfl

/-- The version 5 checker declares a name in the innermost scope of its chain. -/
theorem Checker.scopes_put (c : Checker) (name : String) (sym : Symbol) :
    (c.put name sym).scopes = Scope.declare c.scopes name sym := by
  cases scopes : c.scopes with
  | nil => simp [Checker.put, scopes, Scope.declare]
  | cons s rest => simp [Checker.put, scopes, Scope.declare]

/-- A step of the version 5 checker that restores its scopes up to declarations of names of `D`. -/
abbrev Check.Restores {α : Type} (D : List String) (x : Check α) : Prop :=
  Scope.Restores Checker.scopes D x

section Restores

variable {α : Type} {D : List String}

/-- A step that leaves the scopes alone declares nothing. -/
theorem Check.Restores.of_fixed {x : Check α} (fixed : x.Fixed) : x.Restores D where
  restores ended := ⟨[], by simp, fixed.keeps ended⟩

/-- Declaring a name of `D` in the innermost scope. -/
theorem Check.Restores.put' {name : String} (sym : Symbol) (named : name ∈ D) :
    (modify (·.put name sym) : Check Unit).Restores D where
  restores ended := by
    cases ended
    exact ⟨[(name, sym)], by simpa using named, Checker.scopes_put _ _ _⟩

end Restores

/-! ### The names a node declares in the scope it is checked in -/

mutual
/-- The names an expression declares in the scope it is checked in: those of the assignments it
holds, in the order they are checked. -/
def Expr.declared : Expr → List String
  | .atom _ | .matrixFun .. | .element _ | .literal .. => []
  | .assign a => a.declared
  | .relation c => c.declared
  | .negate e _ | .transpose e _ | .paren e _ => e.declared
  | .arith _ a b _ | .dotted _ a b _ => a.declared ++ b.declared

/-- The names an assignment declares: those its value declares, then the name it assigns with
`=`, if it assigns a name. -/
def Assign.declared : Assign → List String
  | .declare (.var name _) v _ => v.declared ++ [name]
  | .declare _ v _ | .update _ _ v _ => v.declared

/-- The names a comparison declares. -/
def Compare.declared : Compare → List String
  | .mk _ a b _ => a.declared ++ b.declared
end

/-- The names an item of a `print` declares. -/
def PrintItem.declared : PrintItem → List String
  | .value e => e.declared
  | .arith _ a b _ => a.declared ++ b.declared

/-- The names the items of a `print` declare. -/
def Printed.declared : Printed → List String
  | .single i => i.declared
  | .more rest i _ => rest.declared ++ i.declared

/-- The names a statement declares in the scope it is checked in: those of its condition, its
assignment, its items or the value it returns. Blocks, branches and loops declare the rest in
scopes of their own, a loop its counter and its range too. -/
def Stmt.declared : Stmt → List String
  | .ifElse c .. | .ifThen c .. | .whileLoop c .. => c.declared
  | .assign a => a.declared
  | .print items _ => items.declared
  | .ret e _ => e.declared
  | .control .. | .block .. | .forLoop .. => []

/-- The names a possibly empty statement declares. -/
def Stmt.declaredOpt : Option Stmt → List String
  | some s => s.declared
  | none => []

/-- The names statements declare in the scope they are checked in, one after the other. -/
def Stmt.declaredAll : List (Option Stmt) → List String
  | [] => []
  | s :: ss => Stmt.declaredOpt s ++ Stmt.declaredAll ss

/-! ### Checking restores the scopes -/

theorem declareShape_restores (name : String) (shape : Option (Option Ty × (Nat × Nat) × Nat)) :
    (declareShape name shape).Restores [name] := by
  unfold declareShape
  split
  · exact Check.Restores.put' _ (List.mem_singleton_self name)
  · exact Check.Restores.put' _ (List.mem_singleton_self name)
  · exact .pure' _

mutual
/-- Checking an expression declares only the names of its assignments, in the scope it is
checked in. -/
theorem Expr.check_restores : (e : Expr) → e.check.Restores e.declared
  | .atom a => Check.Restores.of_fixed a.check_fixed
  | .assign a => .bind' a.check_restores fun _ => .pure' _
  | .relation c => c.check_restores
  | .matrixFun .. | .literal .. => .pure' _
  | .element r => Check.Restores.of_fixed r.check_fixed
  | .negate e _ => .bind' e.check_restores fun _ => .pure' _
  | .transpose e _ | .paren e _ => e.check_restores
  | .arith op a b l =>
    .append' a.check_restores fun _ => .bind' b.check_restores fun _ =>
      Check.Restores.of_fixed (Check.operation_fixed op l _ _)
  | .dotted op a b l =>
    .append' a.check_restores fun _ => .bind' b.check_restores fun _ =>
      Check.Restores.of_fixed (Expr.dottedType_fixed op l a b _ _)

/-- Checking an assignment declares the name it assigns, after what its value declares. -/
theorem Assign.check_restores : (a : Assign) → a.check.Restores a.declared
  | .declare (.var name _) v l =>
    .append' v.check_restores fun ty =>
      .bind' (Check.Restores.of_fixed (v.shape_fixed ty l)) fun shape =>
        declareShape_restores name shape
  | .declare (.element r) v _ =>
    .bind' v.check_restores fun _ => .bind' (Check.Restores.of_fixed r.check_fixed) fun _ => .pure' _
  | .declare (.slice s) v _ =>
    .bind' v.check_restores fun _ => .bind' (Check.Restores.of_fixed s.check_fixed) fun _ => .pure' _
  | .update op t v l =>
    .bind' (Check.Restores.of_fixed t.check_fixed) fun _ => .bind' v.check_restores fun _ =>
      .bind' (Check.Restores.of_fixed (Check.operation_fixed op l _ _)) fun _ => .pure' _

theorem Compare.check_restores : (c : Compare) → c.check.Restores c.declared
  | .mk op a b l =>
    .append' a.check_restores fun _ => .bind' b.check_restores fun _ =>
      Check.Restores.of_fixed (Check.operation_fixed op l _ _)
end

theorem PrintItem.check_restores : (p : PrintItem) → p.check.Restores p.declared
  | .value e => .bind' e.check_restores fun _ => .pure' _
  | .arith op a b l =>
    .append' a.check_restores fun _ => .bind' b.check_restores fun _ =>
      .bind' (Check.Restores.of_fixed (Check.operation_fixed op l _ _)) fun _ => .pure' _

theorem Printed.check_restores : (p : Printed) → p.check.Restores p.declared
  | .single i => i.check_restores
  | .more rest i _ => .append' rest.check_restores fun _ => i.check_restores

/-- Checking a statement declares only the names of its own declared parts in the scope it is
checked in: a block, a branch or a loop closes its scope on the scopes it found
(`Check.Fixed.inScope'`). -/
theorem Stmt.check_restores : (s : Stmt) → s.check.Restores s.declared
  | .control .. | .block .. | .forLoop .. => Check.Restores.of_fixed (Stmt.check_fixed _ rfl)
  | .ifElse c y n _ =>
    .bind' c.check_restores fun _ => Check.Restores.of_fixed
      (.bind' (.inScope' (Stmt.checkOpt_steady y)) fun _ => .inScope' (Stmt.checkOpt_steady n))
  | .ifThen c y _ =>
    .bind' c.check_restores fun _ => Check.Restores.of_fixed (.inScope' (Stmt.checkOpt_steady y))
  | .whileLoop c b _ =>
    .bind' c.check_restores fun _ => Check.Restores.of_fixed (.inScope' (Stmt.checkOpt_steady b))
  | .assign a => a.check_restores
  | .print items _ => items.check_restores
  | .ret e l =>
    .bind' (Check.Restores.of_fixed (Check.requireScope_fixed _ l _)) fun _ =>
      .bind' e.check_restores fun _ => .pure' _

theorem Stmt.checkOpt_restores (s : Option Stmt) : (Stmt.checkOpt s).Restores (Stmt.declaredOpt s) := by
  cases s with
  | some s => exact s.check_restores
  | none => exact Check.Restores.of_fixed (.throw' _)

theorem Stmt.checkAll_restores (ss : List (Option Stmt)) :
    (Stmt.checkAll ss).Restores (Stmt.declaredAll ss) := by
  induction ss with
  | nil => exact .pure' _
  | cons s ss rest =>
    exact .append' (Stmt.checkOpt_restores s) fun _ => rest


end Script

namespace Annotated

open Script (Ty Error)

/-! ### The steps of version 4 -/

/-- The version 4 checker looks names up in its chain of scopes. -/
theorem Checker.lookup_eq_find (c : Checker) (name : String) : c.lookup name = Scope.find c.scopes name :=
  rfl

/-- The version 4 checker declares a name in the innermost scope of its chain. -/
theorem Checker.scopes_put (c : Checker) (name : String) (sym : Symbol) :
    (c.put name sym).scopes = Scope.declare c.scopes name sym := by
  cases scopes : c.scopes with
  | nil => simp [Checker.put, scopes, Scope.declare]
  | cons s rest => simp [Checker.put, scopes, Scope.declare]

/-- A step of the version 4 checker that restores its scopes up to declarations of names of `D`. -/
abbrev Check.Restores {α : Type} (D : List String) (x : Check α) : Prop :=
  Scope.Restores Checker.scopes D x

section Restores

variable {α : Type} {D : List String}

/-- Declaring a name of `D` in the innermost scope. -/
theorem Check.Restores.put' {name : String} (sym : Symbol) (named : name ∈ D) :
    (modify (·.put name sym) : Check Unit).Restores D where
  restores ended := by
    cases ended
    exact ⟨[(name, sym)], by simpa using named, Checker.scopes_put _ _ _⟩

/-- A scope opened around a step is closed on the scopes found: whatever the step declared went
into the scope it ran in. -/
theorem Check.Restores.inScope' {name : String} {body : Check α} {E : List String}
    (inner : body.Restores E) : (Check.inScope name body).Restores D where
  restores {c a c'} ended := by
    obtain ⟨c₁, ran, rfl⟩ := Check.inScope_ok ended
    obtain ⟨ds, -, declared⟩ := inner.restores ran
    refine ⟨[], by simp, ?_⟩
    show c₁.scopes.drop 1 = c.scopes
    rw [declared, List.drop_one, Scope.tail_declareAll]
    rfl

end Restores

theorem Check.flag_restores {D : List String} (line : Nat) (text : String) :
    (Check.flag line text).Restores D :=
  .modify' fun _ => rfl

theorem Check.typeOf_restores {D : List String} (name : String) (line : Nat) :
    (Check.typeOf name line).Restores D := by
  unfold Check.typeOf
  refine .bind' .get' fun _ => ?_
  split
  · exact .pure' _
  · exact .bind' (Check.flag_restores _ _) fun _ => .pure' _

theorem Check.matrixNamed_restores {D : List String} (id : String) (line : Nat) :
    (Check.matrixNamed id line).Restores D := by
  unfold Check.matrixNamed
  refine .bind' .get' fun _ => ?_
  split
  · exact .bind' (Check.flag_restores _ _) fun _ => .pure' _
  · exact .bind' (Check.flag_restores _ _) fun _ => .pure' _
  · exact .pure' _

section Leaves

variable {D : List String}

theorem Atom.check_restores : (a : Atom) → a.check.Restores D
  | .int .. | .float .. | .str .. => .pure' _
  | .var n l => Check.typeOf_restores n l

theorem Index.check_restores : (i : Index) → i.check.Restores D
  | .lit .. => .pure' _
  | .name n l => Check.typeOf_restores n l

theorem Index.literal_restores : (i : Index) → i.literal.Restores D
  | .lit .. => .pure' _
  | .name .. => .throw' _

theorem indicesBelow_restores (size line : Nat) : (is : List Index) →
    (indicesBelow size line is).Restores D
  | [] => .pure' _
  | i :: is => .bind' i.literal_restores fun _ =>
      .ite' (.bind' (Check.flag_restores _ _) fun _ => .pure' _) (indicesBelow_restores size line is)

theorem elementCheck_restores (id : String) (is : List Index) (line : Nat) :
    (elementCheck id is line).Restores D := by
  unfold elementCheck
  refine .bind' (.forIn' is _ fun i _ => .bind' i.check_restores fun _ => .pure' _) fun _ => ?_
  refine .bind' (Check.matrixNamed_restores id line) fun found => ?_
  split
  · exact .pure' _
  · refine .ite' (.bind' (Check.flag_restores _ _) fun _ => .pure' _) ?_
    exact .bind' (indicesBelow_restores _ _ is) fun _ => .ite' (.pure' _) (.pure' _)

theorem Slice.check_restores : (s : Slice) → s.check.Restores D
  | .both id b e l => by
    refine .bind' b.check_restores fun _ => .bind' e.check_restores fun _ => ?_
    refine .bind' (Check.matrixNamed_restores id l) fun found => ?_
    split
    · exact .pure' _
    · refine .bind' e.literal_restores fun _ =>
        .ite' (.bind' (Check.flag_restores _ _) fun _ => .pure' _) ?_
      refine .bind' b.literal_restores fun _ => .bind' e.literal_restores fun _ => ?_
      exact .ite' (.bind' (Check.flag_restores _ _) fun _ => .pure' _) (.pure' _)
  | .upTo id e l => by
    refine .bind' e.check_restores fun _ => .bind' (Check.matrixNamed_restores id l) fun found => ?_
    split
    · exact .pure' _
    · exact .bind' e.literal_restores fun _ =>
        .ite' (.bind' (Check.flag_restores _ _) fun _ => .pure' _) (.pure' _)
  | .onwards id b l => by
    refine .bind' b.check_restores fun _ => .bind' (Check.matrixNamed_restores id l) fun found => ?_
    split
    · exact .pure' _
    · exact .bind' b.literal_restores fun _ =>
        .ite' (.bind' (Check.flag_restores _ _) fun _ => .pure' _) (.pure' _)

theorem Target.check_restores : (t : Target) → t.check.Restores D
  | .var n l => Check.typeOf_restores n l
  | .element id is l => .bind' (elementCheck_restores id is l) fun _ => .pure' _
  | .slice s => .bind' s.check_restores fun _ => .pure' _

theorem Expr.variableName_restores : (e : Expr) → e.variableName.Restores D
  | .atom (.var ..) => .pure' _
  | .atom (.int ..) | .atom (.float ..) | .atom (.str ..) => .throw' _
  | .assign _ | .relation _ | .matrixFun .. | .element .. | .negate .. | .literal .. | .transpose ..
  | .binary .. => .throw' _

theorem Expr.operandName_restores (e : Expr) : e.operandName.Restores D := by
  unfold Expr.operandName
  split <;> exact Expr.variableName_restores _

theorem matrixShape_restores (name : String) : (matrixShape name).Restores D := by
  unfold matrixShape
  refine .bind' .get' fun _ => ?_
  split
  · exact .pure' _
  · exact .throw' _
  · exact .throw' _

theorem binaryCheck_restores (op : String) (line : Nat) (ta tb : Option Ty)
    {names : Check (String × String)} (read : names.Restores D) :
    (binaryCheck op line ta tb names).Restores D := by
  unfold binaryCheck
  split
  · exact .bind' (Check.flag_restores _ _) fun _ => .pure' _
  · refine .ite' ?_ (.pure' _)
    refine .bind' read fun ⟨_, _⟩ => ?_
    refine .bind' (matrixShape_restores _) fun _ => .bind' (matrixShape_restores _) fun _ => ?_
    exact .ite' (.bind' (Check.flag_restores _ _) fun _ => .pure' _) (.pure' _)

theorem matrixFunctionCheck_restores (name : String) (size line : Nat) :
    (matrixFunctionCheck name size line).Restores D :=
  .ite' (.bind' (.modify' fun _ => rfl) fun _ =>
      .bind' (Check.flag_restores _ _) fun _ => .pure' _) (.pure' _)

end Leaves

/-! ### The names a node declares, in version 4 -/

mutual
/-- The names an expression declares in the scope it is checked in: those of the assignments it
holds, in the order they are checked. -/
def Expr.declared : Expr → List String
  | .atom _ | .matrixFun .. | .element .. | .literal .. => []
  | .assign a => a.declared
  | .relation c => c.declared
  | .negate e _ | .transpose e _ => e.declared
  | .binary _ a b _ => a.declared ++ b.declared

/-- The names an assignment declares: those its value declares, then the name it assigns with
`=`, if it assigns a name. -/
def Assign.declared : Assign → List String
  | .declare (.var name _) v _ => v.declared ++ [name]
  | .declare _ v _ | .update _ _ v _ => v.declared

/-- The names a comparison declares. -/
def Compare.declared : Compare → List String
  | .mk _ a b _ => a.declared ++ b.declared
end

/-- The names a statement declares in the scope it is checked in: those of its condition, its
assignment or the value it returns; a `print` of version 4 prints only names and literals. -/
def Stmt.declared : Stmt → List String
  | .ifElse c .. | .ifThen c .. | .whileLoop c .. => c.declared
  | .assign a => a.declared
  | .ret e _ => e.declared
  | .control .. | .block .. | .forLoop .. | .print .. => []

/-- The names a possibly empty statement declares. -/
def Stmt.declaredOpt : Option Stmt → List String
  | some s => s.declared
  | none => []

/-- The names statements declare in the scope they are checked in, one after the other. -/
def Stmt.declaredAll : List (Option Stmt) → List String
  | [] => []
  | s :: ss => Stmt.declaredOpt s ++ Stmt.declaredAll ss

/-! ### Checking restores the scopes, in version 4 -/

mutual
/-- Checking an expression declares only the names of its assignments, in the scope it is
checked in. -/
theorem Expr.check_restores : (e : Expr) → e.check.Restores e.declared
  | .atom a => a.check_restores
  | .assign a => .bind' a.check_restores fun _ => .pure' _
  | .relation c => c.check_restores
  | .matrixFun f n l => matrixFunctionCheck_restores f n l
  | .element id is l => elementCheck_restores id is l
  | .negate e _ => .bind' e.check_restores fun _ => .pure' _
  | .literal .. => .pure' _
  | .transpose e _ => e.check_restores
  | .binary op a b l =>
    .append' a.check_restores fun _ => .bind' b.check_restores fun _ =>
      binaryCheck_restores op l _ _ (.bind' a.operandName_restores fun _ =>
        .bind' b.operandName_restores fun _ => .pure' _)

/-- Checking an assignment declares the name it assigns, after what its value declares. -/
theorem Assign.check_restores : (a : Assign) → a.check.Restores a.declared
  | .declare (.var name _) v l => by
    refine .append' v.check_restores fun ty => ?_
    dsimp -zeta only
    -- the branches on the value share the declaration of the name, once its shape is known
    extract_lets declare
    have declared : ∀ shape, (declare shape).Restores [name] := by
      rintro (_ | ⟨_ | t, s, d⟩)
      · exact .pure' _
      · exact .pure' _
      · cases t <;> exact Check.Restores.put' _ (List.mem_singleton_self name)
    split
    · exact .ite' (.bind' (Check.flag_restores _ _) fun _ => .bind' (.pure' _) declared)
        (.bind' (.pure' _) declared)
    · exact .bind' (.pure' _) declared
    · exact .bind' (.pure' _) declared
    · -- a transposition takes the shape of the matrix it names
      refine .bind' .get' fun _ => .bind' (Expr.variableName_restores _) fun _ => ?_
      split
      · exact .bind' (.pure' _) declared
      · exact .bind' (.throw' _) declared
      · exact .bind' (.pure' _) declared
    · exact .bind' (.pure' _) declared
  | .declare (.element id is l') v _ =>
    .bind' v.check_restores fun _ => .bind' (Target.element id is l').check_restores fun _ => .pure' _
  | .declare (.slice s) v _ =>
    .bind' v.check_restores fun _ => .bind' (Target.slice s).check_restores fun _ => .pure' _
  | .update op t v l =>
    .bind' t.check_restores fun _ => .bind' v.check_restores fun _ =>
      .bind' (binaryCheck_restores op l _ _ (.throw' _)) fun _ => .pure' _

theorem Compare.check_restores : (c : Compare) → c.check.Restores c.declared
  | .mk op a b l =>
    .append' a.check_restores fun _ => .bind' b.check_restores fun _ =>
      binaryCheck_restores op l _ _ (.bind' a.operandName_restores fun _ =>
        .bind' b.operandName_restores fun _ => .pure' _)
end

theorem Printed.check_restores {D : List String} : (p : Printed) → p.check.Restores D
  | .single a => .bind' a.check_restores fun _ => .pure' _
  | .more rest a _ => .bind' rest.check_restores fun _ => .bind' a.check_restores fun _ => .pure' _

mutual
/-- Checking a statement declares only the names of its own declared parts in the scope it is
checked in: a block, a branch or a loop closes its scope on the scopes it found. -/
theorem Stmt.check_restores : (s : Stmt) → s.check.Restores s.declared
  | .control .. => .bind' .get' fun _ => .ite' (Check.flag_restores _ _) (.pure' _)
  | .block body _ => Check.Restores.inScope' (Stmt.checkAll_restores body)
  | .ifElse c y n _ =>
    .bind' c.check_restores fun _ => .bind' (Check.Restores.inScope' (Stmt.checkOpt_restores y))
      fun _ => Check.Restores.inScope' (Stmt.checkOpt_restores n)
  | .ifThen c y _ =>
    .bind' c.check_restores fun _ => Check.Restores.inScope' (Stmt.checkOpt_restores y)
  | .whileLoop c b _ =>
    .bind' c.check_restores fun _ => Check.Restores.inScope' (Stmt.checkOpt_restores b)
  | .forLoop v a b body _ =>
    -- the counter is declared in the loop's own scope, with the range and the body
    Check.Restores.inScope' (E := v :: Stmt.declaredOpt body)
      (.bind' (Check.Restores.put' _ (List.mem_cons_self ..)) fun _ => .bind' a.check_restores fun _ =>
        .bind' b.check_restores fun _ => (Stmt.checkOpt_restores body).mono (List.subset_cons_self _ _))
  | .assign a => a.check_restores
  | .print items _ => items.check_restores
  | .ret e _ => by
    refine .bind' .get' fun _ => ?_
    -- the value is checked whether or not the place of the `return` is reported
    extract_lets value
    have checked : ∀ r, (value r).Restores e.declared :=
      fun _ => .bind' e.check_restores fun _ => .pure' _
    exact .ite' (.bind' (Check.flag_restores _ _) checked) (checked ())

theorem Stmt.checkOpt_restores : (s : Option Stmt) → (Stmt.checkOpt s).Restores (Stmt.declaredOpt s)
  | some s => s.check_restores
  | none => .throw' _

theorem Stmt.checkAll_restores : (ss : List (Option Stmt)) →
    (Stmt.checkAll ss).Restores (Stmt.declaredAll ss)
  | [] => .pure' _
  | s :: ss => .append' (Stmt.checkOpt_restores s) fun _ => Stmt.checkAll_restores ss
end


end Annotated

/-! ### Both checkers -/

/-- Checking a node of the syntax restores the scopes, in both checkers. Whenever checking a
statement, a list of statements or an expression ends normally, the scopes are those it started
on with some declarations in the innermost scope, of names the node itself declares there: the
same scopes are open, those around the innermost one exactly as they were, and every name not
declared stands for the symbol it stood for (`Checker.lookup_eq_find`). -/
theorem checking_restores_scopes :
    (∀ (s : Script.Stmt) (c c' : Script.Checker), s.check.run c = .ok () c' →
      ∃ ds, (∀ d ∈ ds, d.1 ∈ s.declared) ∧ Scope.Restored c.scopes c'.scopes ds) ∧
    (∀ (ss : List (Option Script.Stmt)) (c c' : Script.Checker),
      (Script.Stmt.checkAll ss).run c = .ok () c' →
        ∃ ds, (∀ d ∈ ds, d.1 ∈ Script.Stmt.declaredAll ss) ∧ Scope.Restored c.scopes c'.scopes ds) ∧
    (∀ (e : Script.Expr) (c c' : Script.Checker) (t : Option Script.Ty),
      e.check.run c = .ok t c' →
        ∃ ds, (∀ d ∈ ds, d.1 ∈ e.declared) ∧ Scope.Restored c.scopes c'.scopes ds) ∧
    (∀ (s : Annotated.Stmt) (c c' : Annotated.Checker), s.check.run c = .ok () c' →
      ∃ ds, (∀ d ∈ ds, d.1 ∈ s.declared) ∧ Scope.Restored c.scopes c'.scopes ds) ∧
    (∀ (ss : List (Option Annotated.Stmt)) (c c' : Annotated.Checker),
      (Annotated.Stmt.checkAll ss).run c = .ok () c' →
        ∃ ds, (∀ d ∈ ds, d.1 ∈ Annotated.Stmt.declaredAll ss) ∧ Scope.Restored c.scopes c'.scopes ds) ∧
    (∀ (e : Annotated.Expr) (c c' : Annotated.Checker) (t : Option Script.Ty),
      e.check.run c = .ok t c' →
        ∃ ds, (∀ d ∈ ds, d.1 ∈ e.declared) ∧ Scope.Restored c.scopes c'.scopes ds) :=
  ⟨fun s _ _ ended => s.check_restores.restored ended,
   fun ss _ _ ended => (Script.Stmt.checkAll_restores ss).restored ended,
   fun e _ _ _ ended => e.check_restores.restored ended,
   fun s _ _ ended => s.check_restores.restored ended,
   fun ss _ _ ended => (Annotated.Stmt.checkAll_restores ss).restored ended,
   fun e _ _ _ ended => e.check_restores.restored ended⟩

/-- A block that declares `x` closes its scope on the scopes it found: the declaration is gone,
and the block declares nothing in the scope around it. -/
theorem block_declaration_restored :
    (Script.Stmt.block [some (.assign (.declare (.var "x" 1) (.atom (.int 1 1)) 1))] 1).check.run {} =
        .ok () {} ∧
      ∃ ds, (∀ d ∈ ds, d.1 ∈
          (Script.Stmt.block [some (.assign (.declare (.var "x" 1) (.atom (.int 1 1)) 1))] 1).declared) ∧
        Scope.Restored ({} : Script.Checker).scopes ({} : Script.Checker).scopes ds :=
  ⟨rfl, checking_restores_scopes.1 _ _ _ rfl⟩

end MatrixLang
