import MatrixLang.Proofs.Growth

/-!
# Whole-number arithmetic in the interpreter

An expression of whole-number arithmetic (integer literals, names that hold whole numbers, `+`,
`-` and `*`, negation and parentheses) evaluates to a whole number and leaves the machine as it
found it. The number is the one conventional arithmetic gives, but for negation, which gives its
operand itself: `- 3` is `3`, and `a - - b` is `a - b`. An assignment `x = e` of such an
expression binds `x` to that number.

`Expr.wholeValue negation read` is the value of such an expression with names read by `read` and
negation read by `negation`; conventional arithmetic is `Expr.wholeValue Int.neg`, the
interpreter computes `Expr.wholeValue id`. Which expressions have a value does not depend on the
reading of negation (`Expr.wholeValue_some`).

## Main results

* `Expr.eval_whole`: evaluation computes `Expr.wholeValue id`.
* `Stmt.assign_whole`: `x = e` binds `x` to the value of `e` in which negation gives its operand.
-/
namespace MatrixLang.Script

/-! ### The value of whole-number arithmetic -/

/-- The whole-number operators of arithmetic. -/
def wholeOp : String → Int → Int → Option Int
  | "+", x, y => some (x + y)
  | "-", x, y => some (x - y)
  | "*", x, y => some (x * y)
  | _, _, _ => none

/-- The value of an expression of whole-number arithmetic, with names read by `read` and
negation by `negation`; none for any other expression. -/
def Expr.wholeValue (negation : Int → Int) (read : String → Option Int) : Expr → Option Int
  | .atom (.int v _) => some v
  | .atom (.var x _) => read x
  | .arith op a b _ => do wholeOp op (← a.wholeValue negation read) (← b.wholeValue negation read)
  | .negate e _ => (e.wholeValue negation read).map negation
  | .paren e _ => e.wholeValue negation read
  | _ => none

/-- The whole number a name holds in a machine, if it holds one. -/
def Machine.wholeAt (m : Machine) (x : String) : Option Int :=
  match m.lookup x with
  | .int n => some n
  | _ => none

/-- An operation has a value when both its operands have one and its operator applies to them. -/
theorem wholeOp_bind_some {op : String} {x? y? : Option Int} {n : Int}
    (valued : (do wholeOp op (← x?) (← y?)) = some n) :
    ∃ x y, x? = some x ∧ y? = some y ∧ wholeOp op x y = some n := by
  simpa [Option.bind_eq_some_iff] using valued

/-- An expression has a value for one reading of negation exactly when it has one for any
other. -/
theorem Expr.wholeValue_some {f g : Int → Int} {read : String → Option Int} (e : Expr) (n : Int)
    (valued : e.wholeValue f read = some n) : ∃ k, e.wholeValue g read = some k := by
  fun_induction Expr.wholeValue f read e generalizing n with
  | case1 v line => exact ⟨v, rfl⟩
  | case2 x line => exact ⟨n, valued⟩
  | case3 op a b line left right =>
    obtain ⟨x, y, valuedA, valuedB, applied⟩ := wholeOp_bind_some valued
    obtain ⟨x', valuedA'⟩ := left x valuedA
    obtain ⟨y', valuedB'⟩ := right y valuedB
    -- whether an operator applies depends on its name alone
    have known : ∃ k, wholeOp op x' y' = some k := by
      unfold wholeOp at applied ⊢
      split at applied <;> simp_all
    obtain ⟨k, appliedG⟩ := known
    exact ⟨k, by simp [Expr.wholeValue, valuedA', valuedB', appliedG]⟩
  | case4 e line inner =>
    obtain ⟨x, valuedE, -⟩ := Option.map_eq_some_iff.1 valued
    obtain ⟨k, valuedG⟩ := inner x valuedE
    exact ⟨g k, by simp [Expr.wholeValue, valuedG]⟩
  | case5 e line inner =>
    obtain ⟨k, valuedG⟩ := inner n valued
    exact ⟨k, by simp [Expr.wholeValue, valuedG]⟩
  | case6 => cases valued

/-! ### Evaluation -/

/-- The arithmetic operators on two whole numbers give the number `wholeOp` gives, and leave the
machine as it was. -/
theorem arithmetic_whole {op : String} {x y n : Int} (m : Machine)
    (valued : wholeOp op x y = some n) :
    (arithmetic op (.int x) (.int y)).run m = .ok (.int n) m := by
  unfold wholeOp at valued
  split at valued <;> cases valued <;>
    simp [arithmetic, Run.onHeap, Heap.add, Heap.sub, Heap.mul, Value.num?, Num.lift, Heap.box,
      Except.map, EStateM.run]

/-- Evaluation computes whole-number arithmetic with negation giving its operand, and leaves the
machine as it was. -/
theorem Expr.eval_whole (m : Machine) (e : Expr) (n : Int)
    (valued : e.wholeValue id m.wholeAt = some n) : e.eval.run m = .ok (.int n) m := by
  fun_induction Expr.wholeValue id m.wholeAt e generalizing n with
  | case1 v line =>
    cases valued
    rfl
  | case2 x line =>
    unfold Machine.wholeAt at valued
    split at valued
    next k holds =>
      cases valued
      show EStateM.Result.ok (m.lookup x) m = _
      rw [holds]
    next => cases valued
  | case3 op a b line left right =>
    obtain ⟨x, y, valuedA, valuedB, applied⟩ := wholeOp_bind_some valued
    simp only [Expr.eval, EStateM.run_bind, left x valuedA, right y valuedB]
    exact arithmetic_whole m applied
  | case4 e line inner =>
    simp only [Expr.eval]
    exact inner n (by simpa using valued)
  | case5 e line inner =>
    simp only [Expr.eval]
    exact inner n valued
  | case6 => cases valued

/-! ### Declarations -/

theorem Frame.has_put (f : Frame) (name : String) (v : Value) : (f.put name v).has name = true := by
  have bound : ((f.put name v).vars.lookup name).isSome = true := by simp [Frame.lookup_put_self]
  obtain ⟨p, member, named⟩ := List.lookup_isSome_iff.mp bound
  simp only [beq_iff_eq] at named
  exact List.any_eq_true.mpr ⟨p, member, by simp [named]⟩

theorem Machine.lookup_insert_self {m : Machine} (frames : m.frames ≠ []) (x : String)
    (v : Value) : (m.insert x v).lookup x = v := by
  obtain ⟨f, rest, split⟩ := List.exists_cons_of_ne_nil frames
  simp [Machine.insert, Machine.lookup, split, Frame.has_put, Frame.lookup_put_self]

/-- A name with a value is in some frame. -/
theorem Machine.binds_of_lookup {m : Machine} {x : String} (bound : m.lookup x ≠ .none) :
    m.frames.any (·.has x) = true := by
  cases found : m.frames.find? (·.has x) with
  | none => exact absurd (by simp [Machine.lookup, found]) bound
  | some f =>
    have present : f.has x = true := by simpa using List.find?_some found
    exact List.any_eq_true.2 ⟨f, List.mem_of_find?_eq_some found, present⟩

/-- Assigning a name that some frame has sets it where a lookup finds it: every frame that has the
name still has it, so the first of them is still the one found. -/
theorem Machine.lookup_assign_of_binds {m : Machine} {x : String}
    (binds : m.frames.any (·.has x) = true) (v : Value) : (m.assign x v).lookup x = v := by
  obtain ⟨f, found⟩ : ∃ f, m.frames.find? (·.has x) = some f :=
    Option.isSome_iff_exists.1 (List.find?_isSome.2 (List.any_eq_true.1 binds))
  have present : f.has x = true := by simpa using List.find?_some found
  have kept : ∀ g : Frame, (if g.has x then g.put x v else g).has x = g.has x := by
    intro g
    by_cases has : g.has x <;> simp [has, Frame.has_put]
  simp [Machine.assign, Machine.lookup, List.find?_map, Function.comp_def, kept, found, present,
    Frame.lookup_put_self]

theorem Machine.lookup_assign_self {m : Machine} {x : String} (bound : m.lookup x ≠ .none)
    (v : Value) : (m.assign x v).lookup x = v :=
  m.lookup_assign_of_binds (Machine.binds_of_lookup bound) v

/-- A declaration ends normally, and the name then reads as the value declared. -/
theorem declare_binds {m : Machine} (frames : m.frames ≠ []) (x : String) (v : Value) :
    ∃ m', (declare x v).run m = .ok () m' ∧ m'.lookup x = v := by
  by_cases unbound : m.lookup x = .none
  · refine ⟨m.insert x v, ?_, m.lookup_insert_self frames x v⟩
    unfold declare
    simp [unbound]
  · refine ⟨m.assign x v, ?_, m.lookup_assign_self unbound v⟩
    -- the side condition of the match's second branch is `unbound`, which simp finds in context
    unfold declare
    simp

/-! ### Main result -/

/-- An assignment `x = e` of an expression of whole-number arithmetic, whose names hold whole
numbers, binds `x` to the value of `e` in which every negation gives its operand: the
conventional value when `e` has no negation, but `3` for `- 3`. -/
theorem Stmt.assign_whole (fuel : Nat) {m : Machine} (frames : m.frames ≠ []) (x : String)
    (e : Expr) (l l' : Nat) {n : Int} (valued : e.wholeValue Int.neg m.wholeAt = some n) :
    ∃ k m', e.wholeValue id m.wholeAt = some k ∧
      (Stmt.exec (fuel + 1) (.assign (.declare (.var x l) e l'))).run m = .ok () m' ∧
      m'.lookup x = .int k := by
  obtain ⟨k, unsigned⟩ := e.wholeValue_some n valued
  obtain ⟨m', declared, bound⟩ := declare_binds frames x (.int k)
  refine ⟨k, m', unsigned, ?_, bound⟩
  simp only [Stmt.exec, Assign.exec, EStateM.run_bind, Expr.eval_whole m e k unsigned]
  exact declared

/-- `x = - 3` binds `x` to `3`. -/
theorem assign_negated_three :
    ∃ m', (Stmt.exec 1 (.assign (.declare (.var "x" 1) (.negate (.atom (.int 3 1)) 1) 1))).run {} =
      .ok () m' ∧ m'.lookup "x" = .int 3 := by
  obtain ⟨k, m', unsigned, ran, bound⟩ := Stmt.assign_whole 0 (m := {}) (by simp) "x"
    (.negate (.atom (.int 3 1)) 1) 1 1 (n := -3) rfl
  have three : k = 3 := by simpa [Expr.wholeValue] using unsigned.symm
  exact ⟨m', ran, three ▸ bound⟩

end MatrixLang.Script
