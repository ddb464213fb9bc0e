import MatrixLang.Proofs.Arithmetic

/-!
# Compound assignment against its expansion

`x op= e` and `x = x op e` take different paths through the interpreter. The compound form
evaluates `e`, reads `x` and applies the operators of the language (`compound`); the expansion
reads `x`, evaluates `e`, applies the operator table of arithmetic expressions (`arithmetic`) and
then declares `x`, which updates it in place when it already has a value. The two paths meet
everywhere but at one entry of the table: its quotient is infinite for a divisor equal to zero,
where the division of the compound form raises.

## Main results

* `Assign.update_against_expansion`: on a machine where `x` has a value and `e` leaves the frames
  as they were, `x op= e` and `x = x op e` (`op` one of `+ - * /`) end in the same machine or stop
  on the same fault, unless `op` is `/` and `e` is zero; then the expansion stores infinity, and
  the compound form raises whenever `x` holds no number, or `x` and `e` are whole numbers.
* `Assign.divide_by_zero_diverges`: `x /= 0` raises where `x = x / 0` stores infinity.

## Proof strategy

Both runs evaluate `e` from the same machine. Since `e` keeps the frames, `x` reads the same before
and after it, and the operators agree on those operands (`compound_eq_arithmetic`) unless the
divisor is zero. The expansion's declaration then finds `x` bound and updates it in place
(`declare_of_bound`), as the compound form does.
-/
namespace MatrixLang.Script

/-! ### Reading and declaring names -/

/-- A lookup sees the frames alone. -/
theorem Machine.lookup_congr {m m' : Machine} (same : m'.frames = m.frames) (name : String) :
    m'.lookup name = m.lookup name := by
  simp [Machine.lookup, same]

/-- Declaring a name that has a value updates it in every frame that has it. -/
theorem declare_of_bound {m : Machine} {name : String} (bound : m.lookup name ≠ .none)
    (v : Value) : (declare name v).run m = .ok () (m.assign name v) := by
  -- the side condition of the match's second branch is `bound`, which simp finds in context
  unfold declare
  simp

/-! ### The operators -/

/-- An operation on the heap leaves the frames as they were. -/
theorem onHeap_frames {f : Heap → Except OpError (Value × Heap)} {m m' : Machine} {v : Value}
    (ran : (Run.onHeap f).run m = .ok v m') : m'.frames = m.frames := by
  simp only [Run.onHeap, EStateM.run] at ran
  split at ran <;> cases ran
  rfl

theorem arithmetic_frames {op : String} {a b v : Value} {m m' : Machine}
    (ran : (arithmetic op a b).run m = .ok v m') : m'.frames = m.frames := by
  unfold arithmetic at ran
  split at ran <;> exact onHeap_frames ran

/-- The operator of `x op= e` is that of `x op e`, but for a quotient by zero. -/
theorem compound_eq_arithmetic {op : String} (arith : op ∈ ["+", "-", "*", "/"]) (x y : Value)
    (nonzero : op = "/" → Heap.isZero y = false) :
    compound (op ++ "=") x y = arithmetic op x y := by
  simp only [List.mem_cons, List.not_mem_nil, or_false] at arith
  rcases arith with rfl | rfl | rfl | rfl
  · simp [compound, arithmetic]
  · simp [compound, arithmetic]
  · simp [compound, arithmetic]
  · simp [compound, arithmetic, Heap.quotient, nonzero rfl]

/-- The table's quotient by zero is infinite, and leaves the heap as it was. -/
theorem arithmetic_by_zero (x y : Value) (zero : Heap.isZero y = true) (m : Machine) :
    (arithmetic "/" x y).run m = .ok (.float Binary64.infinity) m := by
  simp [arithmetic, Heap.quotient, zero, Run.onHeap, EStateM.run]

/-- Division by zero raises when the dividend is no number, or both are whole numbers. -/
theorem divide_by_zero_raises {h : Heap} {x y : Value}
    (raises : x.num? = none ∨ ∃ a, x.num? = some (.int a) ∧ y.num? = some (.int 0)) :
    ∃ err, h.divide x y = .error err := by
  rcases raises with none_ | ⟨a, whole, zero⟩
  · exact ⟨unsupported "/" x y, by simp [Heap.divide, none_]⟩
  · exact ⟨.zeroDivision "division by zero", by simp [Heap.divide, whole, zero, Num.divide, Except.map]⟩

/-! ### The two runs -/

section Runs

variable (op name : String) (e : Expr) (l₁ l₂ l₃ l₄ : Nat)

/-- `x op= e`. -/
def compoundForm : Assign := .update (op ++ "=") (.var name l₁) e l₂

/-- `x = x op e`. -/
def expandedForm : Assign := .declare (.var name l₁) (.arith op (.atom (.var name l₃)) e l₄) l₂

variable {op name e l₁ l₂ l₃ l₄}

/-- The compound form evaluates `e`, reads `x`, applies its operator and updates `x`. -/
theorem compoundForm_run (m : Machine) :
    (compoundForm op name e l₁ l₂).exec.run m =
      match e.eval.run m with
      | .ok v m' => match (compound (op ++ "=") (m'.lookup name) v).run m' with
        | .ok new m'' => .ok () (m''.assign name new)
        | .error f m'' => .error f m''
      | .error f m' => .error f m' := by
  simp only [compoundForm, Assign.exec, Run.lookup, EStateM.run_bind, EStateM.run_get,
    EStateM.run_pure]
  cases e.eval.run m with
  | ok v m' =>
    dsimp only
    cases (compound (op ++ "=") (m'.lookup name) v).run m' <;> rfl
  | error f m' => rfl

/-- The expansion reads `x`, evaluates `e`, applies the table's operator and declares `x`. -/
theorem expandedForm_run (m : Machine) :
    (expandedForm op name e l₁ l₂ l₃ l₄).exec.run m =
      match e.eval.run m with
      | .ok v m' => match (arithmetic op (m.lookup name) v).run m' with
        | .ok new m'' => (declare name new).run m''
        | .error f m'' => .error f m''
      | .error f m' => .error f m' := by
  simp only [expandedForm, Assign.exec, Expr.eval, Atom.eval, Run.lookup, EStateM.run_bind,
    EStateM.run_get, EStateM.run_pure]
  cases e.eval.run m with
  | ok v m' =>
    dsimp only
    cases (arithmetic op (m.lookup name) v).run m' <;> rfl
  | error f m' => rfl

end Runs

/-! ### Main results -/

/-- A compound assignment `x op= e` (`op` one of `+ - * /`), on a machine where `x` has a value and
`e` leaves the frames as they were, does what its expansion `x = x op e` does, the same machine
at its end or the same fault, whenever the operator is no division by a value of `e` equal to
zero. A division by zero sets `x` to infinity in the expansion; the compound form raises there
whenever `x` holds no number, or `x` and `e` are whole numbers. -/
theorem Assign.update_against_expansion (op name : String) (e : Expr) (l₁ l₂ l₃ l₄ : Nat)
    (m : Machine) (arith : op ∈ ["+", "-", "*", "/"]) (bound : m.lookup name ≠ .none)
    (keeps : ∀ v m', e.eval.run m = .ok v m' → m'.frames = m.frames) :
    ((∀ v m', e.eval.run m = .ok v m' → op = "/" → Heap.isZero v = false) →
      (compoundForm op name e l₁ l₂).exec.run m = (expandedForm op name e l₁ l₂ l₃ l₄).exec.run m) ∧
    (∀ v m', e.eval.run m = .ok v m' → op = "/" → Heap.isZero v = true →
      (expandedForm op name e l₁ l₂ l₃ l₄).exec.run m =
        .ok () (m'.assign name (.float Binary64.infinity)) ∧
      (((m.lookup name).num? = none ∨
          ∃ a, (m.lookup name).num? = some (.int a) ∧ v.num? = some (.int 0)) →
        ∃ err, (compoundForm op name e l₁ l₂).exec.run m = .error (.raised (.op err)) m')) := by
  refine ⟨fun nonzero => ?_, fun v m' evaluated division zero => ?_⟩
  · rw [compoundForm_run, expandedForm_run]
    cases evaluated : e.eval.run m with
    | error f m' => rfl
    | ok v m' =>
      -- `e` keeps the frames, so `x` reads alike on both paths and is still bound at the end
      have same := keeps v m' evaluated
      simp only [Machine.lookup_congr same, compound_eq_arithmetic arith _ _ (nonzero v m' evaluated)]
      cases computed : (arithmetic op (m.lookup name) v).run m' with
      | error f m'' => rfl
      | ok new m'' =>
        have bound' : m''.lookup name ≠ .none := by
          rwa [Machine.lookup_congr ((arithmetic_frames computed).trans same)]
        exact (declare_of_bound bound' new).symm
  · subst division
    have same := keeps v m' evaluated
    have bound' : m'.lookup name ≠ .none := by rwa [Machine.lookup_congr same]
    refine ⟨?_, fun raises => ?_⟩
    · simp only [expandedForm_run, evaluated, arithmetic_by_zero _ v zero]
      exact declare_of_bound bound' _
    · obtain ⟨err, failed⟩ := divide_by_zero_raises (h := m'.heap) raises
      have quotient : compound ("/" ++ "=") (m.lookup name) v =
          Run.onHeap (·.divide (m.lookup name) v) := by
        simp [compound]
      refine ⟨err, ?_⟩
      rw [compoundForm_run, evaluated]
      dsimp only
      rw [Machine.lookup_congr same, quotient]
      simp [Run.onHeap, EStateM.run, failed]

/-- The machine where `x` holds `1`. -/
def holdingOne : Machine := { frames := [{ name := "global_memory", vars := [("x", .int 1)] }] }

/-- At `x = 1`, dividing by the literal `0`: every condition of the comparison holds, and the
expansion sets `x` to infinity. -/
theorem Assign.update_against_expansion_at_zero :
    "/" ∈ ["+", "-", "*", "/"] ∧ holdingOne.lookup "x" ≠ .none ∧
      (∀ v m', (Expr.atom (.int 0 1)).eval.run holdingOne = .ok v m' →
        m'.frames = holdingOne.frames) ∧
      (expandedForm "/" "x" (.atom (.int 0 1)) 1 1 1 1).exec.run holdingOne =
        .ok () (holdingOne.assign "x" (.float Binary64.infinity)) := by
  have keeps : ∀ v m', (Expr.atom (.int 0 1)).eval.run holdingOne = .ok v m' →
      m'.frames = holdingOne.frames := by
    intro v m' evaluated
    cases evaluated
    rfl
  have bound : holdingOne.lookup "x" ≠ .none := by simp [holdingOne, Machine.lookup, Frame.has]
  refine ⟨by decide, bound, keeps, ?_⟩
  exact (((Assign.update_against_expansion "/" "x" (.atom (.int 0 1)) 1 1 1 1 holdingOne
    (by decide) bound keeps).2 (.int 0) holdingOne rfl rfl (by decide)).1)

/-- `x /= 0` and `x = x / 0` part ways at `x = 1`: the first raises, the second sets `x` to
infinity. -/
theorem Assign.divide_by_zero_diverges :
    (compoundForm "/" "x" (.atom (.int 0 1)) 1 1).exec.run holdingOne =
      .error (.raised (.op (.zeroDivision "division by zero"))) holdingOne ∧
    (expandedForm "/" "x" (.atom (.int 0 1)) 1 1 1 1).exec.run holdingOne =
      .ok () (holdingOne.assign "x" (.float Binary64.infinity)) :=
  ⟨rfl, rfl⟩

end MatrixLang.Script
