import MatrixLang.Proofs.Arithmetic
import MatrixLang.Proofs.Holding

/-!
# The passes of a counting loop

`for v = b:e S` evaluates its bounds once, opens a frame in which `v` reads `b`, and then takes
passes. A pass reads the counter `i` from `v`, runs `S` with a `break` or `continue` caught and,
however `S` ended and whatever it did to `v`, sets `v` to `i + 1`. The loop takes a further pass
while the counter read by the pass before (`b`, before the first) is below `e`.

So the passes are taken for `i = b, b + 1, …, e`, the bound included, when `b < e`, and for no `i`
when `e ≤ b`: a range of one value, `b = e`, does not run `S` at all.

## Main results

* `Stmt.loopFor_counts`: on a machine where `v` reads `b`, the loop over `b:e` is the sequence of
  its passes over `forCounters b e`.
* `Stmt.forLoop_passes`: a `for` statement whose bounds are the whole numbers `b` and `e` opens its
  frame, sets `v` to `b`, takes its passes over `forCounters b e` and closes its frame; each pass
  leaves `v` reading the next counter, and there are `e - b + 1` passes when `b < e`, none
  otherwise.

## Proof strategy

A step of the loop (`Stmt.loopFor_pass`) is a pass at the counter `v` reads, followed by the loop
compared against that counter. The pass leaves `v` reading the next counter
(`Stmt.forPass_counter`): by the frame-holding invariant `Stmt.exec_holds` the body keeps `v` in
some frame, so the assignment after it lands where a lookup looks. An induction on the step
budget then lines the loop's steps up with the counters (`Stmt.loopFor_from`).
-/
namespace MatrixLang.Script

open Run

/-! ### Counters -/

/-- The integers `i, i + 1, …, e`; none when `e < i`. -/
def countUp (i e : Int) : List Int := (List.range (e + 1 - i).toNat).map fun k : Nat => i + k

/-- The counters of a loop over `b:e`: `b, …, e` when `b < e`, none otherwise. -/
def forCounters (b e : Int) : List Int := if b < e then countUp b e else []

theorem countUp_of_le {i e : Int} (le : i ≤ e) : countUp i e = i :: countUp (i + 1) e := by
  have count : (e + 1 - i).toNat = (e + 1 - (i + 1)).toNat + 1 := by omega
  simp only [countUp, count, List.range_succ_eq_map, List.map_cons, List.map_map]
  congr 1
  · simp
  · congr 1
    funext k
    simp only [Function.comp_apply, Nat.succ_eq_add_one]
    omega

theorem countUp_of_lt {i e : Int} (lt : e < i) : countUp i e = [] := by
  have count : (e + 1 - i).toNat = 0 := by omega
  simp [countUp, count]

/-- A loop over `b:e` takes `e - b + 1` passes when `b < e`, and none otherwise. -/
theorem forCounters_length (b e : Int) :
    (forCounters b e).length = if b < e then (e - b + 1).toNat else 0 := by
  unfold forCounters countUp
  split
  · simp only [List.length_map, List.length_range]
    congr 1
    omega
  · rfl

/-! ### Passes -/

/-- One pass at counter `i`: the body runs with a `break` or `continue` caught and then, however it
ended, `name` is set to `i + 1`. -/
def Stmt.forPass (fuel : Nat) (name : String) (body : Option Stmt) (i : Int) :
    Run (Option Signal) :=
  andFinally (catching (Stmt.execOpt fuel body)) (modify (·.assign name (.int (i + 1))))

/-- What follows a pass that ended on a signal: `rest` after a normal end or a `continue`, nothing
after a `break`, while a `return` leaves. -/
def Stmt.nextPass (rest : Run Unit) : Option Signal → Run Unit
  | some .brk => pure ()
  | some .ret => throw (.escaped .ret)
  | _ => rest

/-- The passes over a list of counters, each on one step less than the one before. -/
def Stmt.forPasses (name : String) (body : Option Stmt) : Nat → List Int → Run Unit
  | 0, _ => throw .exhausted
  | _ + 1, [] => pure ()
  | fuel + 1, i :: rest => Stmt.forPass fuel name body i >>= Stmt.nextPass (Stmt.forPasses name body fuel rest)

/-! ### One step of the loop -/

theorem Heap.compare_int_lt (h : Heap) (a b : Int) :
    h.compare "<" (.int a) (.int b) = .ok (decide (a < b)) := by
  simp [Heap.compare, Heap.order, Value.num?, Num.compare, holds]
  rw [Bool.eq_iff_iff, beq_iff_eq, decide_eq_true_iff]
  exact Int.compare_eq_lt

theorem Run.compare_int_lt (a b : Int) (m : Machine) :
    (Run.lift (m.heap.compare "<" (.int a) (.int b))).run m = .ok (decide (a < b)) m := by
  simp [Heap.compare_int_lt, Run.lift, EStateM.run]

/-- While the counter compared is below the bound, a step of the loop is a pass at the counter
`name` reads, followed by the loop compared against that counter. -/
theorem Stmt.loopFor_pass (fuel : Nat) {name : String} {e j i : Int} {body : Option Stmt}
    {m : Machine} (reads : m.lookup name = .int i) (below : j < e) :
    (Stmt.loopFor (fuel + 1) name (.int e) body (.int j)).run m =
      (Stmt.forPass fuel name body i >>=
        Stmt.nextPass (Stmt.loopFor fuel name (.int e) body (.int i))).run m := by
  have compared := Run.compare_int_lt j e m
  simp only [Stmt.loopFor, EStateM.run_bind, EStateM.run_get, compared, decide_eq_true below,
    Run.lookup, reads, if_true]
  -- the counter's step `i + 1` is computed on the heap, which the pass's final assignment reads off
  rfl

theorem Stmt.loopFor_stop (fuel : Nat) {name : String} {e j : Int} {body : Option Stmt}
    (m : Machine) (above : ¬ j < e) :
    (Stmt.loopFor (fuel + 1) name (.int e) body (.int j)).run m = .ok () m := by
  have compared := Run.compare_int_lt j e m
  simp only [Stmt.loopFor, EStateM.run_bind, EStateM.run_get, compared, decide_eq_false above]
  rfl

/-- A pass that ends leaves `name` reading the next counter, whatever the body assigned to it. -/
theorem Stmt.forPass_counter {fuel : Nat} {name : String} {body : Option Stmt} {i : Int}
    {m m' : Machine} {sig : Option Signal} (binds : m.frames.any (·.has name) = true)
    (ran : (Stmt.forPass fuel name body i).run m = .ok sig m') :
    m'.lookup name = .int (i + 1) := by
  rw [Stmt.forPass, Run.andFinally_run] at ran
  cases caught : (catching (Stmt.execOpt fuel body)).run m with
  | error f m₁ =>
    rw [caught] at ran
    cases ran
  | ok a m₁ =>
    -- the body kept `name` in some frame, so the assignment after it lands where a lookup looks
    have held := (Run.Holds.catching' (Stmt.execOpt_holds fuel body)).ended caught
    rw [caught] at ran
    cases ran
    exact Machine.lookup_assign_of_binds (held.binds binds) _

/-! ### The whole loop -/

/-- The loop compared against `j`, on a machine where `name` reads `i` and `j` is `i` or the counter
before it, takes the passes over `i, …, e` if `j < e`, and none otherwise. -/
theorem Stmt.loopFor_from (name : String) (e : Int) (body : Option Stmt) (fuel : Nat) :
    ∀ {i j : Int} {m : Machine}, m.lookup name = .int i → i - 1 ≤ j → j ≤ i →
      (Stmt.loopFor fuel name (.int e) body (.int j)).run m =
        (Stmt.forPasses name body fuel (if j < e then countUp i e else [])).run m := by
  induction fuel with
  | zero => intros; rfl
  | succ fuel ih =>
    intro i j m reads low high
    by_cases below : j < e
    · rw [Stmt.loopFor_pass fuel reads below, if_pos below, countUp_of_le (by omega)]
      simp only [Stmt.forPasses, EStateM.run_bind]
      cases passed : (Stmt.forPass fuel name body i).run m with
      | error f m' => rfl
      | ok sig m' =>
        have binds : m.frames.any (·.has name) = true := Machine.binds_of_lookup (by simp [reads])
        -- the next step compares against `i` with `name` reading `i + 1`
        have rest := ih (j := i) (Stmt.forPass_counter binds passed) (by omega) (by omega)
        have tail : (if i < e then countUp (i + 1) e else []) = countUp (i + 1) e := by
          split
          · rfl
          · exact (countUp_of_lt (by omega)).symm
        rw [tail] at rest
        dsimp only
        rcases sig with _ | _ | _ | _ <;> simp only [Stmt.nextPass, rest]
    · rw [Stmt.loopFor_stop fuel m below, if_neg below]
      rfl

/-- On a machine where `name` reads `b`, the loop over `b:e` is the sequence of its passes over
`forCounters b e`. -/
theorem Stmt.loopFor_counts (fuel : Nat) {name : String} {b e : Int} {body : Option Stmt}
    {m : Machine} (reads : m.lookup name = .int b) :
    (Stmt.loopFor fuel name (.int e) body (.int b)).run m =
      (Stmt.forPasses name body fuel (forCounters b e)).run m :=
  Stmt.loopFor_from name e body fuel reads (by omega) (Int.le_refl b)

/-! ### Main result -/

/-- A statement `for v = b:e S` whose bounds are the whole numbers `b` and `e` opens its frame,
sets `v` to `b`, takes the passes over `forCounters b e` and closes its frame. Each pass that ends
leaves `v` reading the next counter, whatever `S` assigned to it, so the pass at `i` starts with `v`
reading `i`; there are `e - b + 1` passes when `b < e`, and none otherwise. -/
theorem Stmt.forLoop_passes (fuel : Nat) (v : String) (a : Index) (bound : Bound)
    (body : Option Stmt) (l : Nat) {m m₁ m₂ : Machine} {b e : Int}
    (begins : a.eval.run m = .ok (.int b) m₁) (ends : bound.eval.run m₁ = .ok (.int e) m₂) :
    (Stmt.exec (fuel + 1) (.forLoop v a bound body l)).run m =
      (do
        Run.push "for_stmt"
        modify fun n : Machine => n.insert v (.int b)
        Stmt.forPasses v body fuel (forCounters b e)
        Run.pop).run m₂ ∧
    ((m₂.push "for_stmt").insert v (.int b)).lookup v = .int b ∧
    (∀ f i (n n' : Machine) sig, n.frames.any (·.has v) = true →
      (Stmt.forPass f v body i).run n = .ok sig n' → n'.lookup v = .int (i + 1)) ∧
    (forCounters b e).length = if b < e then (e - b + 1).toNat else 0 := by
  have reads : ((m₂.push "for_stmt").insert v (.int b)).lookup v = .int b :=
    Machine.lookup_insert_self (by simp [Machine.push]) v _
  refine ⟨?_, reads, fun f i n n' sig binds ran => Stmt.forPass_counter binds ran,
    forCounters_length b e⟩
  simp only [Stmt.exec, EStateM.run_bind, begins, ends, Run.push, Run.pop, EStateM.run_modify]
  rw [Stmt.loopFor_counts fuel reads]

/-- `for i = 1:3 ;` on a fresh machine: its bounds evaluate to `1` and `3`, and it takes the
passes over `1, 2, 3`. -/
theorem Stmt.forLoop_passes_one_to_three :
    (Index.lit 1 1).eval.run {} = .ok (.int 1) {} ∧
      (Bound.index (.lit 3 1)).eval.run {} = .ok (.int 3) {} ∧
      (Stmt.exec 5 (.forLoop "i" (.lit 1 1) (.index (.lit 3 1)) none 1)).run {} =
        (do
          Run.push "for_stmt"
          modify fun n : Machine => n.insert "i" (.int 1)
          Stmt.forPasses "i" none 4 [1, 2, 3]
          Run.pop).run {} := by
  have begins : (Index.lit 1 1).eval.run {} = .ok (.int 1) {} := rfl
  have ends : (Bound.index (.lit 3 1)).eval.run {} = .ok (.int 3) {} := rfl
  refine ⟨begins, ends, ?_⟩
  exact (Stmt.forLoop_passes 4 "i" (.lit 1 1) (.index (.lit 3 1)) none 1 begins ends).1

/-- `for i = 1:1 print i;`, a range of one value, prints nothing: the program ends on the machine
it started from. -/
theorem Program.single_value_range_skips :
    Program.run [some (.forLoop "i" (.lit 1 1) (.index (.lit 1 1))
      (some (.print (.single (.value (.atom (.var "i" 1)))) 1)) 1)] = .ok {} := by
  rfl

end MatrixLang.Script
