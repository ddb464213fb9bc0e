import MatrixLang.Proofs.Reading
import MatrixLang.Proofs.Bindings

/-!
# Element and slice writes, step by step

An element write `A[i] = e`, `A[i, j] = e` or a slice write `A[b:c] = e` reads its indices and
the list `A` names, evaluates `e`, stores into the list, and then assigns `A` the list it read.
A read `A[i]` or `A[i, j]` reads its indices and the list, and takes an item. Indices are names or
literals, so reading them changes nothing.

This module writes each of these runs as one equation over the evaluation of `e` and the heap
operations that follow, and gives the facts about positions and stores that both the frame laws
of `MatrixLang.Proofs.Aliasing` and the index laws of `MatrixLang.Proofs.Indexing` rest on.

## Main results

* `Assign.single_run`, `Assign.pair_run`, `Assign.slice_run`: the runs of the three writes.
* `Element.single_run`, `Element.pair_run`: the runs of the two reads, which change nothing.
* `Heap.position_eq_some`: an index names a place in a list of `n` items exactly when
  `-n ≤ i < n`, a negative index counting from the end.
* `Heap.set_ok`: a store that succeeds writes one item of one list.
-/
namespace MatrixLang.Script

open Run

/-! ### Reading indices -/

/-- The value an index reads on a machine. -/
def Index.read (m : Machine) : Index → Value
  | .lit v _ => .int v
  | .name n _ => m.lookup n

/-- The ends a slice reads on a machine, an end left out being nothing. -/
def Slice.range (m : Machine) : Slice → Value × Value
  | .both _ b e _ => (b.read m, e.read m)
  | .upTo _ e _ => (.none, e.read m)
  | .onwards _ b _ => (b.read m, .none)

theorem Index.eval_run (i : Index) (m : Machine) : i.eval.run m = .ok (i.read m) m := by
  cases i <;> rfl

theorem Slice.ends_run (s : Slice) (m : Machine) : s.ends.run m = .ok (s.id, s.range m) m := by
  cases s <;> simp only [Slice.ends, EStateM.run_bind, Index.eval_run, EStateM.run_pure] <;> rfl

theorem Run.lift_run {α : Type} (e : Except OpError α) (m : Machine) :
    (Run.lift e).run m = match e with
      | .ok a => .ok a m
      | .error e => .error (.raised (.op e)) m := rfl

theorem Run.lift_keeps {α : Type} {e : Except OpError α} {m m' : Machine} {a : α}
    (ran : (Run.lift e).run m = .ok a m') : m' = m := by
  cases e <;> cases ran
  rfl

theorem store_run (c i x : Value) (m : Machine) :
    (store c i x).run m = match m.heap.set c i x with
      | .ok h => .ok () { m with heap := h }
      | .error e => .error (.raised (.op e)) m := rfl

/-- Where a slice stops is read off the list, which stays as it was. -/
theorem sliceStop_keeps {c stop v : Value} {m m' : Machine}
    (ran : (sliceStop c stop).run m = .ok v m') : m' = m := by
  unfold sliceStop at ran
  split at ran
  · obtain ⟨_, m₁, got, ran⟩ := EStateM.bind_ok ran
    cases got
    obtain ⟨_, m₂, length, ran⟩ := EStateM.bind_ok ran
    cases ran
    exact Run.lift_keeps length
  · cases ran
    rfl

/-! ### The runs of reads and writes -/

theorem Element.single_run (id : String) (r : Index) (l : Nat) (m : Machine) :
    (Element.single id r l).eval.run m = match m.heap.get (m.lookup id) (r.read m) with
      | .ok y => .ok y m
      | .error e => .error (.raised (.op e)) m := by
  simp only [Element.eval, EStateM.run_bind, Index.eval_run, Run.lookup, EStateM.run_get,
    EStateM.run_pure, Run.lift_run]
  cases m.heap.get (m.lookup id) (r.read m) <;> rfl

theorem Element.pair_run (id : String) (r c : Index) (l : Nat) (m : Machine) :
    (Element.pair id r c l).eval.run m = match m.heap.get (m.lookup id) (r.read m) with
      | .ok row => match m.heap.get row (c.read m) with
        | .ok y => .ok y m
        | .error e => .error (.raised (.op e)) m
      | .error e => .error (.raised (.op e)) m := by
  simp only [Element.eval, EStateM.run_bind, Index.eval_run, Run.lookup, EStateM.run_get,
    EStateM.run_pure, Run.lift_run]
  cases m.heap.get (m.lookup id) (r.read m) with
  | error e => rfl
  | ok row =>
    dsimp only
    cases m.heap.get row (c.read m) <;> rfl

theorem Assign.single_run (id : String) (r : Index) (v : Expr) (l₁ l : Nat) (m : Machine) :
    (Assign.declare (.element (.single id r l₁)) v l).exec.run m =
      match v.eval.run m with
      | .ok x m₁ => match m₁.heap.set (m.lookup id) (r.read m) x with
        | .ok h => .ok () ({ m₁ with heap := h }.assign id (m.lookup id))
        | .error e => .error (.raised (.op e)) m₁
      | .error f m₁ => .error f m₁ := by
  simp only [Assign.exec, EStateM.run_bind, Index.eval_run, Run.lookup, EStateM.run_get,
    EStateM.run_pure]
  cases v.eval.run m with
  | error f m₁ => rfl
  | ok x m₁ =>
    simp only [store_run]
    cases m₁.heap.set (m.lookup id) (r.read m) x <;> rfl

theorem Assign.pair_run (id : String) (r c : Index) (v : Expr) (l₁ l : Nat) (m : Machine) :
    (Assign.declare (.element (.pair id r c l₁)) v l).exec.run m =
      match v.eval.run m with
      | .ok x m₁ => match m₁.heap.get (m.lookup id) (r.read m) with
        | .ok row => match m₁.heap.set row (c.read m) x with
          | .ok h => .ok () ({ m₁ with heap := h }.assign id (m.lookup id))
          | .error e => .error (.raised (.op e)) m₁
        | .error e => .error (.raised (.op e)) m₁
      | .error f m₁ => .error f m₁ := by
  simp only [Assign.exec, EStateM.run_bind, Index.eval_run, Run.lookup, EStateM.run_get,
    EStateM.run_pure]
  cases v.eval.run m with
  | error f m₁ => rfl
  | ok x m₁ =>
    simp only [Run.lift_run]
    cases m₁.heap.get (m.lookup id) (r.read m) with
    | error e => rfl
    | ok row =>
      simp only [store_run]
      cases m₁.heap.set row (c.read m) x <;> rfl

theorem Assign.slice_run (s : Slice) (v : Expr) (l : Nat) (m : Machine) :
    (Assign.declare (.slice s) v l).exec.run m =
      match v.eval.run m with
      | .ok x m₁ => match (fillSlice (m.lookup s.id) x (s.range m).1 (s.range m).2).run m₁ with
        | .ok _ m₂ => .ok () (m₂.assign s.id (m.lookup s.id))
        | .error f m₂ => .error f m₂
      | .error f m₁ => .error f m₁ := by
  simp only [Assign.exec, EStateM.run_bind, Slice.ends_run, Run.lookup, EStateM.run_get,
    EStateM.run_pure]
  cases v.eval.run m with
  | error f m₁ => rfl
  | ok x m₁ =>
    dsimp only
    cases (fillSlice (m.lookup s.id) x (s.range m).1 (s.range m).2).run m₁ <;> rfl

/-! ### Positions -/

/-- An index names a place in a list of `n` items exactly when `-n ≤ i < n`: the place `i`, or
`i + n` when `i` is negative. -/
theorem Heap.position_eq_some {n : Nat} {i : Int} {p : Nat} :
    Heap.position n i = some p ↔
      -(n : Int) ≤ i ∧ i < n ∧ (p : Int) = if i < 0 then i + n else i := by
  unfold Heap.position
  by_cases neg : i < 0
  · simp only [neg, if_true]
    split <;> simp <;> omega
  · simp only [neg, if_false]
    split <;> simp <;> omega

theorem Heap.position_eq_none {n : Nat} {i : Int} :
    Heap.position n i = none ↔ i < -(n : Int) ∨ n ≤ i := by
  unfold Heap.position
  by_cases neg : i < 0
  · simp only [neg, if_true]
    split <;> simp <;> omega
  · simp only [neg, if_false]
    split <;> simp <;> omega

theorem Heap.position_lt {n : Nat} {i : Int} {p : Nat} (placed : Heap.position n i = some p) :
    p < n := by
  have := Heap.position_eq_some.1 placed
  omega

/-! ### Stores -/

@[simp] theorem Heap.size_store (h : Heap) (r : Nat) (a : Array Value) :
    (h.store r a).cells.size = h.cells.size := by
  simp [Heap.store]

theorem Heap.items_store_ne {h : Heap} {r r' : Nat} (a : Array Value) (other : r' ≠ r) :
    (h.store r a).items r' = h.items r' := by
  simp [Heap.store, Heap.items, Ne.symm other]

theorem Heap.items_store_self {h : Heap} {r : Nat} (a : Array Value) (valid : r < h.cells.size) :
    (h.store r a).items r = a := by
  simp [Heap.store, Heap.items, valid]

/-- A list with items is on the heap. -/
theorem Heap.valid_of_items {h : Heap} {q : Nat} (nonempty : 0 < (h.items q).size) :
    q < h.cells.size := by
  by_contra outside
  simp [Heap.items, outside] at nonempty

/-- Writing an item of a list leaves the list as long as it was. -/
theorem Heap.size_items_store_self (h : Heap) (q p : Nat) (x : Value) :
    ((h.store q ((h.items q).setIfInBounds p x)).items q).size = (h.items q).size := by
  by_cases valid : q < h.cells.size
  · simp [Heap.items_store_self _ valid]
  · simp [Heap.store, Heap.items, valid]

/-- Whatever the container, a write that succeeds stores an item of a list at a place it has. -/
theorem Heap.set_ok {h h' : Heap} {c i x : Value} (stored : h.set c i x = .ok h') :
    ∃ r p, c = .list r ∧ p < (h.items r).size ∧ h' = h.store r ((h.items r).setIfInBounds p x) := by
  unfold Heap.set at stored
  split at stored
  next r =>
    split at stored
    next k _ =>
      split at stored
      · cases stored
      · split at stored
        next p placed => cases stored; exact ⟨r, p, rfl, Heap.position_lt placed, rfl⟩
        next => cases stored
    next => cases stored
  next => split at stored <;> (try split at stored) <;> cases stored
  next => cases stored

end MatrixLang.Script
