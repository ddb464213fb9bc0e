import MatrixLang.Proofs.Writes

/-!
# Indices count from the end, and slice writes stop partway

A list of `n` items takes the indices `-n ≤ i < n`: a negative index counts from the end, so
`A[-1]` is the last item. Any other index is refused with an index error.

A read `A[i]` or `A[i, j]` and an element write `A[i] = e` or `A[i, j] = e` are refused whole:
a read changes nothing, and an element write stores nothing before its indices pass. A slice
write `A[b:c] = e` is a loop of element writes over the indices `b, b + 1, …, c - 1`, an end left
out being `0` or the length of the list. It stores in order and is refused at the first index
outside the list, with the stores before it made.

## Main results

* `Heap.Filled`: the heap after a value is stored at a run of indices of one list.
* `fill_list`: the loop of stores, in closed form: where it stops, what it wrote, how it ends.
* `indexing_counts_from_end`: the index law of reads, element writes and slice writes.
* `Program.negative_index_and_partial_slice_write`: `A[i]` with `i = 0 - 1` reads the last item,
  and `A[1:5] = 0` on `[1, 2, 3]` is refused with `A` reading `[1, 0, 0]`.

## Proof strategy

Each access is one equation over `Heap.get` or `Heap.set` (`MatrixLang.Proofs.Writes`); on a
list those two follow `Heap.position`. The loop of a slice write is taken apart one store at a
time: `Heap.reach` says where it stops, and `Heap.Filled.cons` adds one store to what the rest
of the loop wrote.
-/
namespace MatrixLang.Script

open Run

/-! ### Reading and writing an item -/

/-- An index inside a list that is no longer than the largest machine integer is one. -/
theorem indexSized_of_position {n : Nat} {i : Int} {p : Nat} (small : n ≤ maxIndex)
    (placed : Heap.position n i = some p) : indexSized i = true := by
  have inside := Heap.position_eq_some.1 placed
  simp only [indexSized, Bool.and_eq_true, decide_eq_true_eq]
  omega

theorem Heap.get_list {h : Heap} {q : Nat} {i : Int} {p : Nat}
    (small : (h.items q).size ≤ maxIndex) (placed : Heap.position (h.items q).size i = some p) :
    h.get (.list q) (.int i) = .ok ((h.items q)[p]?.getD .none) := by
  simp [Heap.get, Value.index?, indexSized_of_position small placed, placed]

theorem Heap.get_list_outside {h : Heap} {q : Nat} {i : Int}
    (outside : Heap.position (h.items q).size i = none) :
    ∃ msg, h.get (.list q) (.int i) = .error (.index msg) := by
  unfold Heap.get
  simp only [Value.index?]
  split
  · exact ⟨_, rfl⟩
  · exact ⟨"list index out of range", by simp [outside]⟩

theorem Heap.set_list {h : Heap} {q : Nat} {i : Int} {p : Nat} (x : Value)
    (small : (h.items q).size ≤ maxIndex) (placed : Heap.position (h.items q).size i = some p) :
    h.set (.list q) (.int i) x = .ok (h.store q ((h.items q).setIfInBounds p x)) := by
  simp [Heap.set, Value.index?, indexSized_of_position small placed, placed]

theorem Heap.set_list_outside {h : Heap} {q : Nat} {i : Int} (x : Value)
    (outside : Heap.position (h.items q).size i = none) :
    ∃ msg, h.set (.list q) (.int i) x = .error (.index msg) := by
  unfold Heap.set
  simp only [Value.index?]
  split
  · exact ⟨_, rfl⟩
  · exact ⟨"list assignment index out of range", by simp [outside]⟩

/-! ### Element reads and writes -/

/-- A read `A[i]` of a list, the index a whole number: the item at the place the index names,
counted from the end when negative, or an index error when the index is outside the list; the
machine is as it was either way. -/
theorem Element.single_reads {id : String} {r : Index} {l : Nat} {m : Machine} {q : Nat} {i : Int}
    (names : m.lookup id = .list q) (indexed : r.read m = .int i)
    (small : (m.heap.items q).size ≤ maxIndex) :
    (∀ p, Heap.position (m.heap.items q).size i = some p →
      (Element.single id r l).eval.run m = .ok ((m.heap.items q)[p]?.getD .none) m) ∧
    (Heap.position (m.heap.items q).size i = none → ∃ msg,
      (Element.single id r l).eval.run m = .error (.raised (.op (.index msg))) m) := by
  refine ⟨fun p placed => ?_, fun outside => ?_⟩
  · simp only [Element.single_run, names, indexed, Heap.get_list small placed]
  · obtain ⟨msg, refused⟩ := Heap.get_list_outside (h := m.heap) (i := i) outside
    exact ⟨msg, by simp only [Element.single_run, names, indexed, refused]⟩

/-- A read `A[i, j]`: the row `A[i]` by the rule of `A[i]`, then its item `j` by the same rule. -/
theorem Element.pair_reads {id : String} {r c : Index} {l : Nat} {m : Machine} {q : Nat}
    {i j : Int} (names : m.lookup id = .list q) (indexed : r.read m = .int i)
    (column : c.read m = .int j) (small : (m.heap.items q).size ≤ maxIndex) :
    (∀ p q', Heap.position (m.heap.items q).size i = some p →
      (m.heap.items q)[p]?.getD .none = .list q' → (m.heap.items q').size ≤ maxIndex →
      (∀ p', Heap.position (m.heap.items q').size j = some p' →
        (Element.pair id r c l).eval.run m = .ok ((m.heap.items q')[p']?.getD .none) m) ∧
      (Heap.position (m.heap.items q').size j = none → ∃ msg,
        (Element.pair id r c l).eval.run m = .error (.raised (.op (.index msg))) m)) ∧
    (Heap.position (m.heap.items q).size i = none → ∃ msg,
      (Element.pair id r c l).eval.run m = .error (.raised (.op (.index msg))) m) := by
  refine ⟨fun p q' placed row small' => ⟨fun p' placed' => ?_, fun outside => ?_⟩, fun outside => ?_⟩
  · simp only [Element.pair_run, names, indexed, column, Heap.get_list small placed, row,
      Heap.get_list small' placed']
  · obtain ⟨msg, refused⟩ := Heap.get_list_outside (h := m.heap) (i := j) outside
    exact ⟨msg, by simp only [Element.pair_run, names, indexed, column, Heap.get_list small placed,
      row, refused]⟩
  · obtain ⟨msg, refused⟩ := Heap.get_list_outside (h := m.heap) (i := i) outside
    exact ⟨msg, by simp only [Element.pair_run, names, indexed, refused]⟩

/-- A read of an element, whatever its indices and container, leaves the machine as it was. -/
theorem Element.eval_keeps (e : Element) (m : Machine) :
    (∀ {v m'}, e.eval.run m = .ok v m' → m' = m) ∧
      (∀ {f m'}, e.eval.run m = .error f m' → m' = m) := by
  cases e with
  | single id r l =>
    rw [Element.single_run]
    split <;> exact ⟨fun ran => (by cases ran <;> rfl), fun ran => (by cases ran <;> rfl)⟩
  | pair id r c l =>
    rw [Element.pair_run]
    split
    · split <;> exact ⟨fun ran => (by cases ran <;> rfl), fun ran => (by cases ran <;> rfl)⟩
    · exact ⟨fun ran => (by cases ran), fun ran => (by cases ran; rfl)⟩

/-- An element write `A[i] = e` on a list, the index a whole number: the value is evaluated, and
then the item at the place the index names, counted from the end when negative, is written and
`A` given its list again; an index outside the list raises an index error with nothing written. -/
theorem Assign.single_stores {id : String} {r : Index} {v : Expr} {l₁ l : Nat} {m m₁ : Machine}
    {q : Nat} {x : Value} {i : Int} (names : m.lookup id = .list q) (indexed : r.read m = .int i)
    (evaluated : v.eval.run m = .ok x m₁) (small : (m₁.heap.items q).size ≤ maxIndex) :
    (∀ p, Heap.position (m₁.heap.items q).size i = some p →
      (Assign.declare (.element (.single id r l₁)) v l).exec.run m =
        .ok () ({ m₁ with heap := m₁.heap.store q ((m₁.heap.items q).setIfInBounds p x) }.assign id
          (.list q))) ∧
    (Heap.position (m₁.heap.items q).size i = none → ∃ msg,
      (Assign.declare (.element (.single id r l₁)) v l).exec.run m =
        .error (.raised (.op (.index msg))) m₁) := by
  refine ⟨fun p placed => ?_, fun outside => ?_⟩
  · simp only [Assign.single_run, evaluated, names, indexed, Heap.set_list x small placed]
  · obtain ⟨msg, refused⟩ := Heap.set_list_outside (h := m₁.heap) x outside
    exact ⟨msg, by simp only [Assign.single_run, evaluated, names, indexed, refused]⟩

/-- An element write `A[i, j] = e`: after the value, the row `A[i]` is read by the rule of reads
and its item `j` written by the rule of `A[i] = e`. -/
theorem Assign.pair_stores {id : String} {r c : Index} {v : Expr} {l₁ l : Nat} {m m₁ : Machine}
    {q : Nat} {x : Value} {i j : Int} (names : m.lookup id = .list q) (indexed : r.read m = .int i)
    (column : c.read m = .int j) (evaluated : v.eval.run m = .ok x m₁)
    (small : (m₁.heap.items q).size ≤ maxIndex) :
    (∀ p q', Heap.position (m₁.heap.items q).size i = some p →
      (m₁.heap.items q)[p]?.getD .none = .list q' → (m₁.heap.items q').size ≤ maxIndex →
      (∀ p', Heap.position (m₁.heap.items q').size j = some p' →
        (Assign.declare (.element (.pair id r c l₁)) v l).exec.run m =
          .ok () ({ m₁ with heap := m₁.heap.store q' ((m₁.heap.items q').setIfInBounds p' x) }.assign
            id (.list q))) ∧
      (Heap.position (m₁.heap.items q').size j = none → ∃ msg,
        (Assign.declare (.element (.pair id r c l₁)) v l).exec.run m =
          .error (.raised (.op (.index msg))) m₁)) ∧
    (Heap.position (m₁.heap.items q).size i = none → ∃ msg,
      (Assign.declare (.element (.pair id r c l₁)) v l).exec.run m =
        .error (.raised (.op (.index msg))) m₁) := by
  refine ⟨fun p q' placed row small' => ⟨fun p' placed' => ?_, fun outside => ?_⟩, fun outside => ?_⟩
  · simp only [Assign.pair_run, evaluated, names, indexed, column, Heap.get_list small placed, row,
      Heap.set_list x small' placed']
  · obtain ⟨msg, refused⟩ := Heap.set_list_outside (h := m₁.heap) x outside
    exact ⟨msg, by simp only [Assign.pair_run, evaluated, names, indexed, column,
      Heap.get_list small placed, row, refused]⟩
  · obtain ⟨msg, refused⟩ := Heap.get_list_outside (h := m₁.heap) (i := i) outside
    exact ⟨msg, by simp only [Assign.pair_run, evaluated, names, indexed, refused]⟩

/-- An element write whose value assigns nothing and that stops leaves the frames as they were
and every list that was there with its items: nothing is written before the write's checks pass. -/
theorem Assign.element_stops {e : Element} {v : Expr} {l : Nat} {m m' : Machine} {f : Fault}
    (reads : v.readOnly = true)
    (stopped : (Assign.declare (.element e) v l).exec.run m = .error f m') :
    m'.frames = m.frames ∧ m.heap.Extends m'.heap := by
  cases evaluated : v.eval.run m with
  | error g m₁ =>
    -- the value stopped: its own machine is the write's
    cases e <;> simp only [Assign.single_run, Assign.pair_run, evaluated] at stopped <;>
      cases stopped <;> exact (v.eval_reads reads).stopped evaluated
  | ok x m₁ =>
    -- a refused read of the row or store leaves the machine the value left
    suffices left : m' = m₁ from left ▸ (v.eval_reads reads).ended evaluated
    cases e with
    | single id r l₁ =>
      rw [Assign.single_run, evaluated] at stopped
      dsimp only at stopped
      split at stopped
      next => cases stopped
      next => cases stopped; rfl
    | pair id r c l₁ =>
      rw [Assign.pair_run, evaluated] at stopped
      dsimp only at stopped
      split at stopped
      next =>
        split at stopped
        next => cases stopped
        next => cases stopped; rfl
      next => cases stopped; rfl

/-! ### The loop of a slice write -/

/-- Where storing from the index `lo` toward `hi` in a list of `n` items stops: at `hi`; at the
first index past the list, `n`; or at once, when `lo` is below `-n`. -/
def Heap.reach (n : Nat) (lo hi : Int) : Int := if -(n : Int) ≤ lo then max lo (min hi n) else lo

/-- `h'` is `h` after `x` is stored at the indices `lo, …, stop - 1` of the list `q`, each counted
from the end when negative: the items those indices reach hold `x`, and every other item, and
every other list, is as it was. -/
structure Heap.Filled (q : Nat) (x : Value) (lo stop : Int) (h h' : Heap) : Prop where
  size : h'.cells.size = h.cells.size
  others : ∀ r, r ≠ q → h'.items r = h.items r
  length : (h'.items q).size = (h.items q).size
  written : ∀ i p, lo ≤ i → i < stop → Heap.position (h.items q).size i = some p →
    (h'.items q)[p]? = some x
  kept : ∀ p, (∀ i, lo ≤ i → i < stop → Heap.position (h.items q).size i ≠ some p) →
    (h'.items q)[p]? = (h.items q)[p]?

/-- Storing at no index changes nothing. -/
theorem Heap.Filled.none {q : Nat} {x : Value} {lo stop : Int} (h : Heap) (empty : stop ≤ lo) :
    Heap.Filled q x lo stop h h where
  size := rfl
  others _ _ := rfl
  length := rfl
  written _ _ low high _ := absurd (Int.lt_of_le_of_lt low high) (by omega)
  kept _ _ := rfl

/-- A store at the first index, then the stores at the rest. -/
theorem Heap.Filled.cons {q : Nat} {x : Value} {lo stop : Int} {p : Nat} {h h' : Heap}
    (placed : Heap.position (h.items q).size lo = some p) (below : lo < stop)
    (rest : Heap.Filled q x (lo + 1) stop (h.store q ((h.items q).setIfInBounds p x)) h') :
    Heap.Filled q x lo stop h h' := by
  have inside : p < (h.items q).size := Heap.position_lt placed
  have valid : q < h.cells.size := Heap.valid_of_items (by omega)
  have first : (h.store q ((h.items q).setIfInBounds p x)).items q =
      (h.items q).setIfInBounds p x := Heap.items_store_self _ valid
  have length : ((h.items q).setIfInBounds p x).size = (h.items q).size := by simp
  obtain ⟨size₁, others₁, length₁, written₁, kept₁⟩ := rest
  rw [first, length] at written₁ kept₁
  rw [first] at length₁
  refine ⟨by rw [size₁, Heap.size_store], fun r other => ?_, by rw [length₁, length], ?_, ?_⟩
  · rw [others₁ r other, Heap.items_store_ne _ other]
  · intro i p' low high placed'
    rcases Int.lt_or_eq_of_le low with later | rfl
    · exact written₁ i p' (by omega) high placed'
    · -- the first store writes `x` at `p`; a later one can only write `x` there again
      rw [placed] at placed'
      cases placed'
      by_cases again : ∃ i, lo + 1 ≤ i ∧ i < stop ∧ Heap.position (h.items q).size i = some p
      · obtain ⟨i, low', high', placed''⟩ := again
        exact written₁ i p low' high' placed''
      · rw [kept₁ p fun i low' high' placed'' => again ⟨i, low', high', placed''⟩]
        simp [inside]
  · intro p' missed
    rw [kept₁ p' fun i low' high' => missed i (by omega) high']
    have other : p ≠ p' := fun same => missed lo (Int.le_refl lo) below (same ▸ placed)
    simp [other]

theorem Heap.reach_self (n : Nat) (lo : Int) : Heap.reach n lo lo = lo := by
  unfold Heap.reach
  split <;> omega

/-- From an index inside the list the stores go on to the next index, and stop where they did. -/
theorem Heap.reach_step {n : Nat} {lo : Int} (hi : Int) (inside : -(n : Int) ≤ lo ∧ lo < n)
    (ahead : lo < hi) : Heap.reach n (lo + 1) hi = Heap.reach n lo hi ∧ lo < Heap.reach n lo hi := by
  unfold Heap.reach
  split <;> split <;> omega

/-- From an index outside the list nothing is stored. -/
theorem Heap.reach_outside {n : Nat} {lo : Int} (outside : lo < -(n : Int) ∨ n ≤ lo) (hi : Int) :
    Heap.reach n lo hi = lo := by
  unfold Heap.reach
  split <;> omega

theorem Heap.reach_max (n : Nat) (lo hi : Int) :
    Heap.reach n lo (lo + ↑(hi - lo).toNat) = Heap.reach n lo hi := by
  unfold Heap.reach
  split <;> omega

theorem Heap.le_reach (n : Nat) (lo hi : Int) : lo ≤ Heap.reach n lo hi := by
  unfold Heap.reach
  split <;> omega

/-- Storing `x` at `count` indices of the list `q` from `lo` on: the stores go in order and stop
at the first index outside the list. If there is none, the write ends with the `count` indices
written; if there is one, it raises an index error with the stores before it made. -/
theorem fill_list (q : Nat) (x : Value) : (count : Nat) → (lo : Int) → (m : Machine) →
    (m.heap.items q).size ≤ maxIndex →
    ∃ h', Heap.Filled q x lo (Heap.reach (m.heap.items q).size lo (lo + count)) m.heap h' ∧
      ((lo + count ≤ Heap.reach (m.heap.items q).size lo (lo + count) ∧
          (fill (.list q) x count lo).run m = .ok () { m with heap := h' }) ∨
        (Heap.reach (m.heap.items q).size lo (lo + count) < lo + count ∧ ∃ msg,
          (fill (.list q) x count lo).run m =
            .error (.raised (.op (.index msg))) { m with heap := h' }))
  | 0, lo, m, _ => by
    rw [Int.natCast_zero, Int.add_zero, Heap.reach_self]
    exact ⟨m.heap, .none _ (Int.le_refl lo), .inl ⟨Int.le_refl lo, rfl⟩⟩
  | count + 1, lo, m, small => by
    by_cases inside : -((m.heap.items q).size : Int) ≤ lo ∧ lo < (m.heap.items q).size
    · obtain ⟨p, placed⟩ : ∃ p, Heap.position (m.heap.items q).size lo = some p :=
        ⟨(if lo < 0 then lo + (m.heap.items q).size else lo).toNat,
          Heap.position_eq_some.2 ⟨inside.1, inside.2, by split <;> omega⟩⟩
      have same : ((m.heap.store q ((m.heap.items q).setIfInBounds p x)).items q).size =
          (m.heap.items q).size := Heap.size_items_store_self _ _ _ _
      -- the rest of the loop runs from the next index on the heap with the first store made
      obtain ⟨h', filled, ended⟩ := fill_list q x count (lo + 1)
        { m with heap := m.heap.store q ((m.heap.items q).setIfInBounds p x) } (same ▸ small)
      obtain ⟨onward, ahead⟩ := Heap.reach_step (lo + ↑(count + 1)) inside (by omega)
      have ends : lo + 1 + ↑count = lo + ↑(count + 1) := by omega
      simp only [same, ends, onward] at filled ended
      have step : (fill (.list q) x (count + 1) lo).run m =
          (fill (.list q) x count (lo + 1)).run
            { m with heap := m.heap.store q ((m.heap.items q).setIfInBounds p x) } := by
        simp only [fill, EStateM.run_bind, store_run, Heap.set_list x small placed]
      rw [step]
      exact ⟨h', .cons placed ahead filled, ended⟩
    · -- the first index is refused: nothing is stored
      have outside : Heap.position (m.heap.items q).size lo = none :=
        Heap.position_eq_none.2 (by omega)
      obtain ⟨msg, refused⟩ := Heap.set_list_outside (h := m.heap) x outside
      have stopped : (fill (.list q) x (count + 1) lo).run m =
          .error (.raised (.op (.index msg))) m := by
        simp only [fill, EStateM.run_bind, store_run, refused]
      rw [Heap.reach_outside (by omega)]
      exact ⟨m.heap, .none _ (Int.le_refl lo), .inr ⟨by omega, msg, stopped⟩⟩

/-! ### Slice writes -/

/-- The ends of a slice whose indices read as whole numbers, on a machine where its list has `n`
items: an end left out is `0` or `n`. -/
def Slice.ints (m : Machine) (n : Nat) : Slice → Option (Int × Int)
  | .both _ b e _ => match b.read m, e.read m with
    | .int lo, .int hi => some (lo, hi)
    | _, _ => none
  | .upTo _ e _ => match e.read m with
    | .int hi => some (0, hi)
    | _ => none
  | .onwards _ b _ => match b.read m with
    | .int lo => some (lo, n)
    | _ => none

/-- A slice write on a list whose ends read as whole numbers stores at the indices from the start
up to the end. -/
theorem fillSlice_ints {s : Slice} {q : Nat} {x : Value} {m m₁ : Machine} {lo hi : Int}
    (bounds : s.ints m (m₁.heap.items q).size = some (lo, hi)) :
    (fillSlice (.list q) x (s.range m).1 (s.range m).2).run m₁ =
      (fill (.list q) x (hi - lo).toNat lo).run m₁ := by
  cases s with
  | both id b e l =>
    simp only [Slice.ints] at bounds
    split at bounds
    next lo' hi' starts stops =>
      cases bounds
      simp only [Slice.range, starts, stops]
      rfl
    next => cases bounds
  | upTo id e l =>
    simp only [Slice.ints] at bounds
    split at bounds
    next hi' stops =>
      cases bounds
      simp only [Slice.range, stops]
      rfl
    next => cases bounds
  | onwards id b l =>
    simp only [Slice.ints] at bounds
    split at bounds
    next lo' starts =>
      cases bounds
      simp only [Slice.range, starts]
      rfl
    next => cases bounds

/-- A slice write `A[b:c] = e` on a list, its ends whole numbers: the value is evaluated, then
stored at the indices `b, b + 1, …` in turn, each counted from the end when negative, up to `c`
or the first index outside the list. If none is outside, the write ends and `A` is given its list
again; if one is, it raises an index error with the stores before it made. -/
theorem Assign.slice_fills {s : Slice} {v : Expr} {l : Nat} {m m₁ : Machine} {q : Nat} {x : Value}
    {lo hi : Int} (names : m.lookup s.id = .list q) (evaluated : v.eval.run m = .ok x m₁)
    (bounds : s.ints m (m₁.heap.items q).size = some (lo, hi))
    (small : (m₁.heap.items q).size ≤ maxIndex) :
    ∃ h', Heap.Filled q x lo (Heap.reach (m₁.heap.items q).size lo hi) m₁.heap h' ∧
      ((hi ≤ Heap.reach (m₁.heap.items q).size lo hi ∧
          (Assign.declare (.slice s) v l).exec.run m =
            .ok () ({ m₁ with heap := h' }.assign s.id (.list q))) ∨
        (Heap.reach (m₁.heap.items q).size lo hi < hi ∧ ∃ msg,
          (Assign.declare (.slice s) v l).exec.run m =
            .error (.raised (.op (.index msg))) { m₁ with heap := h' })) := by
  obtain ⟨h', filled, ended⟩ := fill_list q x (hi - lo).toNat lo m₁ small
  have beyond := Heap.le_reach (m₁.heap.items q).size lo hi
  rw [Heap.reach_max] at filled ended
  refine ⟨h', filled, ?_⟩
  simp only [Assign.slice_run, evaluated, names, fillSlice_ints bounds]
  rcases ended with ⟨all, ran⟩ | ⟨short, msg, ran⟩
  · exact .inl ⟨by omega, by rw [ran]⟩
  · exact .inr ⟨by omega, msg, by rw [ran]⟩

/-! ### The index law -/

/-- Indexed access on lists: a list of `n` items takes the indices `-n ≤ i < n`, a negative one
counting from the end. Element reads and writes read or write exactly the item the indices name,
or are refused with an index error; a read changes nothing, and a refused element write whose
value assigns nothing leaves every name and every list as it was. A slice write stores its value
at its indices in order and, refused at the first index outside the list, keeps the stores it
made before it. -/
theorem indexing_counts_from_end :
    (∀ (n : Nat) (i : Int) (p : Nat), Heap.position n i = some p ↔
      -(n : Int) ≤ i ∧ i < n ∧ (p : Int) = if i < 0 then i + n else i) ∧
    (∀ (id : String) (r : Index) (l : Nat) (m : Machine) (q : Nat) (i : Int),
      m.lookup id = .list q → r.read m = .int i → (m.heap.items q).size ≤ maxIndex →
      (∀ p, Heap.position (m.heap.items q).size i = some p →
        (Element.single id r l).eval.run m = .ok ((m.heap.items q)[p]?.getD .none) m) ∧
      (Heap.position (m.heap.items q).size i = none → ∃ msg,
        (Element.single id r l).eval.run m = .error (.raised (.op (.index msg))) m)) ∧
    (∀ (id : String) (r c : Index) (l : Nat) (m : Machine) (q : Nat) (i j : Int),
      m.lookup id = .list q → r.read m = .int i → c.read m = .int j →
      (m.heap.items q).size ≤ maxIndex →
      (∀ p q', Heap.position (m.heap.items q).size i = some p →
        (m.heap.items q)[p]?.getD .none = .list q' → (m.heap.items q').size ≤ maxIndex →
        (∀ p', Heap.position (m.heap.items q').size j = some p' →
          (Element.pair id r c l).eval.run m = .ok ((m.heap.items q')[p']?.getD .none) m) ∧
        (Heap.position (m.heap.items q').size j = none → ∃ msg,
          (Element.pair id r c l).eval.run m = .error (.raised (.op (.index msg))) m)) ∧
      (Heap.position (m.heap.items q).size i = none → ∃ msg,
        (Element.pair id r c l).eval.run m = .error (.raised (.op (.index msg))) m)) ∧
    (∀ (e : Element) (m : Machine), (∀ v m', e.eval.run m = .ok v m' → m' = m) ∧
      ∀ f m', e.eval.run m = .error f m' → m' = m) ∧
    (∀ (id : String) (r : Index) (v : Expr) (l₁ l : Nat) (m m₁ : Machine) (q : Nat) (x : Value)
      (i : Int), m.lookup id = .list q → r.read m = .int i → v.eval.run m = .ok x m₁ →
      (m₁.heap.items q).size ≤ maxIndex →
      (∀ p, Heap.position (m₁.heap.items q).size i = some p →
        (Assign.declare (.element (.single id r l₁)) v l).exec.run m =
          .ok () ({ m₁ with heap := m₁.heap.store q ((m₁.heap.items q).setIfInBounds p x) }.assign
            id (.list q))) ∧
      (Heap.position (m₁.heap.items q).size i = none → ∃ msg,
        (Assign.declare (.element (.single id r l₁)) v l).exec.run m =
          .error (.raised (.op (.index msg))) m₁)) ∧
    (∀ (id : String) (r c : Index) (v : Expr) (l₁ l : Nat) (m m₁ : Machine) (q : Nat) (x : Value)
      (i j : Int), m.lookup id = .list q → r.read m = .int i → c.read m = .int j →
      v.eval.run m = .ok x m₁ → (m₁.heap.items q).size ≤ maxIndex →
      (∀ p q', Heap.position (m₁.heap.items q).size i = some p →
        (m₁.heap.items q)[p]?.getD .none = .list q' → (m₁.heap.items q').size ≤ maxIndex →
        (∀ p', Heap.position (m₁.heap.items q').size j = some p' →
          (Assign.declare (.element (.pair id r c l₁)) v l).exec.run m =
            .ok () ({ m₁ with heap := m₁.heap.store q' ((m₁.heap.items q').setIfInBounds p' x) }.assign
              id (.list q))) ∧
        (Heap.position (m₁.heap.items q').size j = none → ∃ msg,
          (Assign.declare (.element (.pair id r c l₁)) v l).exec.run m =
            .error (.raised (.op (.index msg))) m₁)) ∧
      (Heap.position (m₁.heap.items q).size i = none → ∃ msg,
        (Assign.declare (.element (.pair id r c l₁)) v l).exec.run m =
          .error (.raised (.op (.index msg))) m₁)) ∧
    (∀ (e : Element) (v : Expr) (l : Nat) (m m' : Machine) (f : Fault), v.readOnly = true →
      (Assign.declare (.element e) v l).exec.run m = .error f m' →
      m'.frames = m.frames ∧ m.heap.Extends m'.heap) ∧
    (∀ (s : Slice) (v : Expr) (l : Nat) (m m₁ : Machine) (q : Nat) (x : Value) (lo hi : Int),
      m.lookup s.id = .list q → v.eval.run m = .ok x m₁ →
      s.ints m (m₁.heap.items q).size = some (lo, hi) → (m₁.heap.items q).size ≤ maxIndex →
      ∃ h', Heap.Filled q x lo (Heap.reach (m₁.heap.items q).size lo hi) m₁.heap h' ∧
        ((hi ≤ Heap.reach (m₁.heap.items q).size lo hi ∧
            (Assign.declare (.slice s) v l).exec.run m =
              .ok () ({ m₁ with heap := h' }.assign s.id (.list q))) ∨
          (Heap.reach (m₁.heap.items q).size lo hi < hi ∧ ∃ msg,
            (Assign.declare (.slice s) v l).exec.run m =
              .error (.raised (.op (.index msg))) { m₁ with heap := h' }))) :=
  ⟨fun _ _ _ => Heap.position_eq_some,
    fun _ _ _ _ _ _ names indexed small => Element.single_reads names indexed small,
    fun _ _ _ _ _ _ _ _ names indexed column small => Element.pair_reads names indexed column small,
    fun e m => ⟨fun _ _ => (e.eval_keeps m).1, fun _ _ => (e.eval_keeps m).2⟩,
    fun _ _ _ _ _ _ _ _ _ _ names indexed evaluated small =>
      Assign.single_stores names indexed evaluated small,
    fun _ _ _ _ _ _ _ _ _ _ _ _ names indexed column evaluated small =>
      Assign.pair_stores names indexed column evaluated small,
    fun _ _ _ _ _ _ reads stopped => Assign.element_stops reads stopped,
    fun _ _ _ _ _ _ _ _ _ names evaluated bounds small =>
      Assign.slice_fills names evaluated bounds small⟩

/-- The list `[1, 2, 3]` named `A`. -/
def threeItems : Machine :=
  { heap := { cells := #[#[.int 1, .int 2, .int 3]] }
    frames := [{ name := "global_memory", vars := [("A", .list 0)] }] }

/-- `A[1:5] = 0` on `[1, 2, 3]` stores at the indices `1` and `2` and is refused at `3`. -/
theorem slice_write_refused_past_end :
    ∃ h', Heap.Filled 0 (.int 0) 1 3 threeItems.heap h' ∧ ∃ msg,
      (Assign.declare (.slice (.both "A" (.lit 1 1) (.lit 5 1) 1)) (.atom (.int 0 1)) 1).exec.run
        threeItems = .error (.raised (.op (.index msg))) { threeItems with heap := h' } := by
  obtain ⟨h', filled, ended⟩ := indexing_counts_from_end.2.2.2.2.2.2.2
    (.both "A" (.lit 1 1) (.lit 5 1) 1) (.atom (.int 0 1)) 1 threeItems threeItems 0 (.int 0) 1 5
    rfl rfl rfl (by decide)
  have stops : Heap.reach (threeItems.heap.items 0).size 1 5 = 3 := by decide
  rw [stops] at filled ended
  rcases ended with ⟨past, -⟩ | ⟨-, msg, refused⟩
  · exact absurd past (by decide)
  · exact ⟨h', filled, msg, refused⟩

/-- `A = [1, 2, 3]; i = 0 - 1; x = A[i];` gives `x` the last item, `3`; and
`A = [1, 2, 3]; A[1:5] = 0;` is refused with an index error after writing `A[1]` and `A[2]`. -/
theorem Program.negative_index_and_partial_slice_write :
    (∃ m, Program.run [some (.assign (.declare (.var "A" 1) (.literal (.row ⟨[1, 2, 3], 1, 5⟩) 1) 1)),
        some (.assign (.declare (.var "i" 1)
          (.arith "-" (.atom (.int 0 1)) (.atom (.int 1 1)) 1) 1)),
        some (.assign (.declare (.var "x" 1) (.element (.single "A" (.name "i" 1) 1)) 1))] =
        .ok m ∧ m.lookup "x" = .int 3) ∧
    ∃ m, Program.run [some (.assign (.declare (.var "A" 1) (.literal (.row ⟨[1, 2, 3], 1, 5⟩) 1) 1)),
        some (.assign (.declare (.slice (.both "A" (.lit 1 1) (.lit 5 1) 1)) (.atom (.int 0 1)) 1))] =
        .error (.raised (.op (.index "list assignment index out of range")), m) ∧
      m.heap.dump (m.lookup "A") = .list [.int 1, .int 0, .int 0] := by
  -- the literal's items are made by a well-founded map, which plain rfl does not unfold
  refine ⟨Exists.intro ?first ⟨?reads, ?last⟩, Exists.intro ?second ⟨?refused, ?written⟩⟩
  case reads => with_unfolding_all rfl
  case last => with_unfolding_all rfl
  case refused => with_unfolding_all rfl
  case written => with_unfolding_all rfl

end MatrixLang.Script
