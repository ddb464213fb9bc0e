import MatrixLang.Proofs.Writes

/-!
# An element or slice write changes one list, seen through every alias

Lists are objects: a variable holds a list, not a copy of its items. `y = x` makes `y` hold the
list `x` holds, transposition and parentheses give their operand's list, a slice write stores one
value into several rows, and a row literal gives the same list each time it is met. An element or
slice write changes the items of the list it writes into, in place, and then gives the name it
wrote through the list that name held.

So such a write changes no variable: every name reads, after it, the value it read before, a list
being the same list. What changes is the items of one list, the list `A` names (for `A[i, j]`,
the row `A[i]`), and every name whose value is or holds that list sees the change.

## Main results

* `Heap.WritesOnly`: a heap change that adds lists and changes the items of one list at most.
* `indexed_write_changes_one_list`: an element or slice write whose value assigns nothing, when it
  ends, leaves every name reading what it read and changes the items of the list it writes into
  alone.
* `Program.alias_sees_element_write`: after `x = [1, 2]; y = x; x[0] = 5;`, `y` reads `[5, 2]`.

## Proof strategy

The run of each write is one equation (`MatrixLang.Proofs.Writes`). Its value only reads the
frames and adds lists (`Expr.eval_reads`); each store that succeeds writes one item of the list
written into (`Heap.set_ok`); and assigning a name the value it reads changes no lookup
(`Machine.lookup_assign_lookup`).
-/
namespace MatrixLang.Script

/-! ### Heap changes confined to one list -/

/-- `h'` is `h` with lists added and perhaps the items of the list `c` changed: every other list
that was there keeps its items. -/
structure Heap.WritesOnly (c : Value) (h h' : Heap) : Prop where
  size : h.cells.size ≤ h'.cells.size
  changed : ∀ r, r < h.cells.size → h'.items r ≠ h.items r → c = .list r

namespace Heap.WritesOnly

variable {c : Value} {h h₁ h₂ : Heap}

theorem of_extends (grown : h.Extends h₁) (c : Value) : Heap.WritesOnly c h h₁ where
  size := grown.size_le
  changed _ valid differ := absurd (grown.items valid) differ

theorem trans (first : Heap.WritesOnly c h h₁) (second : Heap.WritesOnly c h₁ h₂) :
    Heap.WritesOnly c h h₂ where
  size := Nat.le_trans first.size second.size
  changed r valid differ := by
    by_cases same : h₁.items r = h.items r
    · exact second.changed r (Nat.lt_of_lt_of_le valid first.size) (same ▸ differ)
    · exact first.changed r valid same

theorem store {r : Nat} (named : c = .list r) (h : Heap) (a : Array Value) :
    Heap.WritesOnly c h (h.store r a) where
  size := by simp
  changed r' _ differ := by
    by_cases same : r' = r
    · rw [same, named]
    · exact absurd (Heap.items_store_ne a same) differ

end Heap.WritesOnly

/-- An element store that ends changes at most the list it stores into. -/
theorem store_writesOnly {c i x : Value} {m m' : Machine} (ran : (store c i x).run m = .ok () m') :
    m'.frames = m.frames ∧ Heap.WritesOnly c m.heap m'.heap := by
  rw [store_run] at ran
  split at ran
  next h' stored =>
    cases ran
    obtain ⟨r, p, named, -, rfl⟩ := Heap.set_ok stored
    exact ⟨rfl, .store named _ _⟩
  next => cases ran

theorem fill_writesOnly {c x : Value} : (count : Nat) → (lo : Int) → {m m' : Machine} →
    (fill c x count lo).run m = .ok () m' → m'.frames = m.frames ∧ Heap.WritesOnly c m.heap m'.heap
  | 0, _, _, _, ran => by
    cases ran
    exact ⟨rfl, .of_extends (.refl _) c⟩
  | count + 1, lo, m, m', ran => by
    obtain ⟨_, m₁, stored, rest⟩ := EStateM.bind_ok ran
    obtain ⟨same₁, wrote₁⟩ := store_writesOnly stored
    obtain ⟨same₂, wrote₂⟩ := fill_writesOnly count (lo + 1) rest
    exact ⟨same₂.trans same₁, wrote₁.trans wrote₂⟩

/-- A slice store that ends changes at most the list it stores into: all its stores go there. -/
theorem fillSlice_writesOnly {c x start stop : Value} {m m' : Machine}
    (ran : (fillSlice c x start stop).run m = .ok () m') :
    m'.frames = m.frames ∧ Heap.WritesOnly c m.heap m'.heap := by
  dsimp only [fillSlice] at ran
  obtain ⟨_, m₁, stopped, ran⟩ := EStateM.bind_ok ran
  obtain ⟨_, m₂, low, ran⟩ := EStateM.bind_ok ran
  obtain ⟨_, m₃, high, ran⟩ := EStateM.bind_ok ran
  rw [Run.lift_keeps high, Run.lift_keeps low, sliceStop_keeps stopped] at ran
  exact fill_writesOnly _ _ ran

/-- Reading an item of a list depends on nothing but the list's items. -/
theorem Heap.get_list_congr {h h' : Heap} {q : Nat} (same : h'.items q = h.items q) (i : Value) :
    h'.get (.list q) i = h.get (.list q) i := by
  simp [Heap.get, same]

/-! ### Names after a write -/

/-- Assigning a name leaves the others reading what they read. -/
theorem Machine.lookup_assign_ne (m : Machine) {n y : String} (v : Value) (other : y ≠ n) :
    (m.assign n v).lookup y = m.lookup y := by
  have kept : ∀ f : Frame, (if f.has n then f.put n v else f).has y = f.has y :=
    fun f => (f.written n v).has y
  have read : ∀ f : Frame, (if f.has n then f.put n v else f).vars.lookup y = f.vars.lookup y :=
    fun f => by simp [(f.written n v).lookup y, other]
  simp only [Machine.assign, Machine.lookup, List.find?_map, Function.comp_def, kept]
  cases m.frames.find? (·.has y) <;> simp [read]

/-- Assigning a name the value it reads changes what no name reads: the frames that have it are
given the innermost one's value, which is what a lookup finds anyway. -/
theorem Machine.lookup_assign_lookup (m : Machine) (n y : String) :
    (m.assign n (m.lookup n)).lookup y = m.lookup y := by
  by_cases same : y = n
  · subst same
    by_cases binds : m.frames.any (·.has y) = true
    · exact Machine.lookup_assign_of_binds binds _
    · -- no frame has the name, so the assignment writes nothing
      have unbound : ∀ f ∈ m.frames, f.has y = false := by simpa using binds
      have untouched : m.assign y (m.lookup y) = m := by
        cases m
        simp only [Machine.assign, Machine.mk.injEq, and_true, true_and]
        exact (List.map_congr_left fun f member => by simp [unbound f member]).trans (List.map_id _)
      rw [untouched]
  · exact m.lookup_assign_ne _ same

/-- After the value and the store, the name written through is given again the list it read: no
name reads anything new, and the heap is as the store left it. -/
theorem Machine.rebind_keeps {m : Machine} (m₁ : Machine) {c : Value} (id : String)
    (same : m₁.frames = m.frames) (wrote : Heap.WritesOnly c m.heap m₁.heap) :
    (∀ y, (m₁.assign id (m.lookup id)).lookup y = m.lookup y) ∧
      Heap.WritesOnly c m.heap (m₁.assign id (m.lookup id)).heap := by
  have reads : m₁.lookup id = m.lookup id := Machine.lookup_congr same id
  refine ⟨fun y => ?_, wrote⟩
  rw [← reads, Machine.lookup_assign_lookup, Machine.lookup_congr same]

/-! ### The three writes -/

section Writes

variable {v : Expr} {l : Nat} {m m' : Machine}

theorem Assign.single_writes {id : String} {r : Index} {l₁ : Nat} (reads : v.readOnly = true)
    (ran : (Assign.declare (.element (.single id r l₁)) v l).exec.run m = .ok () m') :
    (∀ y, m'.lookup y = m.lookup y) ∧ Heap.WritesOnly (m.lookup id) m.heap m'.heap := by
  rw [Assign.single_run] at ran
  cases evaluated : v.eval.run m with
  | error f m₁ => rw [evaluated] at ran; cases ran
  | ok x m₁ =>
    obtain ⟨same, grown⟩ := (v.eval_reads reads).ended evaluated
    rw [evaluated] at ran
    dsimp only at ran
    split at ran
    next h stored =>
      cases ran
      obtain ⟨q, p, named, -, rfl⟩ := Heap.set_ok stored
      exact Machine.rebind_keeps _ id same ((Heap.WritesOnly.of_extends grown _).trans (.store named _ _))
    next => cases ran

theorem Assign.pair_writes {id : String} {r c : Index} {l₁ : Nat} (reads : v.readOnly = true)
    (ran : (Assign.declare (.element (.pair id r c l₁)) v l).exec.run m = .ok () m') :
    (∀ y, m'.lookup y = m.lookup y) ∧ ∃ row, Heap.WritesOnly row m.heap m'.heap ∧
      ∀ q, m.lookup id = .list q → q < m.heap.cells.size → m.heap.get (.list q) (r.read m) = .ok row := by
  rw [Assign.pair_run] at ran
  cases evaluated : v.eval.run m with
  | error f m₁ => rw [evaluated] at ran; cases ran
  | ok x m₁ =>
    obtain ⟨same, grown⟩ := (v.eval_reads reads).ended evaluated
    rw [evaluated] at ran
    dsimp only at ran
    split at ran
    next row found =>
      split at ran
      next h stored =>
        cases ran
        obtain ⟨q, p, named, -, rfl⟩ := Heap.set_ok stored
        obtain ⟨kept, wrote⟩ := Machine.rebind_keeps
          { m₁ with heap := m₁.heap.store q ((m₁.heap.items q).setIfInBounds p x) } id same
          ((Heap.WritesOnly.of_extends grown _).trans (.store named _ _))
        -- the row is read after the value, from a list that was there and so is as it was
        refine ⟨kept, row, wrote, fun q' names valid => ?_⟩
        rw [← Heap.get_list_congr (grown.items valid), ← names, found]
      next => cases ran
    next => cases ran

theorem Assign.slice_writes {s : Slice} (reads : v.readOnly = true)
    (ran : (Assign.declare (.slice s) v l).exec.run m = .ok () m') :
    (∀ y, m'.lookup y = m.lookup y) ∧ Heap.WritesOnly (m.lookup s.id) m.heap m'.heap := by
  rw [Assign.slice_run] at ran
  cases evaluated : v.eval.run m with
  | error f m₁ => rw [evaluated] at ran; cases ran
  | ok x m₁ =>
    obtain ⟨same₁, grown⟩ := (v.eval_reads reads).ended evaluated
    rw [evaluated] at ran
    dsimp only at ran
    split at ran
    next m₂ filled =>
      cases ran
      obtain ⟨same₂, wrote⟩ := fillSlice_writesOnly filled
      exact Machine.rebind_keeps _ s.id (same₂.trans same₁)
        ((Heap.WritesOnly.of_extends grown _).trans wrote)
    next => cases ran

end Writes

/-! ### Main result -/

/-- An element or slice write whose value assigns nothing, when it ends, changes no variable:
every name reads the value it read before, a list being the same list. It changes the items of
one list at most, the list `A` names, or for `A[i, j]` the row `A[i]` (as read before the write,
when `A` names a list that was there); every name whose value is or holds that list sees the
change. -/
theorem indexed_write_changes_one_list (m m' : Machine) (v : Expr) (l : Nat)
    (reads : v.readOnly = true) :
    (∀ id r l₁, (Assign.declare (.element (.single id r l₁)) v l).exec.run m = .ok () m' →
      (∀ y, m'.lookup y = m.lookup y) ∧ Heap.WritesOnly (m.lookup id) m.heap m'.heap) ∧
    (∀ id r c l₁, (Assign.declare (.element (.pair id r c l₁)) v l).exec.run m = .ok () m' →
      (∀ y, m'.lookup y = m.lookup y) ∧ ∃ row, Heap.WritesOnly row m.heap m'.heap ∧
        ∀ q, m.lookup id = .list q → q < m.heap.cells.size →
          m.heap.get (.list q) (r.read m) = .ok row) ∧
    (∀ s, (Assign.declare (.slice s) v l).exec.run m = .ok () m' →
      (∀ y, m'.lookup y = m.lookup y) ∧ Heap.WritesOnly (m.lookup s.id) m.heap m'.heap) :=
  ⟨fun _ _ _ ran => Assign.single_writes reads ran, fun _ _ _ _ ran => Assign.pair_writes reads ran,
    fun _ ran => Assign.slice_writes reads ran⟩

/-- The machine after `x = [1, 2]; y = x;`: both names hold the one list. -/
def sharedPair : Machine :=
  { heap := { cells := #[#[.int 1, .int 2]] }
    frames := [{ name := "global_memory", vars := [("x", .list 0), ("y", .list 0)] }] }

/-- `x[0] = 5;` where `x` and `y` hold one list: no name changes, only that list does, and `y`
then reads `[5, 2]`. -/
theorem indexed_write_seen_through_alias :
    ∃ m', (Assign.declare (.element (.single "x" (.lit 0 1) 1)) (.atom (.int 5 1)) 1).exec.run
        sharedPair = .ok () m' ∧
      ((∀ y, m'.lookup y = sharedPair.lookup y) ∧
        Heap.WritesOnly (sharedPair.lookup "x") sharedPair.heap m'.heap) ∧
      m'.heap.dump (m'.lookup "y") = .list [.int 5, .int 2] := by
  refine ⟨_, rfl, ?_, rfl⟩
  exact (indexed_write_changes_one_list sharedPair _ (.atom (.int 5 1)) 1 rfl).1 "x" (.lit 0 1) 1 rfl

/-- `x = [1, 2]; y = x; x[0] = 5;` leaves `y` reading `[5, 2]`: `y = x` gives `y` the list `x`
holds, and the write changes that list. -/
theorem Program.alias_sees_element_write :
    ∃ m, Program.run [some (.assign (.declare (.var "x" 1) (.literal (.row ⟨[1, 2], 1, 5⟩) 1) 1)),
        some (.assign (.declare (.var "y" 1) (.atom (.var "x" 1)) 1)),
        some (.assign (.declare (.element (.single "x" (.lit 0 1) 1)) (.atom (.int 5 1)) 1))] =
        .ok m ∧
      m.lookup "y" = m.lookup "x" ∧ m.heap.dump (m.lookup "y") = .list [.int 5, .int 2] := by
  -- the literal's items are made by a well-founded map, which plain rfl does not unfold
  refine Exists.intro ?m ⟨?run, ?same, ?dump⟩
  case run => with_unfolding_all rfl
  case same => rfl
  case dump => with_unfolding_all rfl

end MatrixLang.Script
