import MatrixLang.Proofs.Shapes
import MatrixLang.Proofs.Indexing
import Mathlib

/-!
# Element-wise operators on lists and matrices of integers

An element-wise operator meets its two operands after sorting each into a flat list or a matrix.
A value counts as a matrix when all of its items are lists, so the empty list counts as one. A
flat operand that faces a matrix is spread over the matrix's rows first: item `i` becomes a row
of copies of it as long as the matrix's first row. Then `.+` and `.-` pair two flat lists item by
item, and two matrices row by row and item by item, as far as the shorter side goes; `.*`
multiplies two matrices and pairs two flat lists.

This module reads integer operands through `Heap.Holds` (a value is a list of integers, or a
list of lists of integers, on the heap) and states what each operator gives.

## Main results

* `elementwise_broadcasts`: for `.+` and `.-` on flat lists and non-empty matrices of integers,
  the broadcast rule `Grid.broadcast`, except that an empty flat operand facing a non-empty flat
  one is taken for a matrix whose first row is missing, which raises `IndexError`.
* `elementwise_multiplies`: where `.*` is the matrix product, `.*` on a `p × k` and a `k × n`
  matrix gives their product `Grid.times`, summed from `0` in the order of the inner index; on
  flat lists it multiplies item by item, with the same exception for an empty list.

## Proof strategy

Every step of the operators is computed exactly: the tests of `allLists`, the length of a first
row, and each loop, through two loop lemmas: one for passes that leave the machine as it is
(`Run.Makes.forIn_steady`), and one for passes that only grow the heap and push one new value
(`Run.Makes.forIn_pushes`). Values held on a heap stay held on every heap that extends it, so
the operands survive the lists the operators allocate. The triple loop of the product nests
them: rows push, columns and terms leave the machine as it is.
-/
namespace MatrixLang.Script

/-! ### Integer grids on the heap -/

/-- Whether a value is a list on the heap whose items are the integers `xs`. -/
def Heap.HoldsInts (h : Heap) (v : Value) (xs : List Int) : Prop :=
  ∃ r, v = .list r ∧ r < h.cells.size ∧ (h.items r).toList = xs.map .int

/-- What the element-wise operators compute with: a flat list of integers, or a list of rows of
integers. -/
inductive Grid where
  | flat (xs : List Int)
  | rows (rs : List (List Int))

/-- Whether a value on the heap holds a grid: a list of integers, or a list of lists of
integers. -/
def Heap.Holds (h : Heap) (v : Value) : Grid → Prop
  | .flat xs => h.HoldsInts v xs
  | .rows rs => ∃ r, v = .list r ∧ r < h.cells.size ∧ List.Forall₂ h.HoldsInts (h.items r).toList rs

namespace Grid

/-- Whether a grid is an operand of the broadcast rule: a flat list, or a matrix with a row. -/
def Operand : Grid → Prop
  | .flat _ => True
  | .rows rs => rs ≠ []

/-- Whether two grids are flat lists of which exactly one is empty. -/
def lopsided : Grid → Grid → Bool
  | .flat xs, .flat ys => xs.isEmpty != ys.isEmpty
  | _, _ => false

/-- The broadcast rule of an operator `f` that works item by item: flat lists pair their items,
matrices pair their rows and then the rows' items, and a flat list facing a matrix is a column:
its item `i` meets the items of row `i` of the matrix, as far as the matrix's first row goes.
Everything stops at the shorter side. -/
def broadcast (f : Int → Int → Int) : Grid → Grid → Grid
  | .flat xs, .flat ys => .flat (List.zipWith f xs ys)
  | .rows as, .rows bs => .rows (List.zipWith (List.zipWith f) as bs)
  | .flat v, .rows M => .rows (List.zipWith (fun x row => (row.take (M.headD []).length).map (f x ·)) v M)
  | .rows M, .flat v => .rows (List.zipWith (fun row x => (row.take (M.headD []).length).map (f · x)) M v)

end Grid

/-- The integer operation of an element-wise operator that works item by item: `.+` adds and
`.-` subtracts. -/
def itemwise : String → Option (Int → Int → Int)
  | ".+" => some (· + ·)
  | ".-" => some (· - ·)
  | _ => none

namespace Heap

variable {h h' : Heap} {v : Value}

theorem HoldsInts.grow (grown : h.Extends h') {xs : List Int} (held : h.HoldsInts v xs) :
    h'.HoldsInts v xs := by
  obtain ⟨r, rfl, valid, items⟩ := held
  exact ⟨r, rfl, Nat.lt_of_lt_of_le valid grown.size_le, by rw [grown.items valid, items]⟩

theorem Holds.grow (grown : h.Extends h') {g : Grid} (held : h.Holds v g) : h'.Holds v g := by
  cases g with
  | flat xs => exact HoldsInts.grow grown held
  | rows rs =>
    obtain ⟨r, rfl, valid, items⟩ := held
    refine ⟨r, rfl, Nat.lt_of_lt_of_le valid grown.size_le, ?_⟩
    rw [grown.items valid]
    exact items.imp fun _ _ => HoldsInts.grow grown

/-- A new list holds the values it was made of. -/
theorem holdsInts_alloc {items : Array Value} {xs : List Int} (made : items.toList = xs.map .int) :
    (h.alloc items).2.HoldsInts (h.alloc items).1 xs :=
  ⟨h.cells.size, rfl, by simp, by rw [items_alloc, made]⟩

theorem holds_alloc {items : Array Value} {rs : List (List Int)}
    (made : List.Forall₂ (h.alloc items).2.HoldsInts items.toList rs) :
    (h.alloc items).2.Holds (h.alloc items).1 (.rows rs) :=
  ⟨h.cells.size, rfl, by simp, by rw [items_alloc]; exact made⟩

/-- The empty list holds the empty grid of either kind. -/
theorem holds_empty (held : h.HoldsInts v []) : h.Holds v (.rows []) := by
  obtain ⟨r, rfl, valid, items⟩ := held
  exact ⟨r, rfl, valid, by rw [items]; exact .nil⟩

theorem holdsInts_empty {v : Value} (held : h.Holds v (.rows [])) : h.HoldsInts v [] := by
  obtain ⟨r, rfl, valid, items⟩ := held
  exact ⟨r, rfl, valid, by rw [List.forall₂_nil_right_iff.mp items]; rfl⟩

theorem elements_ints {xs : List Int} (held : h.HoldsInts v xs) :
    h.elements v = .ok (xs.map .int) := by
  obtain ⟨r, rfl, -, items⟩ := held
  simp [Heap.elements, items]

theorem elements_rows {rs : List (List Int)} (held : h.Holds v (.rows rs)) :
    ∃ items, h.elements v = .ok items ∧ List.Forall₂ h.HoldsInts items rs := by
  obtain ⟨r, rfl, -, items⟩ := held
  exact ⟨_, rfl, items⟩

end Heap

end MatrixLang.Script

/-! ### Runs that only grow the heap -/

namespace MatrixLang.Script

/-- A run from `m` that ends normally, changes the machine only by growing its heap, and makes a
value that satisfies `P` on the heap it leaves. -/
def Run.Makes {α : Type} (x : Run α) (m : Machine) (P : α → Heap → Prop) : Prop :=
  ∃ a h', x.run m = .ok a { m with heap := h' } ∧ m.heap.Extends h' ∧ P a h'

namespace Run.Makes

variable {α β γ : Type} {m : Machine} {P : α → Heap → Prop} {R : β → Heap → Prop}

theorem pure' {a : α} (holds : P a m.heap) : (pure a : Run α).Makes m P :=
  ⟨a, m.heap, rfl, .refl _, holds⟩

theorem bind' {x : Run α} {f : α → Run β} (first : x.Makes m P)
    (rest : ∀ a h, m.heap.Extends h → P a h → (f a).Makes { m with heap := h } R) :
    (x >>= f).Makes m R := by
  obtain ⟨a, h₁, ran, grown, made⟩ := first
  obtain ⟨b, h₂, ran₂, grown₂, holds⟩ := rest a h₁ grown made
  exact ⟨b, h₂, by rw [EStateM.run_bind, ran]; exact ran₂, grown.trans grown₂, holds⟩

/-- A step that leaves the machine as it is, followed by the rest. -/
theorem steady' {x : Run α} {f : α → Run β} {a : α} (ran : x.run m = .ok a m)
    (rest : (f a).Makes m R) : (x >>= f).Makes m R := by
  obtain ⟨b, h, ran₂, grown, holds⟩ := rest
  exact ⟨b, h, by rw [EStateM.run_bind, ran]; exact ran₂, grown, holds⟩

/-- A run that leaves the machine as it is. -/
theorem of_steady {x : Run α} {a : α} (ran : x.run m = .ok a m) (holds : P a m.heap) : x.Makes m P :=
  ⟨a, m.heap, ran, .refl _, holds⟩

theorem get' {f : Machine → Run β} (rest : (f m).Makes m R) : (get >>= f).Makes m R :=
  steady' rfl rest

theorem lift' {f : α → Run β} {a : α} (rest : (f a).Makes m R) :
    (Run.lift (.ok a) >>= f).Makes m R :=
  steady' rfl rest

theorem imp {x : Run α} {Q : α → Heap → Prop} (made : x.Makes m P)
    (weaker : ∀ a h, m.heap.Extends h → P a h → Q a h) : x.Makes m Q := by
  obtain ⟨a, h, ran, grown, holds⟩ := made
  exact ⟨a, h, ran, grown, weaker a h grown holds⟩

/-- A new list of integers. -/
theorem allocInts {items : Array Value} {xs : List Int} (made : items.toList = xs.map .int) :
    (Run.onHeap fun h => .ok (h.alloc items)).Makes m fun v h => h.HoldsInts v xs :=
  ⟨_, _, rfl, m.heap.extends_alloc items, Heap.holdsInts_alloc made⟩

/-- A new list of lists of integers. -/
theorem allocRows {items : Array Value} {rs : List (List Int)}
    (rows : List.Forall₂ m.heap.HoldsInts items.toList rs) :
    (Run.onHeap fun h => .ok (h.alloc items)).Makes m fun v h => h.Holds v (.rows rs) :=
  ⟨_, _, rfl, m.heap.extends_alloc items,
    Heap.holds_alloc (rows.imp fun _ _ held => held.grow (m.heap.extends_alloc items))⟩

/-- A loop whose every pass pushes one new list of integers, growing only the heap: the lists
pushed hold the rows given for the items, in order. -/
theorem forIn_pushes {xs : List γ} (specs : List (List Int))
    {body : γ → Array Value → Run (ForInStep (Array Value))}
    (passes : List.Forall₂ (fun c row => ∀ out h, m.heap.Extends h →
      (body c out).Makes { m with heap := h } fun s h' => ∃ v, s = .yield (out.push v) ∧ h'.HoldsInts v row)
      xs specs)
    (acc : Array Value) :
    (forIn xs acc body).Makes m
      fun out h => ∃ vs, out.toList = acc.toList ++ vs ∧ List.Forall₂ h.HoldsInts vs specs := by
  -- the loop runs on heaps that extend the first one; the induction follows the items
  suffices grows : ∀ h₀, m.heap.Extends h₀ → (forIn xs acc body).Makes { m with heap := h₀ }
      fun out h => ∃ vs, out.toList = acc.toList ++ vs ∧ List.Forall₂ h.HoldsInts vs specs from
    grows m.heap (.refl _)
  induction passes generalizing acc with
  | nil => exact fun h₀ _ => pure' ⟨[], by simp, .nil⟩
  | cons pass _ more =>
    intro h₀ grown
    rw [List.forIn_cons]
    refine bind' (pass acc h₀ grown) fun s h₁ grown₁ pushed => ?_
    obtain ⟨v, rfl, held⟩ := pushed
    obtain ⟨out, h₂, ran, grown₂, vs, made, rows⟩ := more (acc.push v) h₁ (grown.trans grown₁)
    exact ⟨out, h₂, ran, grown₂, v :: vs, by simp [made], .cons (held.grow grown₂) rows⟩

/-- A loop whose passes leave the machine as it is ends on the fold of its steps, the
accumulator being read through `enc`. -/
theorem forIn_steady {xs : List γ} {δ : Type} (enc : δ → β) (next : δ → γ → δ)
    {body : γ → β → Run (ForInStep β)}
    (passes : ∀ c ∈ xs, ∀ d, (body c (enc d)).run m = .ok (.yield (enc (next d c))) m) (init : δ) :
    (forIn xs (enc init) body).run m = .ok (enc (xs.foldl next init)) m := by
  induction xs generalizing init with
  | nil => rfl
  | cons c cs more =>
    rw [List.forIn_cons, EStateM.run_bind, passes c List.mem_cons_self init]
    exact more (fun c' member d => passes c' (List.mem_cons_of_mem c member) d) (next init c)

end Run.Makes

end MatrixLang.Script

namespace MatrixLang.Script

variable {m : Machine} {x y : Value}


@[simp] theorem Run.lift_ok {α : Type} (a : α) : Run.lift (.ok a) = (pure a : Run α) := rfl

@[simp] theorem Run.lift_error {α : Type} (e : OpError) :
    Run.lift (.error e) = (throw (.raised (.op e)) : Run α) := rfl

@[simp] theorem Run.run_throw {α : Type} (e : Fault) (m : Machine) :
    (throw e : Run α).run m = .error e m := rfl

theorem allLists_ints {xs : List Int} (held : m.heap.HoldsInts x xs) :
    (allLists x).run m = .ok xs.isEmpty m := by
  cases xs <;> simp [allLists, Heap.elements_ints held, Function.comp_def, Value.isList]

theorem Heap.HoldsInts.isList {h : Heap} {xs : List Int} (held : h.HoldsInts x xs) :
    x.isList = true := by
  obtain ⟨r, rfl, -, -⟩ := held
  rfl

theorem Heap.all_lists {h : Heap} {items : List Value} {rs : List (List Int)}
    (rows : List.Forall₂ h.HoldsInts items rs) : items.all Value.isList = true := by
  induction rows with
  | nil => rfl
  | cons held _ all => simp [held.isList, all]

theorem allLists_rows {rs : List (List Int)} (held : m.heap.Holds x (.rows rs)) :
    (allLists x).run m = .ok true m := by
  obtain ⟨items, listed, rows⟩ := Heap.elements_rows held
  simp [allLists, listed, Heap.all_lists rows]

/-- The first item of a list that has one. -/
theorem Heap.get_first {h : Heap} {r : Nat} {v : Value} {vs : List Value}
    (items : (h.items r).toList = v :: vs) : h.get (.list r) (.int 0) = .ok v := by
  have size : 0 < (h.items r).size := by
    rw [← Array.length_toList, items]
    exact Nat.zero_lt_succ _
  have first : (h.items r)[0] = v := by
    have found : (h.items r)[0]? = some v := by
      rw [← Array.getElem?_toList, items]
      rfl
    rw [Array.getElem?_eq_getElem size] at found
    exact Option.some.inj found
  simp [Heap.get, Value.index?, indexSized, maxIndex, Heap.position, size, first]

/-- The empty list has no first item. -/
theorem Heap.get_first_empty {h : Heap} {r : Nat} (items : (h.items r).toList = []) :
    h.get (.list r) (.int 0) = .error (.index "list index out of range") := by
  have size : (h.items r).size = 0 := by
    rw [← Array.length_toList, items]
    rfl
  simp [Heap.get, Value.index?, indexSized, maxIndex, Heap.position, size]

theorem firstRowLength_rows {first : List Int} {rest : List (List Int)}
    (held : m.heap.Holds x (.rows (first :: rest))) :
    (firstRowLength x).run m = .ok first.length m := by
  obtain ⟨r, rfl, -, rows⟩ := held
  obtain ⟨v, vs, firstHeld, -, items⟩ := List.forall₂_cons_right_iff.mp rows
  obtain ⟨q, rfl, -, row⟩ := firstHeld
  have size : (m.heap.items q).size = first.length := by
    rw [← Array.length_toList, row, List.length_map]
  simp [firstRowLength, Heap.get_first items, Heap.length, size]

theorem firstRowLength_empty (held : m.heap.HoldsInts x []) :
    (firstRowLength x).run m = .error (.raised (.op (.index "list index out of range"))) m := by
  obtain ⟨r, rfl, -, items⟩ := held
  simp [firstRowLength, Heap.get_first_empty items]

/-- Spreading a flat list of integers over rows of `n`: row `i` is `n` copies of item `i`. -/
theorem spread_ints {xs : List Int} (held : m.heap.HoldsInts x xs) (n : Nat) :
    (spread x n).Makes m fun v h => h.Holds v (.rows (xs.map (List.replicate n))) := by
  unfold spread
  refine Run.Makes.get' ?_
  rw [Heap.elements_ints held]
  refine Run.Makes.lift' (Run.Makes.bind' (Run.Makes.forIn_pushes (xs.map (List.replicate n)) ?_ #[]) fun out h _ pushed => ?_)
  · refine List.forall₂_map_left_iff.mpr (List.forall₂_map_right_iff.mpr (List.forall₂_same.mpr ?_))
    intro a _ out h _
    exact Run.Makes.bind' (Run.Makes.allocInts (by simp)) fun v h' _ held' =>
      Run.Makes.pure' ⟨v, rfl, held'⟩
  · obtain ⟨vs, made, rows⟩ := pushed
    simp only [List.nil_append] at made
    exact Run.Makes.allocRows (made ▸ rows)

/-- Two lists of integers paired item by item by an operator that acts on integers as `f`. -/
theorem pairwise_ints {op : String} {f : Int → Int → Int}
    (stepped : ∀ a b (m : Machine), (arithmetic op (.int a) (.int b)).run m = .ok (.int (f a b)) m)
    {xs ys : List Int} (left : m.heap.HoldsInts x xs) (right : m.heap.HoldsInts y ys) :
    (pairwise op x y).Makes m fun v h => h.HoldsInts v (List.zipWith f xs ys) := by
  unfold pairwise
  refine Run.Makes.get' ?_
  dsimp only
  rw [Heap.elements_ints left, Heap.elements_ints right]
  refine Run.Makes.lift' (Run.Makes.lift' ?_)
  rw [List.zip_map, List.forIn_map]
  refine Run.Makes.steady'
    (Run.Makes.forIn_steady id (fun out c => out.push (.int (f c.1 c.2))) ?_ #[]) ?_
  · intro ⟨a, b⟩ _ out
    simp only [Prod.map, EStateM.run_bind, stepped]
    rfl
  · -- the pushes spell out the pairs' values: `Function.curry` is left for `rfl` to unfold
    exact Run.Makes.allocInts (by simp [List.map_zip_eq_zipWith, List.map_zipWith]; rfl)

/-! ### Arithmetic on integers -/

theorem arithmetic_itemwise {op : String} {f : Int → Int → Int} (known : itemwise op = some f)
    (a b : Int) (m : Machine) : (arithmetic op (.int a) (.int b)).run m = .ok (.int (f a b)) m := by
  unfold itemwise at known
  split at known <;> cases known <;> rfl

theorem arithmetic_times_ints (a b : Int) (m : Machine) :
    (arithmetic "*" (.int a) (.int b)).run m = .ok (.int (a * b)) m := rfl

theorem arithmetic_plus_ints (a b : Int) (m : Machine) :
    (arithmetic "+" (.int a) (.int b)).run m = .ok (.int (a + b)) m := rfl

/-! ### Combining operands that are already broadcast -/

/-- Two lists related item by item to two others relate, zipped, to the others combined. -/
theorem forall₂_zip {α β γ δ ε : Type} {R₁ : α → γ → Prop} {R₂ : β → δ → Prop}
    {S : α × β → ε → Prop} {g : γ → δ → ε} {l₁ : List α} {l₂ : List β} {s₁ : List γ}
    {s₂ : List δ} (first : List.Forall₂ R₁ l₁ s₁) (second : List.Forall₂ R₂ l₂ s₂)
    (each : ∀ a b c d, R₁ a c → R₂ b d → S (a, b) (g c d)) :
    List.Forall₂ S (l₁.zip l₂) (List.zipWith g s₁ s₂) := by
  induction first generalizing l₂ s₂ with
  | nil => exact .nil
  | cons related _ more =>
    cases second with
    | nil => exact .nil
    | cons related₂ rest => exact .cons (each _ _ _ _ related related₂) (more rest)

section Combine

variable {op : String} {f : Int → Int → Int}
  (stepped : ∀ a b (m : Machine), (arithmetic op (.int a) (.int b)).run m = .ok (.int (f a b)) m)
include stepped

/-- Two non-empty flat lists are paired item by item. -/
theorem combine_flat (other : op ≠ ".*") {xs ys : List Int} (left : m.heap.HoldsInts x xs)
    (right : m.heap.HoldsInts y ys) (full : xs ≠ [] ∧ ys ≠ []) :
    (combine op x y).Makes m fun v h => h.HoldsInts v (List.zipWith f xs ys) := by
  unfold combine
  rw [if_neg (by simpa using other)]
  refine Run.Makes.steady' (allLists_ints left) (Run.Makes.steady' (allLists_ints right) ?_)
  rw [if_pos (by simp [full.1, full.2])]
  exact pairwise_ints stepped left right

/-- Two matrices are paired row by row, and each pair of rows item by item. -/
theorem combine_rows (other : op ≠ ".*") {as bs : List (List Int)}
    (left : m.heap.Holds x (.rows as)) (right : m.heap.Holds y (.rows bs)) :
    (combine op x y).Makes m fun v h => h.Holds v (.rows (List.zipWith (List.zipWith f) as bs)) := by
  unfold combine
  rw [if_neg (by simpa using other)]
  refine Run.Makes.steady' (allLists_rows left) (Run.Makes.steady' (allLists_rows right) ?_)
  rw [if_neg (by decide)]
  refine Run.Makes.get' ?_
  dsimp only
  obtain ⟨litems, lelements, lrows⟩ := Heap.elements_rows left
  obtain ⟨ritems, relements, rrows⟩ := Heap.elements_rows right
  rw [lelements, relements]
  refine Run.Makes.lift' (Run.Makes.lift' (Run.Makes.bind'
    (Run.Makes.forIn_pushes (List.zipWith (List.zipWith f) as bs) ?_ #[]) fun out h _ pushed => ?_))
  · refine forall₂_zip lrows rrows fun lrow rrow l r heldl heldr out h grown => ?_
    exact Run.Makes.bind' (pairwise_ints stepped (heldl.grow grown) (heldr.grow grown))
      fun v h' _ held => Run.Makes.pure' ⟨v, rfl, held⟩
  · obtain ⟨vs, made, rows⟩ := pushed
    simp only [List.nil_append] at made
    exact Run.Makes.allocRows (made ▸ rows)

end Combine

/-! ### Broadcasting -/

/-- Two flat lists that are both empty or both not are left as they are. -/
theorem broadcast_flat {xs ys : List Int} (left : m.heap.HoldsInts x xs)
    (right : m.heap.HoldsInts y ys) (even : xs.isEmpty = ys.isEmpty) :
    (broadcast x y).run m = .ok (x, y) m := by
  cases xs <;> cases ys <;> simp [broadcast, allLists_ints left, allLists_ints right] at even ⊢

/-- An empty flat list facing a non-empty one counts as a matrix, whose first row is missing. -/
theorem broadcast_lopsided {xs ys : List Int} (left : m.heap.HoldsInts x xs)
    (right : m.heap.HoldsInts y ys) (uneven : xs.isEmpty ≠ ys.isEmpty) :
    (broadcast x y).run m = .error (.raised (.op (.index "list index out of range"))) m := by
  cases xs with
  | nil =>
    cases ys with
    | nil => simp at uneven
    | cons => simp [broadcast, allLists_ints left, allLists_ints right, firstRowLength_empty left]
  | cons =>
    cases ys with
    | nil => simp [broadcast, allLists_ints left, allLists_ints right, firstRowLength_empty right]
    | cons => simp at uneven

theorem broadcast_rows {as bs : List (List Int)} (left : m.heap.Holds x (.rows as))
    (right : m.heap.Holds y (.rows bs)) : (broadcast x y).run m = .ok (x, y) m := by
  simp [broadcast, allLists_rows left, allLists_rows right]

/-- A flat list facing a matrix becomes the rows of its items, each repeated as often as the
matrix's first row is long. -/
theorem broadcast_flat_rows {xs first : List Int} {rest : List (List Int)}
    (left : m.heap.HoldsInts x xs) (right : m.heap.Holds y (.rows (first :: rest))) :
    (broadcast x y).Makes m
      fun p h => h.Holds p.1 (.rows (xs.map (List.replicate first.length))) ∧ p.2 = y := by
  cases xs with
  | nil =>
    -- the empty list counts as a matrix already
    refine Run.Makes.of_steady (a := (x, y)) ?_ ⟨Heap.holds_empty left, rfl⟩
    simp [broadcast, allLists_ints left, allLists_rows right]
  | cons =>
    unfold broadcast
    refine Run.Makes.steady' (allLists_ints left) ?_
    simp only [List.isEmpty_cons, Bool.not_false, ↓reduceIte]
    refine Run.Makes.steady' (allLists_rows right) ?_
    rw [if_pos rfl]
    refine Run.Makes.steady' (firstRowLength_rows right) ?_
    exact Run.Makes.bind' (spread_ints left _) fun _ _ _ held => Run.Makes.pure' ⟨held, rfl⟩

/-- A matrix facing a flat list: the list becomes the rows of its items, each repeated as often
as the matrix's first row is long. -/
theorem broadcast_rows_flat {first ys : List Int} {rest : List (List Int)}
    (left : m.heap.Holds x (.rows (first :: rest))) (right : m.heap.HoldsInts y ys) :
    (broadcast x y).Makes m
      fun p h => p.1 = x ∧ h.Holds p.2 (.rows (ys.map (List.replicate first.length))) := by
  cases ys with
  | nil =>
    refine Run.Makes.of_steady (a := (x, y)) ?_ ⟨rfl, Heap.holds_empty right⟩
    simp [broadcast, allLists_rows left, allLists_ints right]
  | cons =>
    unfold broadcast
    refine Run.Makes.steady' (allLists_rows left) ?_
    rw [if_neg (by decide)]
    refine Run.Makes.steady' (allLists_ints right) ?_
    simp only [List.isEmpty_cons, Bool.not_false, ↓reduceIte]
    refine Run.Makes.steady' (firstRowLength_rows left) ?_
    exact Run.Makes.bind' (spread_ints right _) fun _ _ _ held => Run.Makes.pure' ⟨rfl, held⟩

/-- An element-wise operator the machine knows broadcasts its operands and then combines them. -/
theorem elementwise_of {op : String} (known : (op == ".*" && !m.product) = false)
    {Q : Value × Value → Heap → Prop} {P : Value → Heap → Prop} (spread : (broadcast x y).Makes m Q)
    (combined : ∀ p h, m.heap.Extends h → Q p h → (combine op p.1 p.2).Makes { m with heap := h } P) :
    (elementwise op x y).Makes m P := by
  unfold elementwise
  refine Run.Makes.get' ?_
  rw [if_neg (by simp [known])]
  exact Run.Makes.bind' spread combined

/-- An element-wise operator the machine knows stops where broadcasting stops. -/
theorem elementwise_stops {op : String} (known : (op == ".*" && !m.product) = false) {e : Fault}
    {m' : Machine} (stopped : (broadcast x y).run m = .error e m') :
    (elementwise op x y).run m = .error e m' := by
  have plain : ¬(op = ".*" ∧ m.product = false) := by simpa using known
  simp [elementwise, plain, stopped]

/-! ### The broadcast rule -/

/-- Pairing `n` copies of an item with a row reaches as far as the shorter of the two. -/
theorem zipWith_replicate_left (f : Int → Int → Int) (a : Int) (n : Nat) (row : List Int) :
    List.zipWith f (List.replicate n a) row = (row.take n).map (f a ·) := by
  induction n generalizing row with
  | zero => simp
  | succ n more =>
    cases row with
    | nil => simp
    | cons b row => simp [List.replicate_succ, more]

theorem zipWith_replicate_right (f : Int → Int → Int) (a : Int) (n : Nat) (row : List Int) :
    List.zipWith f row (List.replicate n a) = (row.take n).map (f · a) := by
  rw [List.zipWith_comm, zipWith_replicate_left]

namespace Grid

/-- A flat list facing a matrix pairs, as rows of copies of its items, with the matrix's rows. -/
theorem broadcast_flat_rows (f : Int → Int → Int) (v first : List Int) (rest : List (List Int)) :
    broadcast f (.flat v) (.rows (first :: rest)) =
      .rows (List.zipWith (List.zipWith f) (v.map (List.replicate first.length)) (first :: rest)) := by
  simp [broadcast, List.zipWith_map_left, zipWith_replicate_left]

theorem broadcast_rows_flat (f : Int → Int → Int) (first v : List Int) (rest : List (List Int)) :
    broadcast f (.rows (first :: rest)) (.flat v) =
      .rows (List.zipWith (List.zipWith f) (first :: rest) (v.map (List.replicate first.length))) := by
  simp [broadcast, List.zipWith_map_right, zipWith_replicate_right]

end Grid

/-- **The broadcast rule of `.+` and `.-`.** On flat lists of integers and matrices of integer
rows with at least one row, an element-wise `.+` or `.-` gives what `Grid.broadcast` says, only
growing the heap; except that an empty flat list facing a non-empty one is taken for a matrix
whose first row is missing, which raises `IndexError`. -/
theorem elementwise_broadcasts {op : String} {f : Int → Int → Int} (known : itemwise op = some f)
    {a b : Grid} (left : m.heap.Holds x a) (right : m.heap.Holds y b)
    (operands : a.Operand ∧ b.Operand) :
    if a.lopsided b then
      (elementwise op x y).run m = .error (.raised (.op (.index "list index out of range"))) m
    else (elementwise op x y).Makes m fun v h => h.Holds v (a.broadcast f b) := by
  have stepped := arithmetic_itemwise known
  have other : op ≠ ".*" := by
    rintro rfl
    cases known
  have plain : (op == ".*" && !m.product) = false := by simp [other]
  cases a with
  | flat xs =>
    cases b with
    | flat ys =>
      by_cases even : xs.isEmpty = ys.isEmpty
      · rw [if_neg (by simp [Grid.lopsided, even])]
        refine elementwise_of plain (Q := fun p _ => p = (x, y))
          (Run.Makes.of_steady (broadcast_flat left right even) rfl) fun p h grown same => ?_
        subst same
        cases xs with
        | nil =>
          -- two empty lists count as matrices
          cases ys with
          | nil =>
            exact (combine_rows stepped other (Heap.holds_empty (Heap.HoldsInts.grow grown left))
              (Heap.holds_empty (Heap.HoldsInts.grow grown right))).imp
                fun _ _ _ held => Heap.holdsInts_empty held
          | cons => simp at even
        | cons =>
          cases ys with
          | nil => simp at even
          | cons => exact combine_flat stepped other (left.grow grown) (right.grow grown) ⟨by simp, by simp⟩
      · rw [if_pos (by simpa [Grid.lopsided] using even)]
        exact elementwise_stops plain (broadcast_lopsided left right even)
    | rows bs =>
      obtain ⟨first, rest, rfl⟩ := List.exists_cons_of_ne_nil operands.2
      rw [if_neg (by simp [Grid.lopsided]), Grid.broadcast_flat_rows]
      refine elementwise_of plain (broadcast_flat_rows left right) fun p h grown spread => ?_
      obtain ⟨spreadHeld, same⟩ := spread
      exact combine_rows stepped other spreadHeld (same ▸ right.grow grown)
  | rows as =>
    obtain ⟨first, rest, rfl⟩ := List.exists_cons_of_ne_nil operands.1
    cases b with
    | flat ys =>
      rw [if_neg (by simp [Grid.lopsided]), Grid.broadcast_rows_flat]
      refine elementwise_of plain (broadcast_rows_flat left right) fun p h grown spread => ?_
      obtain ⟨same, spreadHeld⟩ := spread
      exact combine_rows stepped other (same ▸ left.grow grown) spreadHeld
    | rows bs =>
      rw [if_neg (by simp [Grid.lopsided])]
      refine elementwise_of plain (Q := fun p _ => p = (x, y))
        (Run.Makes.of_steady (broadcast_rows left right) rfl) fun p h grown same => ?_
      subst same
      exact combine_rows stepped other (left.grow grown) (right.grow grown)

/-- A heap holding the row `[1, 2]` at `0` and the matrix `[[3, 4], [5, 6]]` at `1`. -/
def Heap.sample : Heap :=
  { cells := #[#[.int 1, .int 2], #[.list 2, .list 3], #[.int 3, .int 4], #[.int 5, .int 6]] }

theorem Heap.sample_row : Heap.sample.Holds (.list 0) (.flat [1, 2]) :=
  ⟨0, rfl, by decide, rfl⟩

theorem Heap.sample_matrix : Heap.sample.Holds (.list 1) (.rows [[3, 4], [5, 6]]) :=
  ⟨1, rfl, by decide, .cons ⟨2, rfl, by decide, rfl⟩ (.cons ⟨3, rfl, by decide, rfl⟩ .nil)⟩

/-- The row `[1, 2]` plus the matrix `[[3, 4], [5, 6]]` adds `1` along the first row and `2` along
the second. -/
theorem elementwise_broadcasts_column :
    itemwise ".+" = some (· + ·) ∧ (Grid.flat [1, 2]).Operand ∧ (Grid.rows [[3, 4], [5, 6]]).Operand ∧
      (elementwise ".+" (.list 0) (.list 1)).Makes { heap := Heap.sample }
        fun v h => h.Holds v (.rows [[4, 5], [7, 8]]) := by
  have added := elementwise_broadcasts (m := { heap := Heap.sample })
    (rfl : itemwise ".+" = some (· + ·)) Heap.sample_row Heap.sample_matrix
    ⟨trivial, List.cons_ne_nil _ _⟩
  rw [if_neg (by decide)] at added
  exact ⟨rfl, trivial, List.cons_ne_nil _ _, added⟩

/-- `e = [1] * 0; x = [1, 2] .+ e;` stops on an index error, where the broadcast rule pairs
nothing and makes the empty list: the empty `e` is taken for a matrix whose first row is
missing. -/
theorem Program.row_plus_empty_raises :
    ∃ m, Program.run [some (.assign (.declare (.var "e" 1)
        (.arith "*" (.literal (.row ⟨[1], 1, 5⟩) 1) (.atom (.int 0 1)) 1) 1)),
      some (.assign (.declare (.var "x" 1)
        (.dotted ".+" (.literal (.row ⟨[1, 2], 1, 18⟩) 1) (.atom (.var "e" 1)) 1) 1))] =
      .error (.raised (.op (.index "list index out of range")), m) := by
  refine Exists.intro ?m ?run
  case run => with_unfolding_all rfl

/-! ### The matrix product -/

namespace Grid

/-- The product of a matrix with rows `A` and one with rows `B`, over `k` terms and `n` columns:
row `i` holds, for each column `j < n`, the sum over `t < k` of `A[i][t] * B[t][j]`. -/
def times (A B : List (List Int)) (k n : Nat) : List (List Int) :=
  A.map fun row => (List.range n).map fun j =>
    ((List.range k).map fun t => row.getD t 0 * (B.getD t []).getD j 0).sum

end Grid

/-- Two lists related item by item relate at every place of the second. -/
theorem forall₂_getD {α β : Type} {R : α → β → Prop} {l₁ : List α} {l₂ : List β}
    (related : List.Forall₂ R l₁ l₂) {i : Nat} (inside : i < l₂.length) (d₁ : α) (d₂ : β) :
    R (l₁.getD i d₁) (l₂.getD i d₂) := by
  induction related generalizing i with
  | nil => simp at inside
  | cons first _ more =>
    cases i with
    | zero => exact first
    | succ i => exact more (by simpa using inside)

/-- A running sum folds into the sum of its terms. -/
theorem foldl_add_sum {γ : Type} (g : γ → Int) (a : Int) (l : List γ) :
    l.foldl (fun d t => d + g t) a = a + (l.map g).sum := by
  induction l generalizing a with
  | nil => simp
  | cons t l more => simp [more, Int.add_assoc]

/-- The item of a list at a place inside it that is a machine integer. -/
theorem Heap.get_nat {h : Heap} {r i : Nat} (small : i ≤ maxIndex)
    (inside : i < (h.items r).size) :
    h.get (.list r) (.int i) = .ok ((h.items r).toList.getD i .none) := by
  have sized : indexSized i = true := by
    simp only [indexSized, Bool.and_eq_true, decide_eq_true_eq]
    omega
  have placed : Heap.position (h.items r).size i = some i :=
    Heap.position_eq_some.mpr ⟨by omega, by omega, by split <;> omega⟩
  simp [Heap.get, Value.index?, sized, placed, List.getD_eq_getElem?_getD]

/-- The entry of a matrix of integers at a row and a column inside it. -/
theorem entry_rows {A : List (List Int)} (held : m.heap.Holds x (.rows A)) {i t : Nat}
    (small : i ≤ maxIndex ∧ t ≤ maxIndex) (row_in : i < A.length)
    (col_in : t < (A.getD i []).length) :
    (entry x i t).run m = .ok (.int ((A.getD i []).getD t 0)) m := by
  obtain ⟨r, rfl, -, rows⟩ := held
  have size : (m.heap.items r).size = A.length := by
    rw [← Array.length_toList, rows.length_eq]
  obtain ⟨q, found, -, items⟩ := forall₂_getD rows row_in .none []
  generalize A.getD i [] = row at col_in items ⊢
  have width : (m.heap.items q).size = row.length := by
    rw [← Array.length_toList, items, List.length_map]
  have first := Heap.get_nat small.1 (size ▸ row_in)
  rw [found] at first
  have second := Heap.get_nat small.2 (width ▸ col_in)
  have item : (m.heap.items q).toList.getD t .none = .int (row.getD t 0) := by
    simp [items, List.getD_eq_getElem?_getD, List.getElem?_eq_getElem col_in]
  rw [item] at second
  show (Run.lift (m.heap.get (.list r) (.int i)) >>= fun row => Run.lift (m.heap.get row (.int t))).run m = _
  rw [first, Run.lift_ok, pure_bind, second]
  rfl

/-- Mapping over the places of a list is mapping over the list. -/
theorem map_range_getD {α β : Type} (g : α → β) (l : List α) (d : α) :
    (List.range l.length).map (fun i => g (l.getD i d)) = l.map g := by
  apply List.ext_getElem (by simp)
  intro i inside _
  simp only [List.getElem_map, List.getElem_range, List.getD_eq_getElem?_getD]
  rw [List.getElem?_eq_getElem (by simpa using inside), Option.getD_some]

/-- The length of a list of lists of integers. -/
theorem length_rows {A : List (List Int)} (held : m.heap.Holds x (.rows A)) :
    m.heap.length x = .ok A.length := by
  obtain ⟨r, rfl, -, rows⟩ := held
  simp [Heap.length, ← Array.length_toList, rows.length_eq]

section Product

variable {A B : List (List Int)} {k n : Nat}

/-- One entry of the product: the sum over the inner dimension, as the innermost loop adds it up
from the integer `0`. -/
def Grid.dot (A B : List (List Int)) (k i j : Nat) : Int :=
  ((List.range k).map fun t => (A.getD i []).getD t 0 * (B.getD t []).getD j 0).sum

theorem Grid.times_eq (A B : List (List Int)) (k n : Nat) :
    Grid.times A B k n = (List.range A.length).map fun i => (List.range n).map (Grid.dot A B k i) := by
  rw [Grid.times, ← map_range_getD _ A []]
  rfl

/-- Rows that make a matrix of `rows` rows of `cols` integers each, at least one of each, both
counts machine integers. -/
structure Grid.Sized (A : List (List Int)) (rows cols : Nat) : Prop where
  length : A.length = rows
  some_rows : 0 < rows
  some_cols : 0 < cols
  small : rows ≤ maxIndex ∧ cols ≤ maxIndex
  width : ∀ row ∈ A, row.length = cols

theorem Grid.Sized.width_getD {p : Nat} (sized : Grid.Sized A p k) {i : Nat} (inside : i < p) :
    (A.getD i []).length = k := by
  apply sized.width
  simp only [List.getD_eq_getElem?_getD, List.getElem?_eq_getElem (sized.length ▸ inside),
    Option.getD_some]
  exact List.getElem_mem _

theorem firstRowLength_sized {p : Nat} (held : m.heap.Holds x (.rows A)) (sized : Grid.Sized A p k) :
    (firstRowLength x).run m = .ok k m := by
  obtain ⟨first, rest, rfl⟩ := List.exists_cons_of_ne_nil
    (List.ne_nil_of_length_pos (sized.length ▸ sized.some_rows))
  rw [firstRowLength_rows held, sized.width first List.mem_cons_self]

/-- The entry of a sized matrix at a row and a column inside it. -/
theorem entry_sized {p : Nat} (held : m.heap.Holds x (.rows A)) (sized : Grid.Sized A p k)
    {i t : Nat} (row_in : i < p) (col_in : t < k) :
    (entry x i t).run m = .ok (.int ((A.getD i []).getD t 0)) m :=
  entry_rows held ⟨by have := sized.small.1; omega, by have := sized.small.2; omega⟩
    (sized.length ▸ row_in) (by rw [sized.width_getD row_in]; exact col_in)

/-- The product of a `p × k` and a `k × n` matrix of integers is their `p × n` product, in new
lists. -/
theorem matrixProduct_sized {p : Nat} (left : m.heap.Holds x (.rows A))
    (right : m.heap.Holds y (.rows B)) (sizedA : Grid.Sized A p k) (sizedB : Grid.Sized B k n) :
    (matrixProduct x y).Makes m fun v h => h.Holds v (.rows (Grid.times A B k n)) := by
  unfold matrixProduct
  refine Run.Makes.steady' (allLists_rows left) (Run.Makes.steady' (allLists_rows right) ?_)
  simp only [Bool.not_true, Bool.and_false, Bool.false_eq_true, ↓reduceIte]
  refine Run.Makes.get' ?_
  rw [length_rows left]
  -- the loop over the rows of `A` pushes one new list per row
  refine Run.Makes.lift' (Run.Makes.bind' (Run.Makes.forIn_pushes (Grid.times A B k n) ?_ #[])
    fun out h _ pushed => ?_)
  · rw [Grid.times_eq, List.forall₂_map_right_iff, List.forall₂_same]
    intro i inside out h grown
    have row_in : i < p := by simpa [sizedA.length] using inside
    refine Run.Makes.steady' (firstRowLength_sized (right.grow grown) sizedB)
      (Run.Makes.steady' (firstRowLength_sized (left.grow grown) sizedA) ?_)
    -- the loop over the columns leaves the machine as it is, pushing one entry per column
    refine Run.Makes.steady' (Run.Makes.forIn_steady id
      (fun row j => row.push (.int (Grid.dot A B k i j))) ?_ #[]) ?_
    · intro j col_in row
      dsimp only [id]
      -- the innermost loop adds `A[i][t] * B[t][j]` to a running sum from the integer `0`
      rw [EStateM.run_bind, Run.Makes.forIn_steady Value.int
        (fun d t => d + (A.getD i []).getD t 0 * (B.getD t []).getD j 0) ?_ 0]
      · simp only [foldl_add_sum, Int.zero_add, Grid.dot]
        rfl
      · intro t term_in d
        simp only [EStateM.run_bind,
          entry_sized (m := { m with heap := h }) (left.grow grown) sizedA row_in
            (List.mem_range.mp term_in),
          entry_sized (m := { m with heap := h }) (right.grow grown) sizedB
            (List.mem_range.mp term_in) (List.mem_range.mp col_in),
          arithmetic_times_ints, arithmetic_plus_ints]
        rfl
    · refine Run.Makes.bind' (Run.Makes.allocInts ?_) fun v h' _ held => Run.Makes.pure' ⟨v, rfl, held⟩
      simp [List.foldl_push_eq_append]
  · obtain ⟨vs, made, rows⟩ := pushed
    exact Run.Makes.allocRows (by simpa [made] using rows)

theorem Grid.Sized.headD_length {p : Nat} (sized : Grid.Sized A p k) : (A.headD []).length = k := by
  obtain ⟨first, rest, rfl⟩ := List.exists_cons_of_ne_nil
    (List.ne_nil_of_length_pos (sized.length ▸ sized.some_rows))
  exact sized.width first List.mem_cons_self

end Product

theorem combine_times (a b : Value) : combine ".*" a b = matrixProduct a b := by
  simp [combine]

/-- Two flat lists, both empty or both not, multiply item by item; two empty lists count as
matrices without rows, whose product has none. -/
theorem matrixProduct_flat {xs ys : List Int} (left : m.heap.HoldsInts x xs)
    (right : m.heap.HoldsInts y ys) (even : xs.isEmpty = ys.isEmpty) :
    (matrixProduct x y).Makes m fun v h => h.HoldsInts v (List.zipWith (· * ·) xs ys) := by
  unfold matrixProduct
  refine Run.Makes.steady' (allLists_ints left) (Run.Makes.steady' (allLists_ints right) ?_)
  cases xs with
  | nil =>
    cases ys with
    | nil =>
      simp only [List.isEmpty_nil, Bool.not_true, Bool.and_false, Bool.false_eq_true, ↓reduceIte]
      refine Run.Makes.get' ?_
      rw [length_rows (Heap.holds_empty left)]
      simp only [List.length_nil]
      exact Run.Makes.lift' (Run.Makes.allocInts rfl)
    | cons => simp at even
  | cons =>
    cases ys with
    | nil => simp at even
    | cons =>
      simp only [List.isEmpty_cons, Bool.not_false, Bool.and_self, ↓reduceIte]
      exact pairwise_ints arithmetic_times_ints left right

namespace Grid

/-- Operands that the matrix product takes: two flat lists, or two matrices, the first with as
many columns as the second has rows. -/
def Multiplies : Grid → Grid → Prop
  | .flat _, .flat _ => True
  | .rows A, .rows B => ∃ p k n, Sized A p k ∧ Sized B k n
  | _, _ => False

/-- What the matrix product makes of two operands: item by item on flat lists; on matrices, the
product over as many terms as the first matrix's first row is long and as many columns as the
second's is. A flat list facing a matrix is spread first, which `Multiplies` leaves out. -/
def product : Grid → Grid → Grid
  | .flat xs, .flat ys => .flat (List.zipWith (· * ·) xs ys)
  | .rows A, .rows B => .rows (times A B (A.headD []).length (B.headD []).length)
  | a, _ => a

end Grid

/-- **The matrix product.** On a machine where `.*` is the matrix product, `.*` on two matrices of
integer rows, the first `p × k` and the second `k × n`, makes their `p × n` product, whose entry
`(i, j)` is the sum over `t < k` of `A[i][t] * B[t][j]`, only growing the heap; on two flat lists
it multiplies item by item up to the shorter one, except that an empty list facing a non-empty
one is taken for a matrix whose first row is missing, which raises `IndexError`. -/
theorem elementwise_multiplies (product : m.product = true) {a b : Grid}
    (left : m.heap.Holds x a) (right : m.heap.Holds y b) (operands : a.Multiplies b) :
    if a.lopsided b then
      (elementwise ".*" x y).run m = .error (.raised (.op (.index "list index out of range"))) m
    else (elementwise ".*" x y).Makes m fun v h => h.Holds v (a.product b) := by
  have known : (".*" == ".*" && !m.product) = false := by simp [product]
  cases a with
  | flat xs =>
    cases b with
    | flat ys =>
      by_cases even : xs.isEmpty = ys.isEmpty
      · rw [if_neg (by simp [Grid.lopsided, even])]
        refine elementwise_of known (Q := fun p _ => p = (x, y))
          (Run.Makes.of_steady (broadcast_flat left right even) rfl) fun p h grown same => ?_
        subst same
        rw [combine_times]
        exact matrixProduct_flat (left.grow grown) (right.grow grown) even
      · rw [if_pos (by simpa [Grid.lopsided] using even)]
        exact elementwise_stops known (broadcast_lopsided left right even)
    | rows => cases operands
  | rows A =>
    cases b with
    | flat => cases operands
    | rows B =>
      obtain ⟨p, k, n, sizedA, sizedB⟩ := operands
      rw [if_neg (by simp [Grid.lopsided])]
      simp only [Grid.product, sizedA.headD_length, sizedB.headD_length]
      refine elementwise_of known (Q := fun p _ => p = (x, y))
        (Run.Makes.of_steady (broadcast_rows left right) rfl) fun q h grown same => ?_
      subst same
      rw [combine_times]
      exact matrixProduct_sized (left.grow grown) (right.grow grown) sizedA sizedB

/-- On the matrix `[[3, 4], [5, 6]]` the matrix product squares it. -/
theorem elementwise_multiplies_square :
    ({ heap := Heap.sample, product := true } : Machine).product = true ∧
      (Grid.rows [[3, 4], [5, 6]]).Multiplies (.rows [[3, 4], [5, 6]]) ∧
      (elementwise ".*" (.list 1) (.list 1)).Makes { heap := Heap.sample, product := true }
        fun v h => h.Holds v (.rows [[29, 36], [45, 56]]) := by
  have sized : Grid.Sized [[3, 4], [5, 6]] 2 2 :=
    ⟨rfl, by decide, by decide, ⟨by decide, by decide⟩, by decide⟩
  have squared := elementwise_multiplies (m := { heap := Heap.sample, product := true }) rfl
    Heap.sample_matrix Heap.sample_matrix ⟨2, 2, 2, sized, sized⟩
  rw [if_neg (by decide)] at squared
  exact ⟨rfl, ⟨2, 2, 2, sized, sized⟩, squared⟩

/-- With `.*` the matrix product, `e = [1] * 0; x = [1, 2] .* e;` stops on an index error, where
two flat lists multiply item by item to the empty list: the empty `e` is taken for a matrix
whose first row is missing. -/
theorem Program.row_times_empty_raises :
    ∃ m, Program.run [some (.assign (.declare (.var "e" 1)
        (.arith "*" (.literal (.row ⟨[1], 1, 5⟩) 1) (.atom (.int 0 1)) 1) 1)),
      some (.assign (.declare (.var "x" 1)
        (.dotted ".*" (.literal (.row ⟨[1, 2], 1, 18⟩) 1) (.atom (.var "e" 1)) 1) 1))] true =
      .error (.raised (.op (.index "list index out of range")), m) := by
  refine Exists.intro ?m ?run
  case run => with_unfolding_all rfl

end MatrixLang.Script
