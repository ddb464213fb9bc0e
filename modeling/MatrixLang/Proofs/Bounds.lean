import MatrixLang.Script.Check
import MatrixLang.Annotated.Check
import Mathlib

/-!
# Bounds of element references and slices

A matrix declared from a literal whose rows have one length, from a single row, or from
`zeros`, `ones` or `eye` of a positive size has extents (`Expr.extents`): its rows and columns,
or the length of its one row. Literal indices are `inside` the extents when there are no more
of them than extents and each is below the extent of its own dimension; literal ends of a slice
are `within` the rows when the start is at most the end and the end at most the number of rows.

The checker of version 5 records the rows, the columns and the number of dimensions of each
matrix it declares, and reports exactly the references out of range: one in range leaves the
checker as it was, one out of range adds one error and nothing else (`Element.check_bounds`,
`Slice.check_bounds`, with `Assign.declare_extents` for what a declaration records). The checker
of version 4 records one size per matrix, the length of its rows, and compares every index with
it (`elementCheck_bounds`): the law it checks is `inside` extents that repeat the row length,
which is the law of the declared extents only for vectors and square matrices
(`inside_widths_of_square`). The main result is `references_checked_against_extents`.
-/

namespace MatrixLang

/-- Whether indices reach into a matrix of the given extents: no more indices than extents, and
each index below the extent of its own dimension. -/
def inside : List Nat → List Nat → Bool
  | _, [] => true
  | [], _ :: _ => false
  | e :: ext, i :: idx => decide (i < e) && inside ext idx

example : inside [2, 3] [1, 2] = true ∧ inside [2, 3] [2, 0] = false ∧ inside [3] [0, 0] = false := by
  decide

/-- Whether a slice from `b` (the first row when absent) to `e` (past the last row when absent)
lies within `rows` rows. -/
def within (rows : Nat) (b e : Option Nat) : Bool :=
  decide (b.getD 0 ≤ e.getD rows) && decide (e.getD rows ≤ rows)

/-- The extents of a matrix literal with rows of the given lengths, when all are the same. -/
def rowsExtents (widths : List Nat) : Option (List Nat) :=
  if widths.all (· == widths.headD 0) then some [widths.length, widths.headD 0] else none

/-- The extents of the square matrix that `zeros`, `ones` and `eye` make of a positive size. -/
def squareExtents (n : Nat) : Option (List Nat) := if n = 0 then none else some [n, n]

/-- Extents that repeat the length of the rows once for each dimension. -/
def widths (ext : List Nat) : List Nat := List.replicate ext.length (ext.getLast?.getD 0)

/-- Rows with extents all have the length of the first, which is the second extent. -/
theorem rowsExtents_some {α : Type} {width : α → Nat} {rs : List α} {ext : List Nat}
    (shape : rowsExtents (rs.map width) = some ext) :
    (¬ ∃ r ∈ rs, ¬ width r = (rs.head?.map width).getD 0) ∧
      ext = [rs.length, (rs.head?.map width).getD 0] := by
  unfold rowsExtents at shape
  split at shape
  next even =>
    cases shape
    cases rs <;> simp_all
  next => cases shape

theorem squareExtents_some {k : Nat} {ext : List Nat} (shape : squareExtents k = some ext) :
    k ≠ 0 ∧ ext = [k, k] := by
  unfold squareExtents at shape
  split at shape
  next => cases shape
  next positive =>
    cases shape
    exact ⟨positive, rfl⟩

/-- A check that ends in one state when a test passes and reports an error otherwise. -/
theorem exists_reported {ε σ α : Type} (fits : Bool) (a b : α) (c : σ) (report : String → σ)
    (text : String) :
    ∃ t text', (if fits then .ok a c else .ok b (report text) : EStateM.Result ε σ α) =
      .ok t (if fits then c else report text') := by
  cases fits
  · exact ⟨b, text, rfl⟩
  · exact ⟨a, text, rfl⟩

theorem inside_replicate (n size : Nat) (idx : List Nat) :
    inside (List.replicate n size) idx = (decide (idx.length ≤ n) && idx.all (· < size)) := by
  induction idx generalizing n with
  | nil => simp [inside]
  | cons i idx more =>
    cases n with
    | zero => simp [inside]
    | succ n =>
      simp only [List.replicate_succ, inside, more, List.length_cons, List.all_cons]
      simp only [Nat.add_le_add_iff_right]
      cases decide (i < size) <;> simp

/-- For a vector and a square matrix, repeating the row length gives the extents themselves. -/
theorem inside_widths_of_square {ext : List Nat} (square : ∀ e ∈ ext, e = ext.getLast?.getD 0)
    (idx : List Nat) : inside (widths ext) idx = inside ext idx := by
  have same : widths ext = ext := (List.eq_replicate_iff.mpr ⟨rfl, square⟩).symm
  rw [same]

end MatrixLang

/-! ### Version 5 -/

namespace MatrixLang.Script

/-- The value of an index written as a literal. -/
def Index.value? : Index → Option Nat
  | .lit v _ => some v
  | .name .. => none

/-- The name an element reference reads. -/
def Element.name : Element → String
  | .pair id .. | .single id .. => id

/-- The indices of an element reference. -/
def Element.indices : Element → List Index
  | .pair _ r c _ => [r, c]
  | .single _ r _ => [r]

def Element.line : Element → Nat
  | .pair _ _ _ l | .single _ _ l => l

/-- The name a slice reads. -/
def Slice.name : Slice → String
  | .both id .. | .upTo id .. | .onwards id .. => id

/-- The literal ends of a slice, each absent where the slice leaves it out, when every end it
has is a literal. -/
def Slice.literalEnds : Slice → Option (Option Nat × Option Nat)
  | .both _ b e _ => b.value?.bind fun b => e.value?.map fun e => (some b, some e)
  | .upTo _ e _ => e.value?.map fun e => (none, some e)
  | .onwards _ b _ => b.value?.map fun b => (some b, none)

def Slice.line : Slice → Nat
  | .both _ _ _ l | .upTo _ _ l | .onwards _ _ l => l

/-- The extents the checker reads off a matrix symbol: rows and columns of a matrix of two
dimensions, the rows alone otherwise. -/
def extentsOf (rows cols dim : Nat) : List Nat := if dim < 2 then [rows] else [rows, cols]

/-- The extents of the matrix an expression makes: a literal with rows of one length, a single
row, or `zeros`, `ones` or `eye` of a positive size. -/
def Expr.extents : Expr → Option (List Nat)
  | .literal (.rows rs _) _ => rowsExtents (rs.map (·.nums.length))
  | .literal (.row r) _ => some [r.nums.length]
  | .matrixFun _ n _ => squareExtents n
  | _ => none

/-- The checker after reporting an error on a line. -/
def Checker.flagged (c : Checker) (line : Nat) (text : String) : Checker :=
  { c with errors := c.errors.push s!"Błąd w linii {line}: {text}" }

@[simp] theorem Check.flag_run (c : Checker) (line : Nat) (text : String) :
    (Check.flag line text).run c = .ok () (c.flagged line text) := rfl

section References

variable {c : Checker} {id n : String} {rows cols dim : Nat}

theorem Element.pair_bounds (visible : c.lookup id = some (.matrix n rows cols dim))
    {r k : Index} {i j l : Nat} (row : r.value? = some i) (col : k.value? = some j) :
    (Element.pair id r k l).check.run c =
      if inside (extentsOf rows cols dim) [i, j] then .ok (some .int) c
      else .ok none (c.flagged l (if dim < 2 then "za dużo argumentów!" else "zły wymiar macierzy!")) := by
  cases r <;> cases row
  cases k <;> cases col
  simp [Element.check, Index.check, Index.literal, Check.matrixNamed, visible, extentsOf]
  -- the checker's three tests are the three ways of falling outside the extents
  split_ifs <;> simp_all [inside] <;> omega

theorem Element.single_bounds (visible : c.lookup id = some (.matrix n rows cols dim))
    {r : Index} {i l : Nat} (row : r.value? = some i) :
    (Element.single id r l).check.run c =
      if inside (extentsOf rows cols dim) [i] then .ok (some .vector) c
      else .ok none (c.flagged l "zły wymiar macierzy!") := by
  cases r <;> cases row
  simp [Element.check, Index.check, Index.literal, Check.matrixNamed, visible, extentsOf]
  -- either way the row is the first extent
  split_ifs <;> simp_all [inside] <;> omega

theorem Slice.both_bounds (visible : c.lookup id = some (.matrix n rows cols dim))
    {b e : Index} {i j l : Nat} (start : b.value? = some i) (stop : e.value? = some j) :
    (Slice.both id b e l).check.run c =
      if within rows (some i) (some j) then .ok (some .vector) c
      else .ok none (c.flagged l "zły wymiar tablicy!") := by
  cases b <;> cases start
  cases e <;> cases stop
  simp [Slice.check, Index.check, Index.literal, Check.matrixNamed, visible]
  split_ifs <;> simp_all [within] <;> omega

theorem Slice.upTo_bounds (visible : c.lookup id = some (.matrix n rows cols dim))
    {e : Index} {j l : Nat} (stop : e.value? = some j) :
    (Slice.upTo id e l).check.run c =
      if within rows none (some j) then .ok (some .vector) c
      else .ok none (c.flagged l "zły wymiar tablicy!") := by
  cases e <;> cases stop
  simp [Slice.check, Index.check, Index.literal, Check.matrixNamed, visible]
  by_cases past : rows < j <;> simp [past, within]

theorem Slice.onwards_bounds (visible : c.lookup id = some (.matrix n rows cols dim))
    {b : Index} {i l : Nat} (start : b.value? = some i) :
    (Slice.onwards id b l).check.run c =
      if within rows (some i) none then .ok (some .vector) c
      else .ok none (c.flagged l "zły wymiar tablicy!") := by
  cases b <;> cases start
  simp [Slice.check, Index.check, Index.literal, Check.matrixNamed, visible]
  by_cases past : rows < i <;> simp [past, within]

/-- An element reference with literal indices to a matrix is reported, by one error, exactly
when its indices are not inside the matrix's extents. -/
theorem Element.check_bounds {r : Element} {idx : List Nat}
    (visible : c.lookup r.name = some (.matrix n rows cols dim))
    (literal : r.indices.mapM Index.value? = some idx) :
    ∃ t text, r.check.run c =
      .ok t (if inside (extentsOf rows cols dim) idx then c else c.flagged r.line text) := by
  cases r with
  | pair id a b l =>
    simp only [Element.name] at visible
    obtain ⟨i, row, j, col, rfl⟩ : ∃ i, a.value? = some i ∧ ∃ j, b.value? = some j ∧ idx = [i, j] := by
      cases row : a.value? <;> cases col : b.value? <;> simp_all [Element.indices, eq_comm]
    rw [Element.pair_bounds visible row col]
    exact exists_reported ..
  | single id a l =>
    simp only [Element.name] at visible
    obtain ⟨i, row, rfl⟩ : ∃ i, a.value? = some i ∧ idx = [i] := by
      cases row : a.value? <;> simp_all [Element.indices, eq_comm]
    rw [Element.single_bounds visible row]
    exact exists_reported ..

/-- A slice with literal ends of a matrix is reported, by one error, exactly when it does not
lie within the matrix's rows. -/
theorem Slice.check_bounds {s : Slice} {b e : Option Nat}
    (visible : c.lookup s.name = some (.matrix n rows cols dim))
    (literal : s.literalEnds = some (b, e)) :
    ∃ t text, s.check.run c = .ok t (if within rows b e then c else c.flagged s.line text) := by
  cases s with
  | both id x y l =>
    simp only [Slice.name] at visible
    cases start : x.value? with
    | none => simp [Slice.literalEnds, start] at literal
    | some i =>
      cases stop : y.value? with
      | none => simp [Slice.literalEnds, start, stop] at literal
      | some j =>
        obtain ⟨rfl, rfl⟩ : some i = b ∧ some j = e := by
          simpa [Slice.literalEnds, start, stop] using literal
        rw [Slice.both_bounds visible start stop]
        exact exists_reported ..
  | upTo id y l =>
    simp only [Slice.name] at visible
    cases stop : y.value? with
    | none => simp [Slice.literalEnds, stop] at literal
    | some j =>
      obtain ⟨rfl, rfl⟩ : none = b ∧ some j = e := by simpa [Slice.literalEnds, stop] using literal
      rw [Slice.upTo_bounds visible stop]
      exact exists_reported ..
  | onwards id x l =>
    simp only [Slice.name] at visible
    cases start : x.value? with
    | none => simp [Slice.literalEnds, start] at literal
    | some i =>
      obtain ⟨rfl, rfl⟩ : some i = b ∧ none = e := by simpa [Slice.literalEnds, start] using literal
      rw [Slice.onwards_bounds visible start]
      exact exists_reported ..

end References

/-- Declaring a name from an expression with extents records a matrix symbol with those
extents, and changes nothing else. -/
theorem Assign.declare_extents {e : Expr} {ext : List Nat} (shape : e.extents = some ext)
    (c : Checker) (id : String) (l l' : Nat) :
    ∃ rows cols dim, (Assign.check (.declare (.var id l) e l')).run c =
      .ok () (c.put id (.matrix id rows cols dim)) ∧ extentsOf rows cols dim = ext := by
  cases e with
  | literal m _ =>
    cases m with
    | rows rs _ =>
      obtain ⟨uniform, rfl⟩ := rowsExtents_some shape
      refine ⟨_, _, 2, ?_, rfl⟩
      simp [Assign.check, Expr.check, Expr.shape, declareShape, uniform]
    | row r =>
      cases shape
      exact ⟨_, 1, 1, rfl, rfl⟩
  | matrixFun f k _ =>
    obtain ⟨-, rfl⟩ := squareExtents_some shape
    exact ⟨k, k, 2, rfl, rfl⟩
  | _ => cases shape

/-- A declaration gives its name the symbol declared, when a scope is open to hold it. -/
theorem Checker.lookup_put_same {c : Checker} {x : String} {sym found : Symbol}
    (made : (c.put x sym).lookup x = some found) : found = sym := by
  unfold Checker.put at made
  split at made
  next => simpa [Checker.lookup] using made.symm
  next scopes => simp [Checker.lookup, scopes] at made

/-- What a name declared from an expression with extents stands for right after the
declaration: a matrix symbol with those extents. -/
theorem Assign.declared_extents {c₀ c₁ : Checker} {id : String} {l l' : Nat} {e : Expr}
    {ext : List Nat} {sym : Symbol}
    (declared : (Assign.check (.declare (.var id l) e l')).run c₀ = .ok () c₁)
    (shape : e.extents = some ext) (made : c₁.lookup id = some sym) :
    ∃ rows cols dim, sym = .matrix id rows cols dim ∧ extentsOf rows cols dim = ext := by
  obtain ⟨rows, cols, dim, ran, extents⟩ := Assign.declare_extents shape c₀ id l l'
  rw [ran] at declared
  cases declared
  exact ⟨rows, cols, dim, Checker.lookup_put_same made, extents⟩

end MatrixLang.Script

/-! ### Version 4 -/

namespace MatrixLang.Annotated

/-- The value of an index written as a literal. -/
def Index.value? : Index → Option Nat
  | .lit v _ => some v
  | .name .. => none

/-- The extents of the matrix an expression makes: a literal with rows of one length, a single
row, or `zeros`, `ones` or `eye` of a positive size. -/
def Expr.extents : Expr → Option (List Nat)
  | .literal (.rows rs _) _ => rowsExtents (rs.map (·.nums.length))
  | .literal (.row r) _ => some [r.nums.length]
  | .matrixFun _ n _ => squareExtents n
  | _ => none

/-- The checker after printing an error on a line. -/
def Checker.flagged (c : Checker) (line : Nat) (text : String) : Checker :=
  { c with console := c.console.printLine s!"Błąd w linii {line}: {text}" }

@[simp] theorem Check.flag_run (c : Checker) (line : Nat) (text : String) :
    (Check.flag line text).run c = .ok () (c.flagged line text) := rfl

/-- Literal indices below a size pass; the first that is not is reported. -/
theorem indicesBelow_literal (size line : Nat) {is : List Index} {idx : List Nat}
    (literal : is.mapM Index.value? = some idx) (c : Checker) :
    (indicesBelow size line is).run c =
      if idx.all (· < size) then .ok true c else .ok false (c.flagged line "zły wymiar macierzy!") := by
  induction is generalizing idx with
  | nil =>
    cases literal
    rfl
  | cons i is more =>
    cases i with
    | name => simp [Index.value?] at literal
    | lit v _ =>
      cases rest : is.mapM Index.value? with
      | none => simp [Index.value?, rest] at literal
      | some vs =>
        obtain rfl : v :: vs = idx := by simpa [Index.value?, rest] using literal
        by_cases big : size ≤ v
        · simp [indicesBelow, Index.literal, big]
        · simp [indicesBelow, Index.literal, big, more rest, Nat.lt_of_not_le big]

theorem Index.length_values {is : List Index} {idx : List Nat}
    (literal : is.mapM Index.value? = some idx) : is.length = idx.length := by
  induction is generalizing idx with
  | nil =>
    cases literal
    rfl
  | cons i is more =>
    cases value : i.value? with
    | none => simp [value] at literal
    | some v =>
      cases rest : is.mapM Index.value? with
      | none => simp [value, rest] at literal
      | some vs =>
        obtain rfl : v :: vs = idx := by simpa [value, rest] using literal
        simp [more rest]

/-- Checking literal indices changes nothing. -/
theorem Index.checks_literal {is : List Index} {idx : List Nat}
    (literal : is.mapM Index.value? = some idx) (c : Checker) :
    (forIn is PUnit.unit fun (i : Index) _ => do
      let _ ← i.check
      pure (ForInStep.yield PUnit.unit)).run c = .ok PUnit.unit c := by
  induction is generalizing idx with
  | nil => rfl
  | cons i is more =>
    cases i with
    | name => simp [Index.value?] at literal
    | lit v _ =>
      cases rest : is.mapM Index.value? with
      | none => simp [Index.value?, rest] at literal
      | some vs =>
        rw [List.forIn_cons, EStateM.run_bind]
        exact more rest

theorem elementCheck_bounds {c : Checker} {id n : String} {size dim : Nat}
    (visible : c.lookup id = some (.matrix n size dim)) {is : List Index} {idx : List Nat}
    (literal : is.mapM Index.value? = some idx) (l : Nat) :
    (elementCheck id is l).run c =
      if inside (List.replicate dim size) idx then
        .ok (some (if idx.length == dim then .int else .vector)) c
      else .ok none (c.flagged l (if dim < idx.length then "za dużo indeksów jest!" else "zły wymiar macierzy!")) := by
  unfold elementCheck
  rw [EStateM.run_bind, Index.checks_literal literal]
  simp [Check.matrixNamed, visible, Index.length_values literal]
  rw [inside_replicate]
  by_cases many : dim < idx.length
  · -- more indices than dimensions
    have excess : decide (idx.length ≤ dim) = false := by simpa using many
    simp [many, excess]
  · have fits : decide (idx.length ≤ dim) = true := by simpa using many
    rw [if_neg many, EStateM.run_bind, indicesBelow_literal size l literal c, fits, Bool.true_and]
    cases idx.all (· < size) <;> simp [many]

/-- Declaring a name from an expression with extents records a matrix symbol whose one size is
the length of the rows, and changes nothing else. -/
theorem Assign.declare_extents {e : Expr} {ext : List Nat} (shape : e.extents = some ext)
    (c : Checker) (id : String) (l l' : Nat) :
    (Assign.check (.declare (.var id l) e l')).run c =
      .ok () (c.put id (.matrix id (ext.getLast?.getD 0) ext.length)) := by
  cases e with
  | literal m _ =>
    cases m with
    | rows rs _ =>
      obtain ⟨uniform, rfl⟩ := rowsExtents_some shape
      simp [Assign.check, Expr.check, uniform]
    | row r =>
      cases shape
      rfl
  | matrixFun f k _ =>
    obtain ⟨positive, rfl⟩ := squareExtents_some shape
    simp [Assign.check, Expr.check, matrixFunctionCheck, positive]
  | _ => cases shape

/-- A declaration gives its name the symbol declared, when a scope is open to hold it. -/
theorem Checker.lookup_put_same {c : Checker} {x : String} {sym found : Symbol}
    (made : (c.put x sym).lookup x = some found) : found = sym := by
  unfold Checker.put at made
  split at made
  next => simpa [Checker.lookup] using made.symm
  next scopes => simp [Checker.lookup, scopes] at made

/-- What a name declared from an expression with extents stands for right after the
declaration: a matrix symbol of as many dimensions as extents, sized by the last. -/
theorem Assign.declared_extents {c₀ c₁ : Checker} {id : String} {l l' : Nat} {e : Expr}
    {ext : List Nat} {sym : Symbol}
    (declared : (Assign.check (.declare (.var id l) e l')).run c₀ = .ok () c₁)
    (shape : e.extents = some ext) (made : c₁.lookup id = some sym) :
    sym = .matrix id (ext.getLast?.getD 0) ext.length := by
  rw [Assign.declare_extents shape] at declared
  cases declared
  exact Checker.lookup_put_same made

end MatrixLang.Annotated

namespace MatrixLang

/-- **Bounds of references.** Take a name declared from a matrix literal with rows of one
length or a single row, or from `zeros`, `ones` or `eye` of a positive size, and any later state
of the checker in which the name still stands for the symbol declared. The checker of version 5
then reports an element reference to the name with literal indices exactly when the indices are
not inside the declared extents, and a slice with literal ends exactly when it does not lie
within the rows: a reference in range changes nothing, one out of range adds one error and
nothing else. The checker of version 4 reports an element reference with literal indices
exactly when they are not inside extents that repeat the length of the rows, once for each
dimension: in range it changes nothing, out of range it prints one error and nothing else. -/
theorem references_checked_against_extents {id : String} {ext : List Nat} {l l' : Nat}
    {c₀ c₁ c : Script.Checker} {e : Script.Expr} {sym : Script.Symbol}
    (declared : (Script.Assign.check (.declare (.var id l) e l')).run c₀ = .ok () c₁)
    (shape : e.extents = some ext) (made : c₁.lookup id = some sym)
    (visible : c.lookup id = some sym)
    {k k' : Nat} {d₀ d₁ d : Annotated.Checker} {e' : Annotated.Expr} {sym' : Annotated.Symbol}
    (printed : (Annotated.Assign.check (.declare (.var id k) e' k')).run d₀ = .ok () d₁)
    (shape' : e'.extents = some ext) (made' : d₁.lookup id = some sym')
    (visible' : d.lookup id = some sym') :
    (∀ (r : Script.Element) (idx : List Nat), r.name = id →
      r.indices.mapM Script.Index.value? = some idx →
      ∃ t text, r.check.run c = .ok t (if inside ext idx then c else c.flagged r.line text)) ∧
    (∀ (s : Script.Slice) (b f : Option Nat), s.name = id → s.literalEnds = some (b, f) →
      ∃ t text, s.check.run c =
        .ok t (if within (ext.headD 0) b f then c else c.flagged s.line text)) ∧
    (∀ (is : List Annotated.Index) (idx : List Nat) (line : Nat),
      is.mapM Annotated.Index.value? = some idx →
      ∃ t text, (Annotated.elementCheck id is line).run d =
        .ok t (if inside (widths ext) idx then d else d.flagged line text)) := by
  obtain ⟨rows, cols, dim, rfl, rfl⟩ := Script.Assign.declared_extents declared shape made
  rw [Annotated.Assign.declared_extents printed shape' made'] at visible'
  refine ⟨fun r idx named literal => ?_, fun s b f named literal => ?_,
    fun is idx line literal => ?_⟩
  · subst named
    exact Script.Element.check_bounds visible literal
  · subst named
    -- a slice reads the rows, the first extent of a matrix and of a vector alike
    have first : (Script.extentsOf rows cols dim).headD 0 = rows := by
      unfold Script.extentsOf
      split <;> rfl
    rw [first]
    exact Script.Slice.check_bounds visible literal
  · rw [Annotated.elementCheck_bounds visible' literal line]
    exact exists_reported ..

/-- A `2 × 3` matrix declared from a literal: the version 5 checker reports `A[2, 0]`, past the
last row, while the version 4 checker, comparing the row index with the three columns, lets it
pass. -/
theorem references_checked_on_wide_matrix :
    ∃ c d, (Script.Assign.check (.declare (.var "A" 1)
        (.literal (.rows [⟨[1, 2, 3], 1, 6⟩, ⟨[4, 5, 6], 1, 17⟩] 1) 1) 1)).run {} = .ok () c ∧
      (Annotated.Assign.check (.declare (.var "A" 1)
        (.literal (.rows [⟨[1, 2, 3], 1⟩, ⟨[4, 5, 6], 1⟩] 1) 1) 1)).run {} = .ok () d ∧
      (∃ t text, (Script.Element.check (.pair "A" (.lit 2 1) (.lit 0 1) 1)).run c =
        .ok t (c.flagged 1 text)) ∧
      ∃ t, (Annotated.elementCheck "A" [.lit 2 1, .lit 0 1] 1).run d = .ok t d := by
  have declared : (Script.Assign.check (.declare (.var "A" 1)
      (.literal (.rows [⟨[1, 2, 3], 1, 6⟩, ⟨[4, 5, 6], 1, 17⟩] 1) 1) 1)).run {} =
      .ok () (({} : Script.Checker).put "A" (.matrix "A" 2 3 2)) := rfl
  have printed : (Annotated.Assign.check (.declare (.var "A" 1)
      (.literal (.rows [⟨[1, 2, 3], 1⟩, ⟨[4, 5, 6], 1⟩] 1) 1) 1)).run {} =
      .ok () (({} : Annotated.Checker).put "A" (.matrix "A" 3 2)) := rfl
  obtain ⟨elements, -, indices⟩ := references_checked_against_extents
    (c := ({} : Script.Checker).put "A" (.matrix "A" 2 3 2)) declared rfl rfl rfl
    (d := ({} : Annotated.Checker).put "A" (.matrix "A" 3 2)) printed rfl rfl rfl
  obtain ⟨t, text, reported⟩ := elements (.pair "A" (.lit 2 1) (.lit 0 1) 1) [2, 0] rfl rfl
  obtain ⟨t', _, passed⟩ := indices [.lit 2 1, .lit 0 1] [2, 0] 1 rfl
  exact ⟨_, _, declared, printed, ⟨t, text, reported⟩, t', passed⟩

/-- `A = [[1, 2, 3], [4, 5, 6]]; x = A[2, 0];` passes the version 4 checker with nothing
printed, although row `2` is past the two rows the literal has. -/
theorem Annotated.Program.row_index_checked_against_width :
    Annotated.Expr.extents (.literal (.rows [⟨[1, 2, 3], 1⟩, ⟨[4, 5, 6], 1⟩] 1) 1) = some [2, 3] ∧
      inside [2, 3] [2, 0] = false ∧
      ∃ c, Annotated.Program.check
        [some (.assign (.declare (.var "A" 1)
          (.literal (.rows [⟨[1, 2, 3], 1⟩, ⟨[4, 5, 6], 1⟩] 1) 1) 1)),
        some (.assign (.declare (.var "x" 1) (.element "A" [.lit 2 1, .lit 0 1] 1) 1))] = .ok c ∧
        c.console.stdout = "" := by
  refine ⟨rfl, rfl, _, rfl, ?_⟩
  rfl

end MatrixLang
