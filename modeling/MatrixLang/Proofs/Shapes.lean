import MatrixLang.Script.Check
import MatrixLang.Script.Eval

/-!
# Values of the checker's types on a growing heap

The checker gives a name a type and, for a matrix, a size; the interpreter gives it a value,
and a list value is a reference into the heap. `Heap.admits` says when a value is one of a type
and `Heap.fits` when it has the shape of a symbol: a matrix of two dimensions is a list of rows
of equal length, one of one dimension a flat list of numbers.

Both only look at lists already on the heap, so they stay true while the heap only grows
(`Heap.Extends`): allocation adds lists and never changes one. Every operation on values but
item assignment only allocates, and each gives a value of the type the operator table promises
for operands of the types it lists (`Heap.add_admits` and its companions).
-/
namespace MatrixLang.Script

/-! ### A heap that only grows -/

/-- A heap extends another when its lists start with the other's lists. -/
def Heap.Extends (h h' : Heap) : Prop := h.cells.toList <+: h'.cells.toList

namespace Heap.Extends

variable {h h₁ h₂ : Heap}

@[refl] theorem refl (h : Heap) : h.Extends h := List.prefix_refl _

theorem trans (first : h.Extends h₁) (second : h₁.Extends h₂) : h.Extends h₂ :=
  List.IsPrefix.trans first second

theorem size_le (grown : h.Extends h₁) : h.cells.size ≤ h₁.cells.size := by
  simpa using grown.length_le

/-- The lists a heap has keep their items in every heap that extends it. -/
theorem items (grown : h.Extends h₁) {r : Nat} (valid : r < h.cells.size) :
    h₁.items r = h.items r := by
  obtain ⟨more, grew⟩ := grown
  have kept : h₁.cells[r]? = h.cells[r]? := by
    rw [← Array.getElem?_toList, ← grew, List.getElem?_append_left (by simpa using valid),
      Array.getElem?_toList]
  simp only [Heap.items, kept]

end Heap.Extends

namespace Heap

variable {h h' : Heap}

@[simp] theorem size_alloc (h : Heap) (items : Array Value) :
    (h.alloc items).2.cells.size = h.cells.size + 1 := by
  simp [Heap.alloc]

@[simp] theorem items_alloc (h : Heap) (items : Array Value) :
    (h.alloc items).2.items h.cells.size = items := by
  simp [Heap.alloc, Heap.items]

@[simp] theorem alloc_fst (h : Heap) (items : Array Value) :
    (h.alloc items).1 = .list h.cells.size := rfl

/-- An allocation gives the new list and the heap that holds it. -/
theorem alloc_eq {items : Array Value} {v : Value} (made : h.alloc items = (v, h')) :
    v = (h.alloc items).1 ∧ h' = (h.alloc items).2 := by
  rw [made]
  exact ⟨rfl, rfl⟩

theorem extends_alloc (h : Heap) (items : Array Value) : h.Extends (h.alloc items).2 :=
  ⟨[items], by simp [Heap.alloc]⟩

@[simp] theorem cells_box (h : Heap) (n : Num) : (h.box n).2.cells = h.cells := by
  cases n with
  | int _ => rfl
  | float x => by_cases nan : Binary64.isNaN x <;> simp [Heap.box, nan]

theorem extends_box (h : Heap) (n : Num) : h.Extends (h.box n).2 := by
  simp [Heap.Extends]

end Heap

/-! ### Kinds and shapes of values -/

/-- A number of the interpreter: an integer or a double, a NaN included. -/
def Value.isNumber : Value → Bool
  | .int _ | .float _ | .nan _ => true
  | _ => false

/-- Whether a value is one the checker can give no type: a matrix literal, or the negation of a
string or of a comparison, which negation leaves as they are. -/
def Value.untyped : Value → Bool
  | .list _ | .str _ | .bool _ => true
  | _ => false

namespace Heap

/-- Whether a value is one of a type; a list is one only while it is on the heap. -/
def admits (h : Heap) : Ty → Value → Bool
  | .int, .int _ => true
  | .float, .float _ | .float, .nan _ => true
  | .string, .str _ => true
  | .logic, .bool _ => true
  | .vector, .list r => decide (r < h.cells.size)
  | _, _ => false

/-- Whether a value is one of a type, or one the checker gives no type when there is none. -/
def admitsOpt (h : Heap) : Option Ty → Value → Bool
  | some t, v => h.admits t v
  | none, v => v.untyped

/-- Whether a value is a list on the heap of `n` items that all pass `each`. -/
def listOf (h : Heap) (n : Nat) (each : Value → Bool) : Value → Bool
  | .list r => decide (r < h.cells.size) && (h.items r).size == n && (h.items r).all each
  | _ => false

/-- Whether a value has the shape of a symbol: a scalar is a value of its type; a matrix of two
dimensions and size `r × c` is a list of `r` lists of `c` numbers, one of one dimension and size
`n × 1` a list of `n` numbers, and any other matrix a list. -/
def fits (h : Heap) : Symbol → Value → Bool
  | .scalar _ t, v => h.admits t v
  | .matrix _ r c d, v =>
    if d = 2 then h.listOf r (h.listOf c Value.isNumber) v
    else if d = 1 then h.listOf r Value.isNumber v
    else h.admits .vector v

variable {h h' : Heap}

/-- A new list of `n` items that all pass `each` on the heap it is put on. -/
theorem listOf_alloc {items : Array Value} {n : Nat} {each : Value → Bool}
    (counted : items.size = n) (all : ∀ x ∈ items, each x = true) :
    (h.alloc items).2.listOf n each (h.alloc items).1 = true := by
  have listed : items.all each = true := Array.all_eq_true'.mpr all
  subst counted
  simp only [alloc_fst, listOf, size_alloc]
  rw [items_alloc]
  simp [listed]

theorem admits_vector_of_listOf {n : Nat} {each : Value → Bool} {v : Value}
    (listed : h.listOf n each v = true) : h.admits .vector v = true := by
  cases v <;> simp_all [listOf, admits]

/-- A value of the shape of a symbol is one of the symbol's type. -/
theorem admits_of_fits {sym : Symbol} {v : Value} (fit : h.fits sym v = true) :
    h.admits sym.ty v = true := by
  cases sym with
  | scalar _ t => exact fit
  | matrix _ r c d =>
    simp only [fits] at fit
    split at fit
    · exact admits_vector_of_listOf fit
    · split at fit
      · exact admits_vector_of_listOf fit
      · exact fit

end Heap

/-! ### Kinds and shapes last while the heap grows -/

namespace Heap.Extends

variable {h h₁ : Heap}

theorem admits (grown : h.Extends h₁) {t : Ty} {v : Value} (admitted : h.admits t v = true) :
    h₁.admits t v = true := by
  cases t <;> cases v <;>
    simp only [Heap.admits, decide_eq_true_eq, Bool.false_eq_true] at admitted ⊢
  -- only a list has to stay on the heap
  exact Nat.lt_of_lt_of_le admitted grown.size_le

theorem admitsOpt (grown : h.Extends h₁) {t : Option Ty} {v : Value}
    (admitted : h.admitsOpt t v = true) : h₁.admitsOpt t v = true := by
  cases t with
  | none => exact admitted
  | some t => exact grown.admits admitted

theorem listOf (grown : h.Extends h₁) {n : Nat} {each each' : Value → Bool}
    (weaker : ∀ x, each x = true → each' x = true) {v : Value}
    (listed : h.listOf n each v = true) : h₁.listOf n each' v = true := by
  cases v with
  | list r =>
    simp only [Heap.listOf, Bool.and_eq_true, decide_eq_true_eq, beq_iff_eq, Array.all_eq_true']
      at listed ⊢
    obtain ⟨⟨valid, size⟩, all⟩ := listed
    rw [grown.items valid]
    exact ⟨⟨Nat.lt_of_lt_of_le valid grown.size_le, size⟩, fun x member => weaker x (all x member)⟩
  | _ => simp [Heap.listOf] at listed

theorem fits (grown : h.Extends h₁) {sym : Symbol} {v : Value} (fit : h.fits sym v = true) :
    h₁.fits sym v = true := by
  cases sym with
  | scalar _ t => exact grown.admits fit
  | matrix _ r c d =>
    by_cases two : d = 2
    · simp only [Heap.fits, two, if_true] at fit ⊢
      exact grown.listOf (fun x => grown.listOf fun _ => id) fit
    by_cases one : d = 1
    · simp only [Heap.fits, one, if_true] at fit ⊢
      exact grown.listOf (fun _ => id) fit
    · simp only [Heap.fits, two, one, if_false] at fit ⊢
      exact grown.admits fit

end Heap.Extends

/-! ### Operations only allocate -/

namespace Heap

variable {h h' : Heap} {a b v : Value}

theorem extends_of_boxed {x : Except OpError Num} (boxed : x.map h.box = .ok (v, h')) :
    h.Extends h' := by
  cases x with
  | error e => cases boxed
  | ok n =>
    have made : h.box n = (v, h') := Except.ok.inj boxed
    rw [show h' = (h.box n).2 by rw [made]]
    exact h.extends_box n

theorem add_extends (added : h.add a b = .ok (v, h')) : h.Extends h' := by
  unfold Heap.add at added
  split at added
  · cases added; exact .refl h
  · cases added
  · cases added; exact h.extends_alloc _
  · cases added
  · split at added
    · exact extends_of_boxed added
    · cases added

theorem sub_extends (taken : h.sub a b = .ok (v, h')) : h.Extends h' := by
  unfold Heap.sub at taken
  split at taken
  · exact extends_of_boxed taken
  · cases taken

theorem repeatSeq_extends {count : Int} (made : h.repeatSeq a count = .ok (v, h')) :
    h.Extends h' := by
  unfold Heap.repeatSeq at made
  split at made
  · cases made
  · dsimp only at made
    split at made
    · -- a string: the heap is left alone
      split at made
      · cases made; exact .refl h
      · split at made
        · cases made
        · split at made
          · cases made
          · cases made; exact .refl h
    · -- a list: the repetition is a new list
      split at made
      · cases made; exact h.extends_alloc _
      · split at made
        · cases made
        · cases made; exact h.extends_alloc _
    · cases made; exact .refl h

theorem mul_extends (made : h.mul a b = .ok (v, h')) : h.Extends h' := by
  unfold Heap.mul at made
  split at made
  · exact extends_of_boxed made
  · split at made
    · split at made
      · exact repeatSeq_extends made
      · cases made
    · split at made
      · split at made
        · exact repeatSeq_extends made
        · cases made
      · cases made

theorem divide_extends (made : h.divide a b = .ok (v, h')) : h.Extends h' := by
  unfold Heap.divide at made
  split at made
  · exact extends_of_boxed made
  · cases made

theorem quotient_extends (made : h.quotient a b = .ok (v, h')) : h.Extends h' := by
  unfold Heap.quotient at made
  split at made
  · cases made; exact .refl h
  · exact divide_extends made

end Heap

/-! ### Operations keep to the operator table -/

/-- The type of a number. -/
def Num.ty : Num → Ty
  | .int _ => .int
  | .float _ => .float

/-- The type the operator table gives an arithmetic operation on two numbers. -/
def Ty.ofNumbers (a b : Ty) : Ty := if a == .int && b == .int then .int else .float

/-- An operation on two integers gives an integer, and a double as soon as a double takes
part. -/
theorem Num.lift_ty {f : Int → Int → Int} {g : Float → Float → Float} {a b n : Num}
    (lifted : Num.lift f g a b = .ok n) : n.ty = Ty.ofNumbers a.ty b.ty := by
  unfold Num.lift at lifted
  split at lifted
  · cases lifted; rfl
  · -- a double takes part: both operands are turned into doubles first
    next notBoth =>
    cases ha : Num.toFloat a with
    | error e => simp [ha, bind, Except.bind] at lifted
    | ok x =>
      cases hb : Num.toFloat b with
      | error e => simp [ha, hb, bind, Except.bind] at lifted
      | ok y =>
        simp only [ha, hb, bind, Except.bind] at lifted
        cases lifted
        cases a <;> cases b <;> simp_all [Num.ty, Ty.ofNumbers]

/-- A division gives a double. -/
theorem Num.divide_ty {a b n : Num} (divided : Num.divide a b = .ok n) : n.ty = .float := by
  unfold Num.divide at divided
  split at divided
  · split at divided
    · cases divided
    · split at divided
      · cases divided; rfl
      · cases divided
  · cases ha : Num.toFloat a with
    | error e => simp [ha, bind, Except.bind] at divided
    | ok x =>
      cases hb : Num.toFloat b with
      | error e => simp [ha, hb, bind, Except.bind] at divided
      | ok y =>
        simp only [ha, hb, bind, Except.bind] at divided
        split at divided
        · cases divided
        · cases divided; rfl

namespace Heap

variable {h h' : Heap} {a b v : Value}

/-- A number an operation has made is a value of its type. -/
theorem admits_box (h : Heap) (n : Num) : (h.box n).2.admits n.ty (h.box n).1 = true := by
  cases n with
  | int k => rfl
  | float x => by_cases nan : Binary64.isNaN x <;> simp [Heap.box, nan, Heap.admits, Num.ty]

theorem admits_boxed {x : Except OpError Num} {t : Ty} (boxed : x.map h.box = .ok (v, h'))
    (typed : ∀ n, x = .ok n → n.ty = t) : h'.admits t v = true := by
  cases x with
  | error e => cases boxed
  | ok n =>
    have made : h.box n = (v, h') := Except.ok.inj boxed
    rw [← typed n rfl, show v = (h.box n).1 by rw [made], show h' = (h.box n).2 by rw [made]]
    exact h.admits_box n

/-- A value of a number type stands for a number of that type. -/
theorem num_of_admits {t : Ty} (admitted : h.admits t a = true) (number : t.isNumber = true) :
    ∃ n, a.num? = some n ∧ n.ty = t := by
  cases t <;> cases a <;> simp_all [Heap.admits, Ty.isNumber, Value.num?, Num.ty]

/-- A value the checker gives no type stands, if for a number at all, for an integer. -/
theorem num_of_untyped {n : Num} (untyped : a.untyped = true) (number : a.num? = some n) :
    n.ty = .int := by
  cases a <;> simp_all [Value.untyped, Value.num?]
  subst number
  rfl

end Heap

/-! ### The operator table, operator by operator -/

section Table

variable {ta tb : Option Ty} {t : Ty}

/-- `+` takes two numbers or two strings. -/
theorem Ty.binary_plus (typed : Ty.binary "+" ta tb = some t) :
    (∃ a b, ta = some a ∧ tb = some b ∧ a.isNumber = true ∧ b.isNumber = true ∧
      t = Ty.ofNumbers a b) ∨ (ta = some .string ∧ tb = some .string ∧ t = .string) := by
  rcases ta with _ | ⟨_ | _ | _ | _ | _⟩ <;> rcases tb with _ | ⟨_ | _ | _ | _ | _⟩ <;>
    simp [Ty.binary, Ty.isNumber, Ty.ofNumbers, Ty.elementwise] at typed ⊢ <;> subst typed <;> simp

/-- `-` takes two numbers, or, as a negation, a number or a matrix and nothing. -/
theorem Ty.binary_minus (typed : Ty.binary "-" ta tb = some t) :
    (∃ a b, ta = some a ∧ tb = some b ∧ a.isNumber = true ∧ b.isNumber = true ∧
      t = Ty.ofNumbers a b) ∨ (ta = some t ∧ tb = none ∧ (t.isNumber = true ∨ t = .vector)) := by
  rcases ta with _ | ⟨_ | _ | _ | _ | _⟩ <;> rcases tb with _ | ⟨_ | _ | _ | _ | _⟩ <;>
    simp [Ty.binary, Ty.isNumber, Ty.ofNumbers, Ty.elementwise] at typed ⊢ <;> subst typed <;> simp

/-- `*` takes two numbers, or a string and an integer either way round. -/
theorem Ty.binary_times (typed : Ty.binary "*" ta tb = some t) :
    (∃ a b, ta = some a ∧ tb = some b ∧ a.isNumber = true ∧ b.isNumber = true ∧
      t = Ty.ofNumbers a b) ∨ (ta = some .string ∧ tb = some .int ∧ t = .string) ∨
      (ta = some .int ∧ tb = some .string ∧ t = .string) := by
  rcases ta with _ | ⟨_ | _ | _ | _ | _⟩ <;> rcases tb with _ | ⟨_ | _ | _ | _ | _⟩ <;>
    simp [Ty.binary, Ty.isNumber, Ty.ofNumbers, Ty.elementwise] at typed ⊢ <;> subst typed <;> simp

/-- `/` takes two numbers and gives a double. -/
theorem Ty.binary_slash (typed : Ty.binary "/" ta tb = some t) :
    ∃ a b, ta = some a ∧ tb = some b ∧ a.isNumber = true ∧ b.isNumber = true ∧ t = .float := by
  rcases ta with _ | ⟨_ | _ | _ | _ | _⟩ <;> rcases tb with _ | ⟨_ | _ | _ | _ | _⟩ <;>
    simp [Ty.binary, Ty.isNumber, Ty.elementwise] at typed ⊢ <;> subst typed <;> simp

/-- A comparison gives a truth value. -/
theorem Ty.binary_comparison {op : String} (compared : op ∈ Ty.comparisons)
    (typed : Ty.binary op ta tb = some t) : t = .logic := by
  simp only [Ty.comparisons, List.mem_cons, List.not_mem_nil, or_false] at compared
  rcases compared with rfl | rfl | rfl | rfl | rfl | rfl <;>
    rcases ta with _ | ⟨_ | _ | _ | _ | _⟩ <;> rcases tb with _ | ⟨_ | _ | _ | _ | _⟩ <;>
    simp [Ty.binary, Ty.isNumber, Ty.elementwise, Ty.comparisons] at typed <;> exact typed.symm

/-- An element-wise operator gives a matrix. -/
theorem Ty.binary_elementwise {op : String} (dotted : op ∈ Ty.elementwise)
    (typed : Ty.binary op ta tb = some t) : t = .vector := by
  simp only [Ty.elementwise, List.mem_cons, List.not_mem_nil, or_false] at dotted
  rcases dotted with rfl | rfl | rfl | rfl <;>
    rcases ta with _ | ⟨_ | _ | _ | _ | _⟩ <;> rcases tb with _ | ⟨_ | _ | _ | _ | _⟩ <;>
    simp [Ty.binary, Ty.isNumber, Ty.elementwise, Ty.comparisons] at typed <;> exact typed.symm

end Table

/-! ### Each operation gives what the table promises -/

namespace Heap

variable {h h' : Heap} {a b v : Value} {ta tb : Option Ty} {t : Ty}

/-- On two numbers, `+` is the addition of numbers. -/
theorem add_numbers {x y : Num} (hx : a.num? = some x) (hy : b.num? = some y) :
    h.add a b = (Num.lift (· + ·) (· + ·) x y).map h.box := by
  cases a <;> cases b <;> simp_all [Heap.add, Value.num?]

/-- An arithmetic operation on two values of number types gives a value of the type the table
gives it. -/
theorem admits_numbers {f : Int → Int → Int} {g : Float → Float → Float} {x y : Num}
    {ta tb : Ty} (tx : x.ty = ta) (ty : y.ty = tb)
    (made : (Num.lift f g x y).map h.box = .ok (v, h')) : h'.admits (Ty.ofNumbers ta tb) v = true :=
  admits_boxed made fun _ lifted => by rw [Num.lift_ty lifted, tx, ty]

theorem add_admits (typed : Ty.binary "+" ta tb = some t) (left : h.admitsOpt ta a = true)
    (right : h.admitsOpt tb b = true) (added : h.add a b = .ok (v, h')) :
    h'.admits t v = true := by
  rcases Ty.binary_plus typed with ⟨ta, tb, rfl, rfl, na, nb, rfl⟩ | ⟨rfl, rfl, rfl⟩
  · obtain ⟨x, hx, tx⟩ := num_of_admits left na
    obtain ⟨y, hy, ty⟩ := num_of_admits right nb
    rw [add_numbers hx hy] at added
    exact admits_numbers tx ty added
  · -- two strings: their concatenation
    cases a <;> cases b <;> simp [admitsOpt, admits] at left right
    cases added
    rfl

theorem sub_admits (typed : Ty.binary "-" ta tb = some t) (left : h.admitsOpt ta a = true)
    (right : h.admitsOpt tb b = true) (taken : h.sub a b = .ok (v, h')) :
    h'.admits t v = true := by
  rcases Ty.binary_minus typed with ⟨ta, tb, rfl, rfl, na, nb, rfl⟩ | ⟨rfl, rfl, kind⟩
  · obtain ⟨x, hx, tx⟩ := num_of_admits left na
    obtain ⟨y, hy, ty⟩ := num_of_admits right nb
    simp only [Heap.sub, hx, hy] at taken
    exact admits_numbers tx ty taken
  · -- a value with no type on the right: it counts as a number only if it is a truth value
    unfold Heap.sub at taken
    split at taken
    next x y hx hy =>
      have ty : y.ty = .int := num_of_untyped right hy
      rcases kind with number | rfl
      · obtain ⟨x', hx', tx⟩ := num_of_admits left number
        rw [hx'] at hx
        cases hx
        have same : Ty.ofNumbers t .int = t := by
          cases t <;> simp_all [Ty.isNumber, Ty.ofNumbers]
        rw [← same]
        exact admits_numbers tx ty taken
      · -- a matrix stands for no number
        cases a <;> simp_all [admitsOpt, admits, Value.num?]
    · cases taken

/-- A string repeated is a string. -/
theorem repeatSeq_str {s : String} {count : Int} (made : h.repeatSeq (.str s) count = .ok (v, h')) :
    h'.admits .string v = true := by
  unfold Heap.repeatSeq at made
  split at made
  · cases made
  · dsimp only at made
    split at made
    · cases made; rfl
    · split at made
      · cases made
      · split at made
        · cases made
        · cases made; rfl

theorem mul_admits (typed : Ty.binary "*" ta tb = some t) (left : h.admitsOpt ta a = true)
    (right : h.admitsOpt tb b = true) (made : h.mul a b = .ok (v, h')) :
    h'.admits t v = true := by
  rcases Ty.binary_times typed with ⟨ta, tb, rfl, rfl, na, nb, rfl⟩ | ⟨rfl, rfl, rfl⟩ |
    ⟨rfl, rfl, rfl⟩
  · obtain ⟨x, hx, tx⟩ := num_of_admits left na
    obtain ⟨y, hy, ty⟩ := num_of_admits right nb
    simp only [Heap.mul, hx, hy] at made
    exact admits_numbers tx ty made
  · -- a string times an integer
    cases a <;> cases b <;> simp [admitsOpt, admits] at left right
    simp only [Heap.mul, Value.num?, isSequence, Value.index?, if_true] at made
    exact repeatSeq_str made
  · -- an integer times a string
    cases a <;> cases b <;> simp [admitsOpt, admits] at left right
    simp only [Heap.mul, Value.num?, isSequence, Value.index?, if_true] at made
    exact repeatSeq_str made

theorem quotient_admits (typed : Ty.binary "/" ta tb = some t) (left : h.admitsOpt ta a = true)
    (right : h.admitsOpt tb b = true) (made : h.quotient a b = .ok (v, h')) :
    h'.admits t v = true := by
  obtain ⟨ta, tb, rfl, rfl, na, nb, rfl⟩ := Ty.binary_slash typed
  obtain ⟨x, hx, -⟩ := num_of_admits left na
  obtain ⟨y, hy, -⟩ := num_of_admits right nb
  unfold Heap.quotient at made
  split at made
  · -- a zero divisor gives an infinite double
    cases made
    rfl
  · simp only [Heap.divide, hx, hy] at made
    exact admits_boxed made fun _ divided => Num.divide_ty divided

end Heap

/-! ### Matrix functions -/

namespace Heap

variable {h h' : Heap} {v : Value}

/-- Folding a step that puts one new list of `n` numbers on the heap and its reference at the
end of the rows: the heap grows, and there is one row more for each step, each a list of `n`
numbers. -/
theorem foldl_rows (n : Nat) {f : Array Value × Heap → Nat → Array Value × Heap}
    {is : List Nat} {acc rows : Array Value} {h₀ h₁ : Heap}
    (folded : is.foldl f (acc, h₀) = (rows, h₁))
    (step : ∀ acc h i, ∃ items : Array Value, items.size = n ∧ (∀ x ∈ items, x.isNumber = true) ∧
      f (acc, h) i = (acc.push (h.alloc items).1, (h.alloc items).2))
    (valid : ∀ x ∈ acc, h₀.listOf n Value.isNumber x = true) :
    h₀.Extends h₁ ∧ rows.size = acc.size + is.length ∧
      ∀ x ∈ rows, h₁.listOf n Value.isNumber x = true := by
  induction is generalizing acc h₀ with
  | nil =>
    cases folded
    exact ⟨.refl _, by simp, valid⟩
  | cons i is ih =>
    obtain ⟨items, size, numbers, stepped⟩ := step acc h₀ i
    rw [List.foldl_cons, stepped] at folded
    have grown : h₀.Extends (h₀.alloc items).2 := h₀.extends_alloc items
    -- the rows so far stay where they are, and the new one is a list of `n` numbers
    have valid' : ∀ x ∈ acc.push (h₀.alloc items).1,
        (h₀.alloc items).2.listOf n Value.isNumber x = true := by
      intro x member
      rcases Array.mem_push.mp member with old | rfl
      · exact grown.listOf (fun _ => id) (valid x old)
      · have all : items.all Value.isNumber = true := Array.all_eq_true'.mpr numbers
        simp only [Heap.alloc_fst, Heap.listOf, Heap.size_alloc, Heap.items_alloc, all]
        simp [size]
    obtain ⟨later, counted, all⟩ := ih folded valid'
    refine ⟨grown.trans later, ?_, all⟩
    simp only [counted, Array.size_push, List.length_cons]
    omega

/-- `zeros`, `ones` and `eye` of size `n` make `n` new rows of `n` doubles, and a new list of
them. -/
theorem square_shape {n : Nat} {entry : Nat → Nat → Float}
    (made : h.square n entry = .ok (v, h')) :
    h.Extends h' ∧ h'.listOf n (h'.listOf n Value.isNumber) v = true := by
  unfold Heap.square at made
  split at made
  · cases made
  · split at made
    next rows h₁ folded =>
    -- each step of the fold puts a new row of `n` doubles on the heap
    obtain ⟨grown, counted, all⟩ := foldl_rows n folded (fun acc h i =>
      ⟨(Array.range n).map fun j => .float (entry i j), by simp, by simp [Value.isNumber], rfl⟩)
      (by simp)
    obtain ⟨rfl, rfl⟩ := alloc_eq (Except.ok.inj made)
    refine ⟨grown.trans (h₁.extends_alloc rows), ?_⟩
    exact listOf_alloc (by simpa using counted)
      fun x member => (h₁.extends_alloc rows).listOf (fun _ => id) (all x member)

end Heap

/-! ### Arithmetic in the interpreter -/

/-- An operation on the heap that ends normally gives its value and its heap. -/
theorem Run.onHeap_ok {f : Heap → Except OpError (Value × Heap)} {m m' : Machine} {v : Value}
    (ended : (Run.onHeap f).run m = .ok v m') :
    ∃ h', f m.heap = .ok (v, h') ∧ m' = { m with heap := h' } := by
  simp only [Run.onHeap, EStateM.run] at ended
  split at ended
  next w h' made => cases ended; exact ⟨h', made, rfl⟩
  next => cases ended

@[simp] theorem arithmetic_plus (a b : Value) : arithmetic "+" a b = Run.onHeap (·.add a b) := rfl
@[simp] theorem arithmetic_minus (a b : Value) : arithmetic "-" a b = Run.onHeap (·.sub a b) := rfl
@[simp] theorem arithmetic_times (a b : Value) : arithmetic "*" a b = Run.onHeap (·.mul a b) := rfl
@[simp] theorem arithmetic_slash (a b : Value) :
    arithmetic "/" a b = Run.onHeap (·.quotient a b) := rfl

/-- The arithmetic operators give values of the types the operator table gives them. -/
theorem arithmetic_admits {op : String} (parsed : op ∈ ["+", "-", "*", "/"]) {a b v : Value}
    {m m' : Machine} {ta tb : Option Ty} {t : Ty} (typed : Ty.binary op ta tb = some t)
    (left : m.heap.admitsOpt ta a = true) (right : m.heap.admitsOpt tb b = true)
    (ran : (arithmetic op a b).run m = .ok v m') : m'.heap.admits t v = true := by
  simp only [List.mem_cons, List.not_mem_nil, or_false] at parsed
  rcases parsed with rfl | rfl | rfl | rfl <;> simp only [arithmetic_plus, arithmetic_minus,
    arithmetic_times, arithmetic_slash] at ran <;> obtain ⟨h', made, rfl⟩ := Run.onHeap_ok ran
  · exact Heap.add_admits typed left right made
  · exact Heap.sub_admits typed left right made
  · exact Heap.mul_admits typed left right made
  · exact Heap.quotient_admits typed left right made

end MatrixLang.Script
