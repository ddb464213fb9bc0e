import MatrixLang.Script.Fault
import MatrixLang.Number.Binary64
import MatrixLang.Number.Shortest
import MatrixLang.Text.Dump

/-!
# Values of version 5

The interpreter computes with nothing (`None`), booleans, integers of any size, doubles, strings
and lists. Lists are mutable and shared: a list value is a reference into a heap, so two names
bound to one list see each other's changes, and a list may even hold itself.

The operations follow the dynamic typing of the language:

* numbers mix freely, booleans counting as `0` and `1`; an integer meets a double by rounding to
  the nearest double, and comparisons between them are exact;
* `+` concatenates two strings or two lists, `*` repeats a string or a list an integer number of
  times;
* division of two integers rounds their exact quotient once;
* anything else is a `TypeError` with the message the language reports.

Values print as their text (`str`), and inside lists as their literal form (`repr`): strings in
quotes, a list met again inside itself as `[...]`.

Values are objects, and lists compare their items as objects: an item is equal to itself before
its value is looked at. Only a NaN can tell the difference, being unequal to every number, itself
included. So every NaN an operation makes is a new object with a serial number of its own, which
copies of it share: two lists holding one NaN are equal, two lists holding two NaNs are not.

Indices and repetition counts are machine integers: one outside the signed 64-bit range cannot be
used at all.
-/
namespace MatrixLang.Script

/-- A value. -/
inductive Value where
  | none
  | bool (b : Bool)
  | int (n : Int)
  | float (x : Float)
  /-- A NaN double, told apart from other NaNs by its serial number. -/
  | nan (serial : Nat)
  | str (s : String)
  | list (ref : Nat)
  deriving Inhabited

/-- The name of the type of a value. -/
def Value.typeName : Value → String
  | .none => "NoneType"
  | .bool _ => "bool"
  | .int _ => "int"
  | .float _ | .nan _ => "float"
  | .str _ => "str"
  | .list _ => "list"

/-- Whether a value is a list. -/
def Value.isList : Value → Bool
  | .list _ => true
  | _ => false

/-- A number: an integer or a double. -/
inductive Num where
  | int (n : Int)
  | float (x : Float)

/-- The number a value stands for, booleans being `0` and `1`. -/
def Value.num? : Value → Option Num
  | .bool b => some (.int (if b then 1 else 0))
  | .int n => some (.int n)
  | .float x => some (.float x)
  | .nan _ => some (.float Binary64.nan)
  | _ => Option.none

/-- The integer a value stands for as an index or a count: integers and booleans. -/
def Value.index? : Value → Option Int
  | .bool b => some (if b then 1 else 0)
  | .int n => some n
  | _ => Option.none

namespace Num

/-- The double nearest to an integer, if it is in range. -/
def ofInt? (n : Int) : Option Float :=
  if n < 0 then (Binary64.ofRatio? n.natAbs 1).map Binary64.negate else Binary64.ofRatio? n.natAbs 1

/-- A number as a double. -/
def toFloat : Num → Except OpError Float
  | .int n => match ofInt? n with
    | some x => .ok x
    | none => .error (.overflow "int too large to convert to float")
  | .float x => .ok x

/-- An operation on integers, or on doubles when either operand is one. -/
def lift (onInt : Int → Int → Int) (onFloat : Float → Float → Float) : Num → Num → Except OpError Num
  | .int a, .int b => .ok (.int (onInt a b))
  | a, b => do
    let x ← a.toFloat
    let y ← b.toFloat
    pure (.float (onFloat x y))

/-- True division. -/
def divide : Num → Num → Except OpError Num
  | .int a, .int b =>
    if b = 0 then .error (.zeroDivision "division by zero")
    else match Binary64.ofRatio? a.natAbs b.natAbs with
      | some q => .ok (.float (if (a < 0) != (b < 0) then Binary64.negate q else q))
      | none => .error (.overflow "integer division result too large for a float")
  | a, b => do
    let x ← a.toFloat
    let y ← b.toFloat
    if y == 0.0 then .error (.zeroDivision "float division by zero") else pure (.float (x / y))

/-- The exact order of an integer and a finite or infinite double; none for a NaN. -/
def compareIntFloat (a : Int) (y : Float) : Option Ordering :=
  if Binary64.isNaN y then none
  else if Binary64.isInfinite y then some (if y > 0.0 then .lt else .gt)
  else
    let (p, q) := Binary64.toRatio y
    some (Ord.compare (a * q) p)

/-- The exact order of two numbers; none when a NaN is involved. -/
def compare : Num → Num → Option Ordering
  | .int a, .int b => some (Ord.compare a b)
  | .float x, .float y =>
    if x < y then some .lt else if x == y then some .eq else if y < x then some .gt else none
  | .int a, .float y => compareIntFloat a y
  | .float x, .int b => (compareIntFloat b x).map Ordering.swap

end Num

/-- Whether an order operator holds for an ordering. -/
def holds (op : String) (o : Ordering) : Bool :=
  match op with
  | "<" => o == .lt
  | ">" => o == .gt
  | "<=" => o != .gt
  | ">=" => o != .lt
  | "==" => o == .eq
  | _ => o != .eq

/-- The error of an operator on operands it does not accept. -/
def unsupported (op : String) (a b : Value) : OpError :=
  .type s!"unsupported operand type(s) for {op}: '{a.typeName}' and '{b.typeName}'"

/-- The largest number of digits an integer may have to be printed. -/
def digitLimit : Nat := 4300

/-- The longest list or string the interpreter builds. -/
def sizeLimit : Nat := Nat.pow 2 26

/-- The largest machine integer, `2 ^ 63 - 1`. -/
def maxIndex : Nat := Nat.pow 2 63 - 1

/-- Whether an integer is a machine integer: signed, of 64 bits. -/
def indexSized (i : Int) : Bool := -(maxIndex : Int) - 1 ≤ i && i ≤ maxIndex

/-- The error of an integer used as an index that is no machine integer. -/
def wideIndex : OpError := .index "cannot fit 'int' into an index-sized integer"

/-- The heap of lists, and the number of NaNs made so far. -/
structure Heap where
  cells : Array (Array Value) := #[]
  nans : Nat := 0
  deriving Inhabited

namespace Heap

/-- The items of a list. -/
def items (h : Heap) (r : Nat) : Array Value := h.cells[r]?.getD #[]

/-- A new list with the given items. -/
def alloc (h : Heap) (items : Array Value) : Value × Heap :=
  (.list h.cells.size, { h with cells := h.cells.push items })

/-- Replaces the items of a list. -/
def store (h : Heap) (r : Nat) (items : Array Value) : Heap := { h with cells := h.cells.setIfInBounds r items }

/-- The value of a number an operation has just made: a NaN is a new object. -/
def box (h : Heap) : Num → Value × Heap
  | .float x => if Binary64.isNaN x then (.nan h.nans, { h with nans := h.nans + 1 }) else (.float x, h)
  | .int n => (.int n, h)

/-- The text of an integer, if it is short enough to print. -/
def intText (n : Int) : Except OpError String :=
  let s := toString n
  if (toString n.natAbs).length > digitLimit then
    .error (.value s!"Exceeds the limit ({digitLimit} digits) for integer string conversion; use sys.set_int_max_str_digits() to increase the limit")
  else .ok s

/-- The literal form of a value; `path` holds the lists being printed around it. -/
def reprWith (h : Heap) : Nat → List Nat → Value → Except OpError String
  | _, _, .none => .ok "None"
  | _, _, .bool b => .ok (if b then "True" else "False")
  | _, _, .int n => intText n
  | _, _, .float x => .ok (Decimal.render x)
  | _, _, .nan _ => .ok (Decimal.render Binary64.nan)
  | _, _, .str s => .ok (Quote.quote s)
  | 0, _, .list _ => .ok "[...]"
  | fuel + 1, path, .list r =>
    if path.contains r then .ok "[...]"
    else do
      let parts ← (h.items r).toList.mapM (h.reprWith fuel (r :: path))
      pure ("[" ++ ", ".intercalate parts ++ "]")

/-- The literal form of a value. -/
def repr (h : Heap) (v : Value) : Except OpError String := h.reprWith (h.cells.size + 1) [] v

/-- The text of a value, as `print` writes it. -/
def str (h : Heap) : Value → Except OpError String
  | .str s => .ok s
  | v => h.repr v

/-- The record view of a value, lists cut where they hold themselves. -/
def dumpWith (h : Heap) : Nat → Value → Dump
  | _, .none => .none
  | _, .bool b => .bool b
  | _, .int n => .int n
  | _, .float x => .float x
  | _, .nan _ => .float Binary64.nan
  | _, .str s => .text s
  | 0, .list _ => .list []
  | fuel + 1, .list r => .list ((h.items r).toList.map (h.dumpWith fuel))

/-- The record view of a value. -/
def dump (h : Heap) (v : Value) : Dump := h.dumpWith (h.cells.size + 1) v

/-- The elements a value yields when iterated: the items of a list, the characters of a string. -/
def elements (h : Heap) : Value → Except OpError (List Value)
  | .list r => .ok (h.items r).toList
  | .str s => .ok (s.toList.map fun c => .str (String.singleton c))
  | v => .error (.type s!"'{v.typeName}' object is not iterable")

/-- The length of a list or a string. -/
def length (h : Heap) : Value → Except OpError Nat
  | .list r => .ok (h.items r).size
  | .str s => .ok s.length
  | v => .error (.type s!"object of type '{v.typeName}' has no len()")

/-- A position counted from the end when negative, if it falls inside a sequence of length `n`. -/
def position (n : Nat) (i : Int) : Option Nat :=
  let j := if i < 0 then i + n else i
  if 0 ≤ j ∧ j < n then some j.toNat else none

/-- The element of a list or a string at an index. -/
def get (h : Heap) (container index : Value) : Except OpError Value :=
  match container with
  | .list r =>
    match index.index? with
    | some i => if !indexSized i then .error wideIndex else match position (h.items r).size i with
      | some j => .ok ((h.items r)[j]?.getD .none)
      | none => .error (.index "list index out of range")
    | none => .error (.type s!"list indices must be integers or slices, not {index.typeName}")
  | .str s =>
    match index.index? with
    | some i => if !indexSized i then .error wideIndex else match position s.length i with
      | some j => .ok (.str (String.singleton (s.toList.getD j ' ')))
      | none => .error (.index "string index out of range")
    | none => .error (.type s!"string indices must be integers, not '{index.typeName}'")
  | v => .error (.type s!"'{v.typeName}' object is not subscriptable")

/-- Replaces the element of a list at an index. A string takes no assignment, but its index is
checked first. -/
def set (h : Heap) (container index value : Value) : Except OpError Heap :=
  match container with
  | .list r =>
    match index.index? with
    | some i => if !indexSized i then .error wideIndex else match position (h.items r).size i with
      | some j => .ok (h.store r ((h.items r).setIfInBounds j value))
      | none => .error (.index "list assignment index out of range")
    | none => .error (.type s!"list indices must be integers or slices, not {index.typeName}")
  | .str _ =>
    match index.index? with
    | some i => if !indexSized i then .error wideIndex
      else .error (.type "'str' object does not support item assignment")
    | none => .error (.type "'str' object does not support item assignment")
  | v => .error (.type s!"'{v.typeName}' object does not support item assignment")

/-- A value as a bound of a range: an integer. -/
def bound (v : Value) : Except OpError Int :=
  match v.index? with
  | some n => .ok n
  | none => .error (.type s!"'{v.typeName}' object cannot be interpreted as an integer")

/-- Whether two values are one NaN object. (Any other object is equal to itself anyway.) -/
def sameNaN : Value → Value → Bool
  | .nan i, .nan j => i == j
  | _, _ => false

/-- Whether two values are equal; lists compare item by item, an item being equal to itself. -/
def equal (h : Heap) : Nat → Value → Value → Bool
  | _, .none, .none => true
  | _, .str a, .str b => a == b
  | 0, .list r, .list s => r == s
  | fuel + 1, .list r, .list s =>
    r == s ||
      ((h.items r).size == (h.items s).size &&
        ((h.items r).toList.zip (h.items s).toList).all fun (x, y) => sameNaN x y || h.equal fuel x y)
  | _, a, b => match a.num?, b.num? with
    | some x, some y => Num.compare x y == some .eq
    | _, _ => false

/-- The first pair of items of two lists that are not equal. -/
def firstDifference (h : Heap) (fuel : Nat) : List Value → List Value → Option (Value × Value)
  | x :: xs, y :: ys =>
    if sameNaN x y || h.equal fuel x y then h.firstDifference fuel xs ys else some (x, y)
  | _, _ => none

/-- Whether `a op b` holds for an order operator (`<`, `>`, `<=`, `>=`). -/
def order (h : Heap) (op : String) : Nat → Value → Value → Except OpError Bool
  | _, .str a, .str b => .ok (holds op (Ord.compare a b))
  | fuel + 1, .list r, .list s =>
    let xs := (h.items r).toList
    let ys := (h.items s).toList
    match h.firstDifference fuel xs ys with
    | some (x, y) => h.order op fuel x y
    | none => .ok (holds op (Ord.compare xs.length ys.length))
  | _, a, b => match a.num?, b.num? with
    | some x, some y => .ok ((Num.compare x y).map (holds op) |>.getD false)
    | _, _ => .error (.type s!"'{op}' not supported between instances of '{a.typeName}' and '{b.typeName}'")

/-- The depth to which lists are compared: enough for every list without a cycle. -/
def depth (h : Heap) : Nat := h.cells.size + 1

/-- The comparison `a op b` for any comparison operator. -/
def compare (h : Heap) (op : String) (a b : Value) : Except OpError Bool :=
  match op with
  | "==" => .ok (h.equal h.depth a b)
  | "!=" => .ok (!h.equal h.depth a b)
  | _ => h.order op h.depth a b

/-- `a + b`. -/
def add (h : Heap) (a b : Value) : Except OpError (Value × Heap) :=
  match a, b with
  | .str x, .str y => .ok (.str (x ++ y), h)
  | .str _, _ => .error (.type s!"can only concatenate str (not \"{b.typeName}\") to str")
  | .list r, .list s => .ok (h.alloc (h.items r ++ h.items s))
  | .list _, _ => .error (.type s!"can only concatenate list (not \"{b.typeName}\") to list")
  | _, _ => match a.num?, b.num? with
    | some x, some y => (Num.lift (· + ·) (· + ·) x y).map h.box
    | _, _ => .error (unsupported "+" a b)

/-- `a - b`. -/
def sub (h : Heap) (a b : Value) : Except OpError (Value × Heap) :=
  match a.num?, b.num? with
  | some x, some y => (Num.lift (· - ·) (· - ·) x y).map h.box
  | _, _ => .error (unsupported "-" a b)

/-- A string or a list repeated `count` times: empty when either is empty; a string whose
length would pass the largest machine integer is an overflow, and a result longer than
`sizeLimit` runs out of memory. -/
def repeatSeq (h : Heap) (seq : Value) (count : Int) : Except OpError (Value × Heap) :=
  if !indexSized count then .error (.overflow "cannot fit 'int' into an index-sized integer")
  else
    let n := count.toNat
    match seq with
    | .str s =>
      if n = 0 ∨ s.isEmpty then .ok (.str "", h)
      else if s.length > maxIndex / n then .error (.overflow "repeated string is too long")
      else if n * s.length > sizeLimit then .error .memory
      else .ok (.str (String.join (List.replicate n s)), h)
    | .list r =>
      let items := h.items r
      if n = 0 ∨ items.isEmpty then .ok (h.alloc #[])
      else if n * items.size > sizeLimit then .error .memory
      else .ok (h.alloc ((List.replicate n items).foldl (· ++ ·) #[]))
    | v => .ok (v, h)

/-- Whether a value is a string or a list. -/
def isSequence : Value → Bool
  | .str _ | .list _ => true
  | _ => false

/-- `a * b`. -/
def mul (h : Heap) (a b : Value) : Except OpError (Value × Heap) :=
  match a.num?, b.num? with
  | some x, some y => (Num.lift (· * ·) (· * ·) x y).map h.box
  | _, _ =>
    if isSequence a then
      match b.index? with
      | some n => h.repeatSeq a n
      | none => .error (.type s!"can't multiply sequence by non-int of type '{b.typeName}'")
    else if isSequence b then
      match a.index? with
      | some n => h.repeatSeq b n
      | none => .error (.type s!"can't multiply sequence by non-int of type '{a.typeName}'")
    else .error (unsupported "*" a b)

/-- `a / b`, raising on a zero divisor. -/
def divide (h : Heap) (a b : Value) : Except OpError (Value × Heap) :=
  match a.num?, b.num? with
  | some x, some y => (Num.divide x y).map h.box
  | _, _ => .error (unsupported "/" a b)

/-- Whether a value is a number equal to zero. -/
def isZero (v : Value) : Bool :=
  match v.num? with
  | some n => Num.compare n (.int 0) == some .eq
  | none => false

/-- `a / b`, infinite when `b` is zero. -/
def quotient (h : Heap) (a b : Value) : Except OpError (Value × Heap) :=
  if isZero b then .ok (.float Binary64.infinity, h) else h.divide a b

/-- A square matrix of `n` rows whose entries are `entry i j`, each row a new list. -/
def square (h : Heap) (n : Nat) (entry : Nat → Nat → Float) : Except OpError (Value × Heap) :=
  if n * n > sizeLimit then .error .memory
  else
    let (rows, h) := (List.range n).foldl (fun (acc, h) i =>
      let (row, h) := h.alloc ((Array.range n).map fun j => .float (entry i j))
      (acc.push row, h)) ((#[] : Array Value), h)
    .ok (h.alloc rows)

end Heap
end MatrixLang.Script
