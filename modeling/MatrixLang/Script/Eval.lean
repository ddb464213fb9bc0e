import MatrixLang.Script.Syntax
import MatrixLang.Script.Value
import MatrixLang.Console

/-!
# The version 5 interpreter

The interpreter runs a program on a machine made of a heap of lists, a stack of named frames of
variables and a console.

* Reading a name gives its value in the innermost frame that has it, or nothing. Assigning to a
  name that has no value yet (or the value nothing) creates it in the innermost frame; otherwise
  every frame that has the name gets the new value.
* Blocks, branches and loops open frames. A block catches `return` and always closes the
  innermost frame when it ends; a branch always closes the innermost frame too; a loop closes it
  only when it ends normally. So after a `return` out of a loop the frame closed is not always
  the one opened.
* Negation, transposition and parentheses give their operand itself. A row literal is one list
  for the whole run, shared by all its evaluations; a matrix literal is a new list of those rows.
* Element-wise operators pair the items of their operands, as far as the shorter goes, and
  spread a flat operand over the rows of a matrix; `.*` is not one of them.
* A `for` loop over `a:b` runs while the value of its counter at the start of the previous pass
  is below `b`, and after each pass sets the counter to that value plus one.
* `return`, `break` and `continue` are faults that blocks and loops catch.

Loops may run forever, so the statements run on a step budget (`fuel`).
-/
namespace MatrixLang.Script

/-- A frame of variables. -/
structure Frame where
  name : String
  vars : List (String × Value) := []
  deriving Inhabited

/-- Sets a variable in a frame, in place if it is already there. -/
def Frame.put (f : Frame) (name : String) (v : Value) : Frame :=
  if f.vars.any (·.1 == name) then
    { f with vars := f.vars.map fun (n, w) => if n == name then (n, v) else (n, w) }
  else { f with vars := f.vars ++ [(name, v)] }

/-- Whether a frame has a variable. -/
def Frame.has (f : Frame) (name : String) : Bool := f.vars.any (·.1 == name)

/-- The machine: the heap, the lists of the row literals met so far (by source offset), the
frames (innermost first), the console, and whether `.*` is the matrix product (it is unknown
otherwise). -/
structure Machine where
  heap : Heap := {}
  rows : List (Nat × Value) := []
  frames : List Frame := [{ name := "global_memory" }]
  console : Console := {}
  product : Bool := false
  deriving Inhabited

namespace Machine

/-- The value of a name in the innermost frame that has it. -/
def lookup (m : Machine) (name : String) : Value :=
  (m.frames.find? (·.has name)).bind (·.vars.lookup name) |>.getD .none

/-- Sets a variable in the innermost frame. -/
def insert (m : Machine) (name : String) (v : Value) : Machine :=
  match m.frames with
  | f :: rest => { m with frames := f.put name v :: rest }
  | [] => m

/-- Sets a variable in every frame that has it. -/
def assign (m : Machine) (name : String) (v : Value) : Machine :=
  { m with frames := m.frames.map fun f => if f.has name then f.put name v else f }

/-- Opens a frame. -/
def push (m : Machine) (name : String) : Machine := { m with frames := { name } :: m.frames }

/-- Closes the innermost frame. -/
def pop (m : Machine) : Machine := { m with frames := m.frames.drop 1 }

/-- The record view of the frames, outermost first. -/
def memory (m : Machine) : Dump :=
  .list (m.frames.reverse.map fun f =>
    .record [("name", .text f.name), ("vars", .record (f.vars.map fun (n, v) => (n, m.heap.dump v)))])

end Machine

/-- A step of the interpreter: it may stop on a fault, keeping the machine it had then. -/
abbrev Run := EStateM Fault Machine

namespace Run

/-- Runs `body` and then `final`, whatever happened; a fault of `final` replaces that of
`body`. -/
def andFinally {α : Type} (body : Run α) (final : Run Unit) : Run α := fun s =>
  match body s with
  | .ok a s => match final s with
    | .ok _ s => .ok a s
    | .error e s => .error e s
  | .error e s => match final s with
    | .ok _ s => .error e s
    | .error e' s => .error e' s

/-- Runs `body`, catching the control transfer it ends with, if any. -/
def catching (body : Run Unit) : Run (Option Signal) := fun s =>
  match body s with
  | .ok _ s => .ok none s
  | .error (.escaped sig) s => .ok (some sig) s
  | .error e s => .error e s

/-- An operation on the heap that gives a value. -/
def onHeap (f : Heap → Except OpError (Value × Heap)) : Run Value := fun m =>
  match f m.heap with
  | .ok (v, h) => .ok v { m with heap := h }
  | .error e => .error (.raised (.op e)) m

/-- A computation that may fail. -/
def lift {α : Type} (x : Except OpError α) : Run α := fun m =>
  match x with
  | .ok a => .ok a m
  | .error e => .error (.raised (.op e)) m

/-- The value of a name. -/
def lookup (name : String) : Run Value := do pure ((← get).lookup name)

/-- Opens a frame. -/
def push (name : String) : Run Unit := modify (·.push name)

/-- Closes the innermost frame. -/
def pop : Run Unit := modify (·.pop)

/-- Runs `body` in a new frame, closing the innermost frame afterwards whatever happened. -/
def framed (name : String) (body : Run Unit) : Run Unit := andFinally (do push name; body) pop

end Run

open Run

/-- The value of a binary arithmetic operator. -/
def arithmetic (op : String) (a b : Value) : Run Value :=
  match op with
  | "+" | ".+" => onHeap (·.add a b)
  | "-" | ".-" => onHeap (·.sub a b)
  | "*" => onHeap (·.mul a b)
  | _ => onHeap (·.quotient a b)

/-- Whether all the elements of a value are lists. -/
def allLists (v : Value) : Run Bool := do
  let es ← lift ((← get).heap.elements v)
  pure (es.all Value.isList)

/-- The length of the first row of a matrix. -/
def firstRowLength (v : Value) : Run Nat := do
  let h := (← get).heap
  let row ← lift (h.get v (.int 0))
  lift (h.length row)

/-- Each element of a value repeated `n` times in a new list, all in a new list. -/
def spread (v : Value) (n : Nat) : Run Value := do
  let es ← lift ((← get).heap.elements v)
  let mut rows : Array Value := #[]
  for e in es do
    rows := rows.push (← onHeap fun h => .ok (h.alloc (Array.replicate n e)))
  onHeap fun h => .ok (h.alloc rows)

/-- The items of two values paired by an element-wise operator, in a new list. -/
def pairwise (op : String) (a b : Value) : Run Value := do
  let h := (← get).heap
  let xs ← lift (h.elements a)
  let ys ← lift (h.elements b)
  let mut out : Array Value := #[]
  for (x, y) in xs.zip ys do
    out := out.push (← arithmetic op x y)
  onHeap fun h => .ok (h.alloc out)

/-- The element of a matrix at a row and a column. -/
def entry (m : Value) (i j : Nat) : Run Value := do
  let h := (← get).heap
  let row ← lift (h.get m (.int i))
  lift (h.get row (.int j))

/-- The matrix product of two matrices, summing from the integer `0`; two flat lists multiply
item by item instead. -/
def matrixProduct (a b : Value) : Run Value := do
  if !(← allLists a) && !(← allLists b) then pairwise "*" a b
  else
    let rows ← lift ((← get).heap.length a)
    let mut out : Array Value := #[]
    for i in List.range rows do
      let cols ← firstRowLength b
      let inner ← firstRowLength a
      let mut row : Array Value := #[]
      for j in List.range cols do
        let mut sum : Value := .int 0
        for k in List.range inner do
          let term ← arithmetic "*" (← entry a i k) (← entry b k j)
          sum ← arithmetic "+" sum term
        row := row.push sum
      out := out.push (← onHeap fun h => .ok (h.alloc row))
    onHeap fun h => .ok (h.alloc out)

/-- The operands of an element-wise operator once a flat operand facing a matrix is spread over
the matrix's rows. -/
def broadcast (a b : Value) : Run (Value × Value) := do
  let leftRows ← allLists a
  if !leftRows then do
    if ← allLists b then pure (← spread a (← firstRowLength b), b) else pure (a, b)
  else do
    if !(← allLists b) then pure (a, ← spread b (← firstRowLength a)) else pure (a, b)

/-- An element-wise operator on operands already broadcast: the matrix product for `.*`, else
item by item on flat lists and row by row on matrices. -/
def combine (op : String) (a b : Value) : Run Value := do
  if op == ".*" then matrixProduct a b
  else if !(← allLists a) && !(← allLists b) then pairwise op a b
  else do
    let h := (← get).heap
    let lrows ← lift (h.elements a)
    let rrows ← lift (h.elements b)
    let mut out : Array Value := #[]
    for (x, y) in lrows.zip rrows do
      out := out.push (← pairwise op x y)
    onHeap fun h => .ok (h.alloc out)

/-- The value of an element-wise operator. -/
def elementwise (op : String) (a b : Value) : Run Value := do
  if op == ".*" && !(← get).product then throw (.raised (.key ".*"))
  else do
    let (a, b) ← broadcast a b
    combine op a b

/-- The list of a row literal: made on first use, the same list afterwards. -/
def NumRow.eval (r : NumRow) : Run Value := do
  match (← get).rows.lookup r.origin with
  | some v => pure v
  | none =>
    let v ← onHeap fun h => .ok (h.alloc (r.nums.toArray.map fun (n : Nat) => Value.int n))
    modify fun m => { m with rows := (r.origin, v) :: m.rows }
    pure v

/-- The value of a leaf. -/
def Atom.eval : Atom → Run Value
  | .int v _ => pure (.int v)
  | .float x _ => pure (.float x)
  | .str t _ => pure (.str ((t.drop 1).dropEnd 1).toString)
  | .var n _ => lookup n

/-- The value of an index. -/
def Index.eval : Index → Run Value
  | .lit v _ => pure (.int v)
  | .name n _ => lookup n

/-- The value of a matrix function. -/
def matrixFunction (name : String) (n : Nat) : Run Value :=
  onHeap fun h => h.square n fun i j =>
    if name == "zeros" then 0.0 else if name == "ones" then 1.0 else if i == j then 1.0 else 0.0

/-- The value of an element reference. -/
def Element.eval : Element → Run Value
  | .pair id r c _ => do
    let i ← r.eval
    let j ← c.eval
    let m ← lookup id
    let h := (← get).heap
    let row ← lift (h.get m i)
    lift (h.get row j)
  | .single id r _ => do
    let i ← r.eval
    let m ← lookup id
    lift ((← get).heap.get m i)

/-- Sets a variable: created in the innermost frame if it has no value, else updated in every
frame that has it. -/
def declare (name : String) (v : Value) : Run Unit := do
  match (← get).lookup name with
  | .none => modify (·.insert name v)
  | _ => modify (·.assign name v)

/-- Replaces an element of a list. -/
def store (container index v : Value) : Run Unit := fun m =>
  match m.heap.set container index v with
  | .ok h => .ok () { m with heap := h }
  | .error e => .error (.raised (.op e)) m

/-- Stores a value at `count` consecutive indices of a container from `start` on, stopping at the
first index the container refuses; a list refuses every index past its end, so at most twice its
length are tried whatever the count. -/
def fill (container v : Value) : Nat → Int → Run Unit
  | 0, _ => pure ()
  | count + 1, i => do
    store container (.int i) v
    fill container v count (i + 1)

/-- The name a slice writes and its ends, an end it leaves out being nothing. -/
def Slice.ends : Slice → Run (String × Value × Value)
  | .both id b e _ => do
    let b ← b.eval
    let e ← e.eval
    pure (id, b, e)
  | .upTo id e _ => do
    let e ← e.eval
    pure (id, Value.none, e)
  | .onwards id b _ => do
    let b ← b.eval
    pure (id, b, Value.none)

/-- Where a slice stops: its end, or the length of the list when it leaves the end out. -/
def sliceStop (container stop : Value) : Run Value :=
  match stop with
  | .none => do
    let n ← lift ((← get).heap.length container)
    pure (Value.int n)
  | e => pure e

/-- Stores a value at the indices of a slice of a container, from `start` (`0` when left out) up
to `stop`. -/
def fillSlice (container v start stop : Value) : Run Unit := do
  let start : Value := match start with
    | .none => .int 0
    | b => b
  let stop ← sliceStop container stop
  let lo ← lift (Heap.bound start)
  let hi ← lift (Heap.bound stop)
  fill container v (hi - lo).toNat lo

/-- The value of a compound assignment's operator on the old value and the operand. -/
def compound (op : String) (old x : Value) : Run Value :=
  match op with
  | "+=" => onHeap (·.add old x)
  | "-=" => onHeap (·.sub old x)
  | "*=" => onHeap (·.mul old x)
  | _ => onHeap (·.divide old x)

mutual
/-- The value of an expression. -/
def Expr.eval : Expr → Run Value
  | .atom a => a.eval
  | .assign a => do
    a.exec
    pure .none
  | .relation c => c.eval
  | .matrixFun f n _ => matrixFunction f n
  | .element r => r.eval
  | .negate e _ => e.eval
  | .literal (.rows rs _) _ => do
    let vs ← rs.mapM NumRow.eval
    onHeap fun h => .ok (h.alloc vs.toArray)
  | .literal (.row r) _ => r.eval
  | .transpose e _ => e.eval
  | .paren e _ => e.eval
  | .arith op a b _ => do
    let x ← a.eval
    let y ← b.eval
    arithmetic op x y
  | .dotted op a b _ => do
    let x ← a.eval
    let y ← b.eval
    elementwise op x y

/-- Runs an assignment. -/
def Assign.exec : Assign → Run Unit
  | .declare (.var name _) v _ => do
    let x ← v.eval
    declare name x
  | .declare (.element (.pair id r c _)) v _ => do
    let i ← r.eval
    let j ← c.eval
    let m ← lookup id
    let x ← v.eval
    let row ← lift ((← get).heap.get m i)
    store row j x
    modify (·.assign id m)
  | .declare (.element (.single id r _)) v _ => do
    let i ← r.eval
    let m ← lookup id
    let x ← v.eval
    store m i x
    modify (·.assign id m)
  | .declare (.slice s) v _ => do
    let (id, start, stop) ← s.ends
    let m ← lookup id
    let x ← v.eval
    fillSlice m x start stop
    modify (·.assign id m)
  | .update op t v _ => do
    match t with
    | .var name _ =>
      let x ← v.eval
      let old ← lookup name
      let new ← compound op old x
      modify (·.assign name new)
    | t => throw (.raised (.attribute t.className "name"))

/-- The value of a comparison. -/
def Compare.eval : Compare → Run Value
  | .mk op a b _ => do
    let x ← a.eval
    let y ← b.eval
    let r ← lift ((← get).heap.compare op x y)
    pure (.bool r)
end

/-- The value of the end of a range. -/
def Bound.eval : Bound → Run Value
  | .index i => i.eval
  | .arith op a b _ => do
    let x ← a.eval
    let y ← b.eval
    arithmetic op x y

/-- The value of an item of a `print`. -/
def PrintItem.eval : PrintItem → Run Value
  | .value e => e.eval
  | .arith op a b _ => do
    let x ← a.eval
    let y ← b.eval
    arithmetic op x y

/-- The text of a value. -/
def textOf (v : Value) : Run String := do lift ((← get).heap.str v)

/-- The text a `print` writes: its items' texts separated by blanks. -/
def Printed.text : Printed → Run String
  | .single i => do textOf (← i.eval)
  | .more rest i _ => do
    let t ← rest.text
    let u ← textOf (← i.eval)
    pure (t ++ " " ++ u)

/-- Whether a condition value holds. -/
def Value.truthy : Value → Bool
  | .bool b => b
  | .none => false
  | .int n => n != 0
  | .float x => x != 0.0
  | .nan _ => true
  | .str s => !s.isEmpty
  | .list _ => true

mutual
/-- Runs a statement within the step budget. -/
def Stmt.exec : Nat → Stmt → Run Unit
  | 0, _ => throw .exhausted
  | fuel + 1, s => match s with
    | .control w _ =>
      if w == "continue" then throw (.escaped .cont)
      else if w == "break" then throw (.escaped .brk)
      else pure ()
    | .block body _ =>
      andFinally (do
        push "stmts_set"
        let sig ← catching (Stmt.execAll fuel body)
        match sig with
        | some .ret | none => pure ()
        | some other => throw (.escaped other)) pop
    | .ifElse c y n _ => do
      if (← c.eval).truthy then framed "if_stmt" (Stmt.execOpt fuel y)
      else framed "else_stmt" (Stmt.execOpt fuel n)
    | .ifThen c y _ => do
      if (← c.eval).truthy then framed "if_stmt" (Stmt.execOpt fuel y)
    | .whileLoop c b _ => do
      push "while_stmt"
      Stmt.loopWhile fuel c b
      pop
    | .forLoop v a b body _ => do
      let start ← a.eval
      let stop ← b.eval
      push "for_stmt"
      modify (·.insert v start)
      Stmt.loopFor fuel v stop body start
      pop
    | .assign a => a.exec
    | .print items _ => do
      let t ← items.text
      modify fun m => { m with console := m.console.printLine t }
    | .ret e _ => do
      let _ ← e.eval
      throw (.escaped .ret)

/-- Runs a possibly empty statement; an empty one does nothing. -/
def Stmt.execOpt : Nat → Option Stmt → Run Unit
  | 0, _ => throw .exhausted
  | _, none => pure ()
  | fuel + 1, some s => Stmt.exec fuel s

/-- Runs statements in order. -/
def Stmt.execAll : Nat → List (Option Stmt) → Run Unit
  | 0, _ => throw .exhausted
  | _, [] => pure ()
  | fuel + 1, s :: ss => do
    Stmt.execOpt fuel s
    Stmt.execAll fuel ss

/-- The passes of a `while` loop. -/
def Stmt.loopWhile : Nat → Compare → Option Stmt → Run Unit
  | 0, _, _ => throw .exhausted
  | fuel + 1, c, b => do
    if (← c.eval).truthy then
      match ← catching (Stmt.execOpt fuel b) with
      | some .brk => pure ()
      | some .ret => throw (.escaped .ret)
      | _ => Stmt.loopWhile fuel c b

/-- The passes of a `for` loop whose counter started the previous pass at `value`. -/
def Stmt.loopFor : Nat → String → Value → Option Stmt → Value → Run Unit
  | 0, _, _, _, _ => throw .exhausted
  | fuel + 1, name, stop, body, value => do
    if ← lift ((← get).heap.compare "<" value stop) then
      let current ← lookup name
      let sig ← andFinally (catching (Stmt.execOpt fuel body)) (do
        let next ← onHeap (·.add current (.int 1))
        modify (·.assign name next))
      match sig with
      | some .brk => pure ()
      | some .ret => throw (.escaped .ret)
      | _ => Stmt.loopFor fuel name stop body current
end

/-- The step budget of a run: far beyond what any program finishes in. -/
def budget : Nat := Nat.pow 2 40

/-- Runs a program on a fresh machine, where `.*` is the matrix product if `product` holds: the
final machine, or the fault that stopped the run and the machine it had then. -/
def Program.run (p : Program) (product : Bool := false) : Except (Fault × Machine) Machine :=
  match (Stmt.execAll budget p).run { product } with
  | .ok _ m => .ok m
  | .error f m => .error (f, m)

end MatrixLang.Script
