import MatrixLang.Proofs.Shapes
import MatrixLang.Proofs.Frames

/-!
# What a run leaves of the outermost frame

The interpreter keeps the variables of the whole program in its outermost frame. A statement
inside a block, branch or loop writes there only through the names it assigns, and changes a
list already made only through an element or slice assignment. This module follows a run that
writes none of some names `N` and assigns no element: the heap only grows, the frames keep their
names, and the outermost frame keeps the values of the names of `N` (`Machine.Evolves`).

The row literals need care: a row is one list for the whole run, made when the literal is first
met and found again by its place in the source. `Machine.RowsFit T` says each row met so far is
a list of as many numbers as `T` gives its place, which stays true when every literal met has
that length.

## Main result

`Stmt.exec_grows`: a statement in which no `return` leaves a loop, that writes no name of `N`,
assigns no element and has only row literals of the lengths `T` gives, leaves the heap grown,
the frames named as they were and the values of `N` in the outermost frame as they were,
whether it ends or stops on a control transfer.

## Proof strategy

As for `Run.Keeps`, a property of runs (`Run.Grows`) closed under the ways the interpreter
combines runs, with a second one (`Run.Pops`) for the part of a loop that ends by closing the
loop's frame.
-/
namespace MatrixLang.Script

/-! ### Statements that spare some names -/

mutual
/-- Whether an expression assigns no name of `N` and no element or slice, and each of its row
literals has the length `T` gives its place. -/
def Expr.spares (N : List String) (T : Nat → Nat) : Expr → Bool
  | .atom _ | .matrixFun .. | .element _ => true
  | .assign a => a.spares N T
  | .relation c => c.spares N T
  | .negate e _ | .transpose e _ | .paren e _ => e.spares N T
  | .literal (.rows rs _) _ => rs.all fun r => r.nums.length == T r.origin
  | .literal (.row r) _ => r.nums.length == T r.origin
  | .arith _ a b _ | .dotted _ a b _ => a.spares N T && b.spares N T

/-- Whether an assignment writes a plain variable outside `N`, or is a compound assignment to an
element or a slice, which stops before it writes anything. -/
def Assign.spares (N : List String) (T : Nat → Nat) : Assign → Bool
  | .declare (.var name _) v _ => !N.contains name && v.spares N T
  | .declare .. => false
  | .update _ (.var name _) v _ => !N.contains name && v.spares N T
  | .update .. => true

/-- Whether a comparison spares `N`. -/
def Compare.spares (N : List String) (T : Nat → Nat) : Compare → Bool
  | .mk _ a b _ => a.spares N T && b.spares N T
end

/-- Whether the end of a range spares `N`. -/
def Bound.spares (N : List String) (T : Nat → Nat) : Bound → Bool
  | .index _ => true
  | .arith _ a b _ => a.spares N T && b.spares N T

/-- Whether an item of a `print` spares `N`. -/
def PrintItem.spares (N : List String) (T : Nat → Nat) : PrintItem → Bool
  | .value e => e.spares N T
  | .arith _ a b _ => a.spares N T && b.spares N T

/-- Whether the items of a `print` spare `N`. -/
def Printed.spares (N : List String) (T : Nat → Nat) : Printed → Bool
  | .single i => i.spares N T
  | .more rest i _ => rest.spares N T && i.spares N T

mutual
/-- Whether a statement spares `N`: a `for` loop writes its counter too. -/
def Stmt.spares (N : List String) (T : Nat → Nat) : Stmt → Bool
  | .control .. => true
  | .block body _ => Stmt.sparesAll N T body
  | .ifElse c y n _ => c.spares N T && Stmt.sparesOpt N T y && Stmt.sparesOpt N T n
  | .ifThen c y _ => c.spares N T && Stmt.sparesOpt N T y
  | .whileLoop c b _ => c.spares N T && Stmt.sparesOpt N T b
  | .forLoop v _ b body _ => !N.contains v && b.spares N T && Stmt.sparesOpt N T body
  | .assign a => a.spares N T
  | .print items _ => items.spares N T
  | .ret e _ => e.spares N T

/-- Whether a possibly empty statement spares `N`. -/
def Stmt.sparesOpt (N : List String) (T : Nat → Nat) : Option Stmt → Bool
  | some s => s.spares N T
  | none => true

/-- Whether statements spare `N`. -/
def Stmt.sparesAll (N : List String) (T : Nat → Nat) : List (Option Stmt) → Bool
  | [] => true
  | s :: ss => Stmt.sparesOpt N T s && Stmt.sparesAll N T ss
end

/-! ### The outermost frame -/

/-- The value the outermost frame gives a name. -/
def Machine.global (m : Machine) (name : String) : Option Value :=
  m.frames.getLast?.bind fun f => f.vars.lookup name

/-- Whether each row literal met so far is a list, on the heap, of as many numbers as `T` gives
its place. -/
def Machine.RowsFit (T : Nat → Nat) (m : Machine) : Prop :=
  ∀ o v, m.rows.lookup o = some v → m.heap.listOf (T o) Value.isNumber v = true

namespace Frame

variable {x name : String} {v : Value}

theorem lookup_put_of_ne (f : Frame) (other : x ≠ name) :
    (f.put name v).vars.lookup x = f.vars.lookup x := by
  have missed : (x == name) = false := by simpa using other
  unfold Frame.put
  split
  · -- the name is there: only its entry changes
    simp only
    generalize f.vars = vars
    induction vars with
    | nil => rfl
    | cons p ps ih =>
      obtain ⟨n, w⟩ := p
      by_cases named : n = name
      · subst named
        simp only [List.map_cons, beq_self_eq_true, if_true, List.lookup_cons, missed]
        exact ih
      · have kept : (n == name) = false := by simpa using named
        simp only [List.map_cons, kept, Bool.false_eq_true, if_false, List.lookup_cons]
        split <;> simp_all
  · -- the name is new: it goes at the end
    simp [List.lookup_append, List.lookup_cons, missed]

theorem lookup_put_self (f : Frame) : (f.put name v).vars.lookup name = some v := by
  unfold Frame.put
  split
  next present =>
    simp only
    generalize f.vars = vars at present
    induction vars with
    | nil => simp at present
    | cons p ps ih =>
      obtain ⟨n, w⟩ := p
      by_cases named : n = name
      · subst named
        simp only [List.map_cons, beq_self_eq_true, if_true, List.lookup_cons]
      · have kept : (n == name) = false := by simpa using named
        have missed : (name == n) = false := by simpa using Ne.symm named
        simp only [List.any_cons, kept, Bool.false_or] at present
        simp only [List.map_cons, kept, Bool.false_eq_true, if_false, List.lookup_cons, missed]
        exact ih present
  next absent =>
    -- the name is new: it goes at the end, after every entry of another name
    have missing : f.vars.lookup name = none := by
      rw [List.lookup_eq_none_iff]
      intro p member
      have other : p.1 ≠ name := by
        simp only [List.any_eq_true, not_exists, not_and, beq_iff_eq] at absent
        exact absent p member
      simpa [bne] using Ne.symm other
    simp [List.lookup_append, missing]

end Frame

namespace Machine

variable {m : Machine} {x name : String} {v : Value}

theorem global_insert (m : Machine) (other : x ≠ name) :
    (m.insert name v).global x = m.global x := by
  unfold Machine.insert
  split
  next f rest frames =>
    simp only [Machine.global, frames, List.getLast?_cons]
    cases rest.getLast? with
    | none => simp [Frame.lookup_put_of_ne f other]
    | some g => rfl
  next => rfl

theorem global_assign (m : Machine) (other : x ≠ name) :
    (m.assign name v).global x = m.global x := by
  simp only [Machine.global, Machine.assign, List.getLast?_map]
  cases m.frames.getLast? with
  | none => rfl
  | some f => by_cases bound : f.has name <;> simp [bound, Frame.lookup_put_of_ne f other]

/-- Closing a frame that is not the outermost keeps the outermost one. -/
theorem global_pop (deep : 2 ≤ m.frames.length) : m.pop.global x = m.global x := by
  obtain ⟨f, g, rest, frames⟩ : ∃ f g rest, m.frames = f :: g :: rest := by
    match m.frames, deep with
    | f :: g :: rest, _ => exact ⟨f, g, rest, rfl⟩
  simp [Machine.global, Machine.pop, frames, List.getLast?_cons]

theorem pop_push (m : Machine) (frame : String) : (m.push frame).pop = m := rfl

theorem length_frames_of_layout {m m' : Machine} (same : m'.layout = m.layout) :
    m'.frames.length = m.frames.length := by
  simpa [Machine.layout] using congrArg List.length same

end Machine

/-! ### How a run evolves the machine -/

/-- How a run that spares `N` changes the machine: the heap only grows, the frames keep their
names, the outermost frame keeps the values of `N`, and the rows met keep fitting `T`. -/
structure Machine.Evolves (N : List String) (T : Nat → Nat) (m m' : Machine) : Prop where
  heap : m.heap.Extends m'.heap
  layout : m'.layout = m.layout
  global : ∀ x ∈ N, m'.global x = m.global x
  rows : m.RowsFit T → m'.RowsFit T

namespace Machine.Evolves

variable {N : List String} {T : Nat → Nat} {m m₁ m₂ : Machine} {name : String}

@[refl] theorem refl (m : Machine) : Machine.Evolves N T m m where
  heap := .refl _
  layout := rfl
  global _ _ := rfl
  rows := id

theorem trans (first : Machine.Evolves N T m m₁) (second : Machine.Evolves N T m₁ m₂) :
    Machine.Evolves N T m m₂ where
  heap := first.heap.trans second.heap
  layout := second.layout.trans first.layout
  global x named := (second.global x named).trans (first.global x named)
  rows fit := second.rows (first.rows fit)

/-- The rows met keep fitting while the heap grows and no row is added. -/
theorem rowsFit_of_heap {m m' : Machine} (grown : m.heap.Extends m'.heap) (same : m'.rows = m.rows)
    (fit : m.RowsFit T) : m'.RowsFit T := by
  intro o v found
  rw [same] at found
  exact grown.listOf (fun _ => id) (fit o v found)

/-- A change of the heap alone, when it only grows. -/
theorem of_heap {h : Heap} (grown : m.heap.Extends h) :
    Machine.Evolves N T m { m with heap := h } where
  heap := grown
  layout := rfl
  global _ _ := rfl
  rows := rowsFit_of_heap grown rfl

/-- Closing the innermost frame on both sides keeps the evolution. -/
theorem pop (evolved : Machine.Evolves N T m m₁) : Machine.Evolves N T m.pop m₁.pop where
  heap := evolved.heap
  layout := by simp [evolved.layout]
  global x named := by
    have same := Machine.length_frames_of_layout evolved.layout
    -- below two frames the outermost one is closed on both sides, or the pops do nothing
    by_cases deep : 2 ≤ m.frames.length
    · rw [Machine.global_pop (same ▸ deep), Machine.global_pop deep, evolved.global x named]
    · have shallow : m.frames.length ≤ 1 := by omega
      have shallow₁ : m₁.frames.length ≤ 1 := by omega
      rcases Nat.le_one_iff_eq_zero_or_eq_one.mp shallow with empty | single
      · have empty₁ : m₁.frames.length = 0 := by omega
        rw [List.length_eq_zero_iff] at empty empty₁
        simp [Machine.pop, Machine.global, empty, empty₁]
      · have single₁ : m₁.frames.length = 1 := by omega
        obtain ⟨f, frames⟩ := List.length_eq_one_iff.mp single
        obtain ⟨f₁, frames₁⟩ := List.length_eq_one_iff.mp single₁
        simp [Machine.pop, Machine.global, frames, frames₁]
  rows fit := evolved.rows fit

theorem insert (spared : name ∉ N) (m : Machine) (v : Value) :
    Machine.Evolves N T m (m.insert name v) where
  heap := by unfold Machine.insert; split <;> exact .refl _
  layout := m.layout_insert name v
  global _ named := m.global_insert fun same => spared (same ▸ named)
  rows := by unfold Machine.insert; split <;> exact id

theorem assign (spared : name ∉ N) (m : Machine) (v : Value) :
    Machine.Evolves N T m (m.assign name v) where
  heap := .refl _
  layout := m.layout_assign name v
  global _ named := m.global_assign fun same => spared (same ▸ named)
  rows := id

end Machine.Evolves

/-! ### Runs that spare some names -/

/-- A run that, whether it ends or stops on a control transfer, evolves the machine as a run
sparing `N` does. -/
structure Run.Grows {α : Type} (N : List String) (T : Nat → Nat) (x : Run α) : Prop where
  ended : ∀ {m a m'}, x.run m = .ok a m' → Machine.Evolves N T m m'
  escaped : ∀ {m sig m'}, x.run m = .error (.escaped sig) m' → Machine.Evolves N T m m'

/-- A run that ends by closing the innermost frame, the rest of it sparing `N`, and lets no
control transfer out: the part of a loop after the loop's frame is opened. -/
structure Run.Pops {α : Type} (N : List String) (T : Nat → Nat) (x : Run α) : Prop where
  ended : ∀ {m a m'}, x.run m = .ok a m' → Machine.Evolves N T m.pop m'
  quiet : ∀ {m sig m'}, x.run m ≠ .error (.escaped sig) m'

section Grows

variable {α β γ : Type} {N : List String} {T : Nat → Nat}

theorem Run.Grows.pure' (a : α) : (pure a : Run α).Grows N T where
  ended ended := by cases ended; rfl
  escaped stopped := by cases stopped

theorem Run.Grows.get' : (get : Run Machine).Grows N T where
  ended ended := by cases ended; rfl
  escaped stopped := by cases stopped

theorem Run.Grows.throw' (f : Fault) : (throw f : Run α).Grows N T where
  ended ended := by cases ended
  escaped stopped := by cases stopped; rfl

theorem Run.Grows.modify' {g : Machine → Machine} (step : ∀ m, Machine.Evolves N T m (g m)) :
    (modify g : Run Unit).Grows N T where
  ended ended := by cases ended; exact step _
  escaped stopped := by cases stopped

theorem Run.Grows.lift' (e : Except OpError α) : (Run.lift e).Grows N T where
  ended ended := by cases e <;> cases ended; rfl
  escaped stopped := by cases e <;> cases stopped

/-- An operation on the heap that only adds lists. -/
theorem Run.Grows.onHeap' {f : Heap → Except OpError (Value × Heap)}
    (grows : ∀ h v h', f h = .ok (v, h') → h.Extends h') : (Run.onHeap f).Grows N T where
  ended ended := by
    obtain ⟨h', made, rfl⟩ := Run.onHeap_ok ended
    exact .of_heap (grows _ _ _ made)
  escaped {m sig m'} stopped := by
    simp only [Run.onHeap, EStateM.run] at stopped
    split at stopped <;> cases stopped

theorem Run.Grows.bind' {x : Run α} {f : α → Run β} (first : x.Grows N T)
    (rest : ∀ a, (f a).Grows N T) : (x >>= f).Grows N T where
  ended ended := by
    obtain ⟨a, m₁, started, ended⟩ := EStateM.bind_ok ended
    exact (first.ended started).trans ((rest a).ended ended)
  escaped stopped := by
    rcases EStateM.bind_error stopped with started | ⟨a, m₁, started, stopped⟩
    · exact first.escaped started
    · exact (first.ended started).trans ((rest a).escaped stopped)

theorem Run.Grows.ite' {c : Prop} [Decidable c] {x y : Run α} (yes : x.Grows N T)
    (no : y.Grows N T) : (if c then x else y).Grows N T := by
  split
  · exact yes
  · exact no

theorem Run.Grows.forIn' (xs : List γ) (init : β) {g : γ → β → Run (ForInStep β)}
    (pass : ∀ c b, (g c b).Grows N T) : (forIn xs init g).Grows N T := by
  induction xs generalizing init with
  | nil => exact .pure' init
  | cons c cs ih =>
    rw [List.forIn_cons]
    refine .bind' (pass c init) fun step => ?_
    cases step with
    | done b => exact .pure' b
    | yield b => exact ih b

theorem Run.Grows.mapM' (xs : List γ) {g : γ → Run β} (each : ∀ c ∈ xs, (g c).Grows N T) :
    (xs.mapM g).Grows N T := by
  induction xs with
  | nil => exact .pure' []
  | cons c cs ih =>
    rw [List.mapM_cons]
    refine .bind' (each c List.mem_cons_self) fun _ => .bind' (ih fun d member => ?_) fun _ => .pure' _
    exact each d (List.mem_cons_of_mem c member)

/-- A final part that transfers no control (closing a frame, stepping a counter) after a body
that spares `N`. -/
theorem Run.Grows.andFinally' {body : Run α} {final : Run Unit} (first : body.Grows N T)
    (last : final.Grows N T) (calm : final.Plain) : (Run.andFinally body final).Grows N T where
  ended {m a m'} ended := by
    cases started : body.run m with
    | ok b m₁ =>
      cases finished : final.run m₁ with
      | ok _ m₂ =>
        simp only [Run.andFinally_run, started, finished] at ended
        cases ended
        exact (first.ended started).trans (last.ended finished)
      | error e m₂ => simp only [Run.andFinally_run, started, finished] at ended; cases ended
    | error e m₁ =>
      cases finished : final.run m₁ <;>
        simp only [Run.andFinally_run, started, finished] at ended <;> cases ended
  escaped {m sig m'} stopped := by
    cases started : body.run m with
    | ok b m₁ =>
      cases finished : final.run m₁ with
      | ok _ m₂ => simp only [Run.andFinally_run, started, finished] at stopped; cases stopped
      | error e m₂ =>
        simp only [Run.andFinally_run, started, finished] at stopped
        cases stopped
        exact absurd finished calm.quiet
    | error e m₁ =>
      cases finished : final.run m₁ with
      | ok _ m₂ =>
        simp only [Run.andFinally_run, started, finished] at stopped
        cases stopped
        exact (first.escaped started).trans (last.ended finished)
      | error e' m₂ =>
        simp only [Run.andFinally_run, started, finished] at stopped
        cases stopped
        exact absurd finished calm.quiet

/-- `catching` turns the control transfers of its body into values. -/
theorem Run.Grows.catching' {body : Run Unit} (inner : body.Grows N T) :
    (Run.catching body).Grows N T where
  ended {m caught m'} ended := by
    cases started : body.run m with
    | ok _ m₁ =>
      simp only [Run.catching_run, started] at ended
      cases ended
      exact inner.ended started
    | error f m₁ =>
      cases f with
      | escaped sig =>
        simp only [Run.catching_run, started] at ended
        cases ended
        exact inner.escaped started
      | raised _ | exhausted => simp only [Run.catching_run, started] at ended; cases ended
  escaped stopped := by
    have never : (Run.catching body).Within fun _ => False := .catching'
    exact (never _ _ _ stopped).elim

/-- A block or a branch: its body runs in a new frame that is closed whatever way it ends. -/
theorem Run.Grows.framed' {name : String} {body : Run Unit} (inner : body.Grows N T) :
    (Run.framed name body).Grows N T where
  ended {m a m'} ended := by
    rw [Run.framed_run] at ended
    cases ran : body.run (m.push name) with
    | ok b m₁ =>
      rw [ran] at ended
      cases ended
      simpa only [Machine.pop_push] using (inner.ended ran).pop
    | error e m₁ => rw [ran] at ended; cases ended
  escaped {m sig m'} stopped := by
    rw [Run.framed_run] at stopped
    cases ran : body.run (m.push name) with
    | ok b m₁ => rw [ran] at stopped; cases stopped
    | error e m₁ =>
      rw [ran] at stopped
      cases stopped
      simpa only [Machine.pop_push] using (inner.escaped ran).pop

theorem Run.Pops.pop' : Run.pop.Pops N T where
  ended ended := by cases ended; rfl
  quiet stopped := by cases stopped

theorem Run.Pops.after' {x : Run α} {f : α → Run β} (first : x.Grows N T) (calm : x.Plain)
    (rest : ∀ a, (f a).Pops N T) : (x >>= f).Pops N T where
  ended ended := by
    obtain ⟨a, m₁, started, ended⟩ := EStateM.bind_ok ended
    exact (first.ended started).pop.trans ((rest a).ended ended)
  quiet stopped := by
    rcases EStateM.bind_error stopped with started | ⟨a, m₁, -, stopped⟩
    · exact calm.quiet started
    · exact (rest a).quiet stopped

/-- A loop opens its frame, and the rest of it closes the frame when the loop ends. -/
theorem Run.Grows.pushed' {name : String} {x : Run α} (rest : x.Pops N T) :
    (Run.push name >>= fun _ => x).Grows N T where
  ended {m a m'} ended := by
    simp only [Run.push, EStateM.run_bind, EStateM.run_modify] at ended
    simpa only [Machine.pop_push] using rest.ended ended
  escaped {m sig m'} stopped := by
    simp only [Run.push, EStateM.run_bind, EStateM.run_modify] at stopped
    exact absurd stopped rest.quiet

end Grows

/-! ### Operations on values -/

section Values

variable {N : List String} {T : Nat → Nat}

theorem alloc_extends {items : Array Value} {h h' : Heap} {v : Value}
    (made : (Except.ok (h.alloc items) : Except OpError (Value × Heap)) = .ok (v, h')) :
    h.Extends h' := by
  cases made
  exact h.extends_alloc items

theorem Run.lookup_grows (name : String) : (Run.lookup name).Grows N T :=
  .bind' .get' fun _ => .pure' _

theorem arithmetic_grows (op : String) (a b : Value) : (arithmetic op a b).Grows N T := by
  unfold arithmetic
  split
  · exact .onHeap' fun _ _ _ => Heap.add_extends
  · exact .onHeap' fun _ _ _ => Heap.add_extends
  · exact .onHeap' fun _ _ _ => Heap.sub_extends
  · exact .onHeap' fun _ _ _ => Heap.sub_extends
  · exact .onHeap' fun _ _ _ => Heap.mul_extends
  · exact .onHeap' fun _ _ _ => Heap.quotient_extends

theorem allLists_grows (v : Value) : (allLists v).Grows N T :=
  .bind' .get' fun _ => .bind' (.lift' _) fun _ => .pure' _

theorem firstRowLength_grows (v : Value) : (firstRowLength v).Grows N T :=
  .bind' .get' fun _ => .bind' (.lift' _) fun _ => .lift' _

theorem entry_grows (v : Value) (i j : Nat) : (entry v i j).Grows N T :=
  .bind' .get' fun _ => .bind' (.lift' _) fun _ => .lift' _

theorem spread_grows (v : Value) (n : Nat) : (spread v n).Grows N T := by
  unfold spread
  refine .bind' .get' fun _ => .bind' (.lift' _) fun _ => ?_
  refine .bind' (.forIn' _ _ fun _ _ => ?_) fun _ => .onHeap' fun _ _ _ => alloc_extends
  exact .bind' (.onHeap' fun _ _ _ => alloc_extends) fun _ => .pure' _

theorem pairwise_grows (op : String) (a b : Value) : (pairwise op a b).Grows N T := by
  unfold pairwise
  refine .bind' .get' fun _ => .bind' (.lift' _) fun _ => .bind' (.lift' _) fun _ => ?_
  refine .bind' (.forIn' _ _ fun _ _ => ?_) fun _ => .onHeap' fun _ _ _ => alloc_extends
  exact .bind' (arithmetic_grows _ _ _) fun _ => .pure' _

theorem matrixProduct_grows (a b : Value) : (matrixProduct a b).Grows N T := by
  unfold matrixProduct
  refine .bind' (allLists_grows a) fun _ => .bind' (allLists_grows b) fun _ => ?_
  refine .ite' (pairwise_grows _ _ _) ?_
  refine .bind' .get' fun _ => .bind' (.lift' _) fun _ => ?_
  refine .bind' (.forIn' _ _ fun i _ => ?_) fun _ => .onHeap' fun _ _ _ => alloc_extends
  refine .bind' (firstRowLength_grows b) fun _ => .bind' (firstRowLength_grows a) fun _ => ?_
  refine .bind' (.forIn' _ _ fun j _ => ?_) fun _ =>
    .bind' (.onHeap' fun _ _ _ => alloc_extends) fun _ => .pure' _
  refine .bind' (.forIn' _ _ fun k _ => ?_) fun _ => .pure' _
  refine .bind' (entry_grows a i k) fun _ => .bind' (entry_grows b k j) fun _ => ?_
  exact .bind' (arithmetic_grows _ _ _) fun _ => .bind' (arithmetic_grows _ _ _) fun _ => .pure' _

theorem broadcast_grows (a b : Value) : (broadcast a b).Grows N T := by
  unfold broadcast
  refine .bind' (allLists_grows a) fun _ => .ite' ?_ ?_
  · refine .bind' (allLists_grows b) fun _ => .ite' ?_ (.pure' _)
    exact .bind' (firstRowLength_grows b) fun _ => .bind' (spread_grows _ _) fun _ => .pure' _
  · refine .bind' (allLists_grows b) fun _ => .ite' ?_ (.pure' _)
    exact .bind' (firstRowLength_grows a) fun _ => .bind' (spread_grows _ _) fun _ => .pure' _

theorem combine_grows (op : String) (a b : Value) : (combine op a b).Grows N T := by
  unfold combine
  refine .ite' (matrixProduct_grows a b) ?_
  refine .bind' (allLists_grows a) fun _ => .bind' (allLists_grows b) fun _ => ?_
  refine .ite' (pairwise_grows op a b) ?_
  refine .bind' .get' fun _ => .bind' (.lift' _) fun _ => .bind' (.lift' _) fun _ => ?_
  exact .bind' (.forIn' _ _ fun _ _ => .bind' (pairwise_grows _ _ _) fun _ => .pure' _)
    fun _ => .onHeap' fun _ _ _ => alloc_extends

theorem elementwise_grows (op : String) (a b : Value) : (elementwise op a b).Grows N T := by
  unfold elementwise
  refine .bind' .get' fun _ => .ite' (.throw' _) ?_
  exact .bind' (broadcast_grows a b) fun _ => combine_grows _ _ _

theorem matrixFunction_grows (name : String) (n : Nat) : (matrixFunction name n).Grows N T :=
  .onHeap' fun _ _ _ made => (Heap.square_shape made).1

theorem compound_grows (op : String) (old x : Value) : (compound op old x).Grows N T := by
  unfold compound
  split
  · exact .onHeap' fun _ _ _ => Heap.add_extends
  · exact .onHeap' fun _ _ _ => Heap.sub_extends
  · exact .onHeap' fun _ _ _ => Heap.mul_extends
  · exact .onHeap' fun _ _ _ => Heap.divide_extends

/-- Assigning a name outside `N` spares `N`: whether it creates the name in the innermost frame
or updates it in every frame that has it. -/
theorem declare_grows {name : String} (spared : name ∉ N) (v : Value) :
    (declare name v).Grows N T := by
  unfold declare
  refine .bind' .get' fun _ => ?_
  split
  · exact .modify' fun m => .insert spared m v
  · exact .modify' fun m => .assign spared m v

/-- A row literal gives the list met before at its place, or a new list of its numbers that the
rows then remember. -/
theorem NumRow.eval_ok {r : NumRow} {m m' : Machine} {v : Value} (ended : r.eval.run m = .ok v m') :
    (m.rows.lookup r.origin = some v ∧ m' = m) ∨
    (m.rows.lookup r.origin = none ∧
      ∃ h', m.heap.alloc (r.nums.toArray.map fun (n : Nat) => Value.int n) = (v, h') ∧
        m' = { m with heap := h', rows := (r.origin, v) :: m.rows }) := by
  unfold NumRow.eval at ended
  obtain ⟨m₀, m₁, got, ended⟩ := EStateM.bind_ok ended
  cases got
  split at ended
  next cached => cases ended; exact .inl ⟨cached, rfl⟩
  next missing =>
    obtain ⟨_, m₂, allocated, ended⟩ := EStateM.bind_ok ended
    obtain ⟨h', alloc, rfl⟩ := Run.onHeap_ok allocated
    obtain ⟨_, m₃, stored, ended⟩ := EStateM.bind_ok ended
    cases stored
    cases ended
    exact .inr ⟨missing, h', Except.ok.inj alloc, rfl⟩

/-- The new list of a row literal holds its numbers. -/
theorem NumRow.listOf_alloc (r : NumRow) (h : Heap) :
    (h.alloc (r.nums.toArray.map fun (n : Nat) => Value.int n)).2.listOf r.nums.length
      Value.isNumber (h.alloc (r.nums.toArray.map fun (n : Nat) => Value.int n)).1 = true :=
  Heap.listOf_alloc (by simp) (by simp [Value.isNumber])

/-- The list of a row literal of the length `T` gives its place: the list met before, or a new
one that the rows then remember. -/
theorem NumRow.eval_grows (r : NumRow) (fits : r.nums.length = T r.origin) :
    r.eval.Grows N T where
  ended {m v m'} ended := by
    rcases NumRow.eval_ok ended with ⟨-, rfl⟩ | ⟨-, h', made, rfl⟩
    · rfl
    · obtain ⟨rfl, rfl⟩ := Heap.alloc_eq made
      have grown := m.heap.extends_alloc (r.nums.toArray.map fun (n : Nat) => Value.int n)
      refine ⟨grown, rfl, fun _ _ => rfl, fun fit o u found => ?_⟩
      simp only [List.lookup_cons] at found
      split at found
      · -- the new row: a list of the literal's numbers
        next same =>
        cases found
        rw [beq_iff_eq] at same
        subst same
        rw [← fits]
        exact r.listOf_alloc m.heap
      · exact grown.listOf (fun _ => id) (fit o u found)
  escaped {m sig m'} stopped := by
    have plain := NumRow.eval_plain r
    exact absurd stopped plain.quiet

end Values

/-! ### Expressions -/

section Expressions

variable {N : List String} {T : Nat → Nat}

theorem not_mem_of_spares {name : String} (spared : (!N.contains name) = true) : name ∉ N := by
  simpa using spared

theorem Atom.eval_grows : (a : Atom) → a.eval.Grows N T
  | .int .. | .float .. | .str .. => .pure' _
  | .var n _ => Run.lookup_grows n

theorem Index.eval_grows : (i : Index) → i.eval.Grows N T
  | .lit .. => .pure' _
  | .name n _ => Run.lookup_grows n

theorem Element.eval_grows : (r : Element) → r.eval.Grows N T
  | .pair _ r c _ =>
    .bind' r.eval_grows fun _ => .bind' c.eval_grows fun _ => .bind' (Run.lookup_grows _) fun _ =>
      .bind' .get' fun _ => .bind' (.lift' _) fun _ => .lift' _
  | .single _ r _ =>
    .bind' r.eval_grows fun _ => .bind' (Run.lookup_grows _) fun _ => .bind' .get' fun _ => .lift' _

mutual
/-- An expression that spares `N` evolves the machine as such a run does. -/
theorem Expr.eval_grows : (e : Expr) → e.spares N T = true → e.eval.Grows N T
  | .atom a, _ => a.eval_grows
  | .assign a, spared => .bind' (a.exec_grows spared) fun _ => .pure' _
  | .relation c, spared => c.eval_grows spared
  | .matrixFun f n _, _ => matrixFunction_grows f n
  | .element r, _ => r.eval_grows
  | .negate e _, spared => e.eval_grows spared
  | .literal (.rows rs _) _, spared => by
    simp only [Expr.spares, List.all_eq_true, beq_iff_eq] at spared
    exact .bind' (.mapM' rs fun r member => r.eval_grows (spared r member)) fun _ =>
      .onHeap' fun _ _ _ => alloc_extends
  | .literal (.row r) _, spared => r.eval_grows (by simpa [Expr.spares] using spared)
  | .transpose e _, spared => e.eval_grows spared
  | .paren e _, spared => e.eval_grows spared
  | .arith _ a b _, spared => by
    simp only [Expr.spares, Bool.and_eq_true] at spared
    exact .bind' (a.eval_grows spared.1) fun _ => .bind' (b.eval_grows spared.2) fun _ =>
      arithmetic_grows _ _ _
  | .dotted _ a b _, spared => by
    simp only [Expr.spares, Bool.and_eq_true] at spared
    exact .bind' (a.eval_grows spared.1) fun _ => .bind' (b.eval_grows spared.2) fun _ =>
      elementwise_grows _ _ _

/-- An assignment to a plain variable outside `N` spares `N`; a compound assignment to an
element or a slice stops before it writes. -/
theorem Assign.exec_grows : (a : Assign) → a.spares N T = true → a.exec.Grows N T
  | .declare (.var name _) v _, spared => by
    simp only [Assign.spares, Bool.and_eq_true] at spared
    exact .bind' (v.eval_grows spared.2) fun x => declare_grows (not_mem_of_spares spared.1) x
  | .declare (.element _) _ _, spared | .declare (.slice _) _ _, spared => by
    simp [Assign.spares] at spared
  | .update op (.var name _) v _, spared => by
    simp only [Assign.spares, Bool.and_eq_true] at spared
    have fresh : name ∉ N := not_mem_of_spares spared.1
    exact .bind' (v.eval_grows spared.2) fun x => .bind' (Run.lookup_grows name) fun old =>
      .bind' (compound_grows op old x) fun new => .modify' fun m => .assign fresh m new
  | .update _ (.element _) _ _, _ | .update _ (.slice _) _ _, _ => .throw' _

theorem Compare.eval_grows : (c : Compare) → c.spares N T = true → c.eval.Grows N T
  | .mk _ a b _, spared => by
    simp only [Compare.spares, Bool.and_eq_true] at spared
    exact .bind' (a.eval_grows spared.1) fun _ => .bind' (b.eval_grows spared.2) fun _ =>
      .bind' .get' fun _ => .bind' (.lift' _) fun _ => .pure' _
end

theorem Bound.eval_grows : (b : Bound) → b.spares N T = true → b.eval.Grows N T
  | .index i, _ => i.eval_grows
  | .arith _ a b _, spared => by
    simp only [Bound.spares, Bool.and_eq_true] at spared
    exact .bind' (a.eval_grows spared.1) fun _ => .bind' (b.eval_grows spared.2) fun _ =>
      arithmetic_grows _ _ _

theorem PrintItem.eval_grows : (p : PrintItem) → p.spares N T = true → p.eval.Grows N T
  | .value e, spared => e.eval_grows spared
  | .arith _ a b _, spared => by
    simp only [PrintItem.spares, Bool.and_eq_true] at spared
    exact .bind' (a.eval_grows spared.1) fun _ => .bind' (b.eval_grows spared.2) fun _ =>
      arithmetic_grows _ _ _

theorem textOf_grows (v : Value) : (textOf v).Grows N T :=
  .bind' .get' fun _ => .lift' _

theorem Printed.text_grows : (p : Printed) → p.spares N T = true → p.text.Grows N T
  | .single i, spared => .bind' (i.eval_grows spared) fun v => textOf_grows v
  | .more rest i _, spared => by
    simp only [Printed.spares, Bool.and_eq_true] at spared
    exact .bind' (rest.text_grows spared.1) fun _ => .bind' (i.eval_grows spared.2) fun v =>
      .bind' (textOf_grows v) fun _ => .pure' _

end Expressions

/-! ### Statements -/

section Statements

variable {N : List String} {T : Nat → Nat}

mutual
/-- A statement in which no `return` leaves a loop and that spares `N` leaves the heap grown,
the frames named as they were and the values of `N` in the outermost frame as they were, on
every end and every control transfer. -/
theorem Stmt.exec_grows : (fuel : Nat) → (s : Stmt) → s.returnLeavesLoop = false →
    s.spares N T = true → (Stmt.exec fuel s).Grows N T
  | 0, _, _, _ => .throw' _
  | _ + 1, .control _ _, _, _ => .ite' (.throw' _) (.ite' (.throw' _) (.pure' ()))
  | fuel + 1, .block body _, inside, spared => by
    refine .framed' (.bind' (.catching' (Stmt.execAll_grows fuel body inside spared))
      fun caught => ?_)
    split
    · exact .pure' ()
    · exact .pure' ()
    · exact .throw' _
  | fuel + 1, .ifElse c y n _, inside, spared => by
    simp only [Stmt.returnLeavesLoop, Bool.or_eq_false_iff] at inside
    simp only [Stmt.spares, Bool.and_eq_true] at spared
    exact .bind' (c.eval_grows spared.1.1) fun _ =>
      .ite' (.framed' (Stmt.execOpt_grows fuel y inside.1 spared.1.2))
        (.framed' (Stmt.execOpt_grows fuel n inside.2 spared.2))
  | fuel + 1, .ifThen c y _, inside, spared => by
    simp only [Stmt.spares, Bool.and_eq_true] at spared
    exact .bind' (c.eval_grows spared.1) fun _ =>
      .ite' (.framed' (Stmt.execOpt_grows fuel y inside spared.2)) (.pure' ())
  | fuel + 1, .whileLoop c b _, inside, spared => by
    simp only [Stmt.returnLeavesLoop, Bool.or_eq_false_iff] at inside
    simp only [Stmt.spares, Bool.and_eq_true] at spared
    exact .pushed' (.after' (Stmt.loopWhile_grows fuel c b inside.2 spared.1 spared.2)
      (Stmt.loopWhile_plain fuel c b inside.1 inside.2) fun _ => .pop')
  | fuel + 1, .forLoop v a b body _, inside, spared => by
    simp only [Stmt.returnLeavesLoop, Bool.or_eq_false_iff] at inside
    simp only [Stmt.spares, Bool.and_eq_true] at spared
    have fresh : v ∉ N := not_mem_of_spares spared.1.1
    -- the counter goes into the loop's own frame, then the passes run and the frame is closed
    exact .bind' a.eval_grows fun start => .bind' (b.eval_grows spared.1.2) fun stop =>
      .pushed' (.after' (.modify' fun m => .insert fresh m start)
        (.modify' fun m => m.layout_insert v start) fun _ =>
        .after' (Stmt.loopFor_grows fuel v stop body start fresh inside.2 spared.2)
          (Stmt.loopFor_plain fuel v stop body start inside.1 inside.2) fun _ => .pop')
  | _ + 1, .assign a, _, spared => a.exec_grows spared
  | _ + 1, .print items _, _, spared =>
    .bind' (items.text_grows spared) fun _ => .modify' fun _ => ⟨.refl _, rfl, fun _ _ => rfl, id⟩
  | _ + 1, .ret e _, _, spared => .bind' (e.eval_grows spared) fun _ => .throw' _

theorem Stmt.execOpt_grows : (fuel : Nat) → (s : Option Stmt) →
    Stmt.returnLeavesLoopOpt s = false → Stmt.sparesOpt N T s = true →
    (Stmt.execOpt fuel s).Grows N T
  | 0, _, _, _ => .throw' _
  | _ + 1, none, _, _ => .pure' ()
  | fuel + 1, some s, inside, spared => Stmt.exec_grows fuel s inside spared

theorem Stmt.execAll_grows : (fuel : Nat) → (ss : List (Option Stmt)) →
    Stmt.returnLeavesLoopAll ss = false → Stmt.sparesAll N T ss = true →
    (Stmt.execAll fuel ss).Grows N T
  | 0, _, _, _ => .throw' _
  | _ + 1, [], _, _ => .pure' ()
  | fuel + 1, s :: ss, inside, spared => by
    simp only [Stmt.returnLeavesLoopAll, Bool.or_eq_false_iff] at inside
    simp only [Stmt.sparesAll, Bool.and_eq_true] at spared
    exact .bind' (Stmt.execOpt_grows fuel s inside.1 spared.1) fun _ =>
      Stmt.execAll_grows fuel ss inside.2 spared.2

/-- The passes of a `while` loop: a `return` out of a pass is handed on as it stands. -/
theorem Stmt.loopWhile_grows : (fuel : Nat) → (c : Compare) → (b : Option Stmt) →
    Stmt.returnLeavesLoopOpt b = false → c.spares N T = true → Stmt.sparesOpt N T b = true →
    (Stmt.loopWhile fuel c b).Grows N T
  | 0, _, _, _, _, _ => .throw' _
  | fuel + 1, c, b, inside, tested, spared => by
    refine .bind' (c.eval_grows tested) fun _ => .ite' ?_ (.pure' ())
    refine .bind' (.catching' (Stmt.execOpt_grows fuel b inside spared)) fun caught => ?_
    split
    · exact .pure' ()
    · exact .throw' _
    · exact Stmt.loopWhile_grows fuel c b inside tested spared

/-- The passes of a `for` loop: the counter it steps is outside `N`. -/
theorem Stmt.loopFor_grows : (fuel : Nat) → (name : String) → (stop : Value) →
    (body : Option Stmt) → (value : Value) → name ∉ N → Stmt.returnLeavesLoopOpt body = false →
    Stmt.sparesOpt N T body = true → (Stmt.loopFor fuel name stop body value).Grows N T
  | 0, _, _, _, _, _, _, _ => .throw' _
  | fuel + 1, name, stop, body, value, fresh, inside, spared => by
    refine .bind' .get' fun _ => .bind' (.lift' _) fun _ => .ite' ?_ (.pure' ())
    refine .bind' (Run.lookup_grows name) fun current => ?_
    have step : Run.Grows N T (do
        let next ← Run.onHeap (·.add current (.int 1))
        modify fun m => m.assign name next) :=
      .bind' (.onHeap' fun _ _ _ => Heap.add_extends) fun next => .modify' fun m => .assign fresh m next
    have calm : Run.Plain (do
        let next ← Run.onHeap (·.add current (.int 1))
        modify fun m => m.assign name next) :=
      .bind' (.onHeap' _) fun next => .modify' fun m => m.layout_assign name next
    refine .bind' (.andFinally' (.catching' (Stmt.execOpt_grows fuel body inside spared)) step calm)
      fun caught => ?_
    split
    · exact .pure' ()
    · exact .throw' _
    · exact Stmt.loopFor_grows fuel name stop body current fresh inside spared
end

end Statements

end MatrixLang.Script
