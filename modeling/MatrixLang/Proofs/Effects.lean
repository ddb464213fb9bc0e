import MatrixLang.Script.Eval

/-!
# Expressions transfer no control and keep the frames

Evaluating an expression reads and writes variables and lists, but it opens and closes no frame,
and a `return`, `break` or `continue` can only come from a statement. This module states both
facts as one property of a run, `Run.Plain`: a normal end leaves the frames named as they were,
and no fault the run stops on is a control transfer.

The property is closed under the operations of the monad (`bind`, `forIn`, `mapM`), so each
evaluation function inherits it from the functions it calls; an assignment keeps the names of
the frames because it only changes the values they hold. The main statements are
`Expr.eval_plain`, `Assign.exec_plain` and `Compare.eval_plain`, one case per constructor, and
the same for the other parts of statements: range ends and printed items.
-/
namespace MatrixLang.Script

/-! ### The layout of the frames -/

/-- The names of the frames, innermost first: the frames apart from the values they hold. -/
def Machine.layout (m : Machine) : List String := m.frames.map Frame.name

@[simp] theorem Frame.put_name (f : Frame) (name : String) (v : Value) :
    (f.put name v).name = f.name := by
  unfold Frame.put
  split <;> rfl

@[simp] theorem Machine.layout_insert (m : Machine) (name : String) (v : Value) :
    (m.insert name v).layout = m.layout := by
  unfold Machine.insert
  split
  next f rest frames => simp [Machine.layout, frames]
  next => rfl

@[simp] theorem Machine.layout_assign (m : Machine) (name : String) (v : Value) :
    (m.assign name v).layout = m.layout := by
  simp only [Machine.assign, Machine.layout, List.map_map]
  congr 1
  funext f
  by_cases bound : f.has name <;> simp [bound]

@[simp] theorem Machine.layout_push (m : Machine) (name : String) :
    (m.push name).layout = name :: m.layout := rfl

@[simp] theorem Machine.layout_pop (m : Machine) : m.pop.layout = m.layout.drop 1 := by
  simp [Machine.pop, Machine.layout]

/-! ### Taking a sequence apart -/

section Bind

variable {ε σ α β : Type} {x : EStateM ε σ α} {f : α → EStateM ε σ β} {s s' : σ}

/-- A sequence that ends normally ran both of its parts to a normal end. -/
theorem EStateM.bind_ok {b : β} (ended : (x >>= f).run s = .ok b s') :
    ∃ a s₁, x.run s = .ok a s₁ ∧ (f a).run s₁ = .ok b s' := by
  rw [EStateM.run_bind] at ended
  cases started : x.run s with
  | ok a s₁ => rw [started] at ended; exact ⟨a, s₁, rfl, ended⟩
  | error e s₁ => rw [started] at ended; cases ended

/-- A sequence that stops stopped in its first part, or in its second after the first ended. -/
theorem EStateM.bind_error {e : ε} (stopped : (x >>= f).run s = .error e s') :
    x.run s = .error e s' ∨ ∃ a s₁, x.run s = .ok a s₁ ∧ (f a).run s₁ = .error e s' := by
  rw [EStateM.run_bind] at stopped
  cases started : x.run s with
  | ok a s₁ => rw [started] at stopped; exact .inr ⟨a, s₁, rfl, stopped⟩
  | error e₁ s₁ => rw [started] at stopped; cases stopped; exact .inl rfl

end Bind

/-- A program that runs to its end ran its statements to their end from a fresh machine. -/
theorem Program.run_ok {p : Program} {product : Bool} {m : Machine} (ran : p.run product = .ok m) :
    (Stmt.execAll budget p).run { product } = .ok () m := by
  unfold Program.run at ran
  split at ran <;> cases ran
  assumption

/-- A program that stops stopped running its statements, on the same fault and machine. -/
theorem Program.run_error {p : Program} {product : Bool} {f : Fault} {m : Machine}
    (stopped : p.run product = .error (f, m)) :
    (Stmt.execAll budget p).run { product } = .error f m := by
  unfold Program.run at stopped
  split at stopped <;> cases stopped
  assumption

/-! ### Plain runs -/

/-- A run that transfers no control and keeps the frames: a normal end leaves the frames named
as they were, and no fault it stops on is a `return`, `break` or `continue`. -/
structure Run.Plain {α : Type} (x : Run α) : Prop where
  keeps : ∀ {m a m'}, x.run m = .ok a m' → m'.layout = m.layout
  quiet : ∀ {m sig m'}, x.run m ≠ .error (.escaped sig) m'

section Plain

variable {α β γ : Type}

theorem Run.Plain.pure' (a : α) : (pure a : Run α).Plain where
  keeps ended := by cases ended; rfl
  quiet ended := by cases ended

theorem Run.Plain.get' : (get : Run Machine).Plain where
  keeps ended := by cases ended; rfl
  quiet ended := by cases ended

theorem Run.Plain.throw' (e : Error) : (throw (.raised e) : Run α).Plain where
  keeps ended := by cases ended
  quiet ended := by cases ended

theorem Run.Plain.modify' {g : Machine → Machine} (layout : ∀ m, (g m).layout = m.layout) :
    (modify g : Run Unit).Plain where
  keeps ended := by cases ended; exact layout _
  quiet ended := by cases ended

theorem Run.Plain.lift' (e : Except OpError α) : (Run.lift e).Plain where
  keeps ended := by cases e <;> cases ended; rfl
  quiet ended := by cases e <;> cases ended

theorem Run.Plain.onHeap' (g : Heap → Except OpError (Value × Heap)) : (Run.onHeap g).Plain where
  keeps {m a m'} ended := by
    simp only [Run.onHeap, EStateM.run] at ended
    split at ended <;> cases ended
    rfl
  quiet {m sig m'} ended := by
    simp only [Run.onHeap, EStateM.run] at ended
    split at ended <;> cases ended

theorem Run.Plain.bind' {x : Run α} {f : α → Run β} (first : x.Plain) (rest : ∀ a, (f a).Plain) :
    (x >>= f).Plain where
  keeps ended := by
    obtain ⟨a, m₁, started, ended⟩ := EStateM.bind_ok ended
    exact ((rest a).keeps ended).trans (first.keeps started)
  quiet stopped := by
    rcases EStateM.bind_error stopped with started | ⟨a, m₁, -, stopped⟩
    · exact first.quiet started
    · exact (rest a).quiet stopped

theorem Run.Plain.ite' {c : Prop} [Decidable c] {x y : Run α} (yes : x.Plain) (no : y.Plain) :
    (if c then x else y).Plain := by
  split
  · exact yes
  · exact no

/-- A loop over a list is plain when every pass is. -/
theorem Run.Plain.forIn' (xs : List γ) (init : β) {g : γ → β → Run (ForInStep β)}
    (pass : ∀ c b, (g c b).Plain) : (forIn xs init g).Plain := by
  induction xs generalizing init with
  | nil => exact .pure' init
  | cons c cs ih =>
    rw [List.forIn_cons]
    refine .bind' (pass c init) fun step => ?_
    cases step with
    | done b => exact .pure' b
    | yield b => exact ih b

theorem Run.Plain.mapM' (xs : List γ) {g : γ → Run β} (each : ∀ c, (g c).Plain) :
    (xs.mapM g).Plain := by
  induction xs with
  | nil => exact .pure' []
  | cons c cs ih =>
    rw [List.mapM_cons]
    exact .bind' (each c) fun _ => .bind' ih fun _ => .pure' _

end Plain

/-! ### Operations on values -/

theorem Run.lookup_plain (name : String) : (Run.lookup name).Plain :=
  .bind' .get' fun _ => .pure' _

theorem arithmetic_plain (op : String) (a b : Value) : (arithmetic op a b).Plain := by
  unfold arithmetic
  split <;> exact .onHeap' _

theorem allLists_plain (v : Value) : (allLists v).Plain :=
  .bind' .get' fun _ => .bind' (.lift' _) fun _ => .pure' _

theorem firstRowLength_plain (v : Value) : (firstRowLength v).Plain :=
  .bind' .get' fun _ => .bind' (.lift' _) fun _ => .lift' _

theorem entry_plain (v : Value) (i j : Nat) : (entry v i j).Plain :=
  .bind' .get' fun _ => .bind' (.lift' _) fun _ => .lift' _

theorem spread_plain (v : Value) (n : Nat) : (spread v n).Plain := by
  unfold spread
  refine .bind' .get' fun _ => .bind' (.lift' _) fun _ => ?_
  exact .bind' (.forIn' _ _ fun _ _ => .bind' (.onHeap' _) fun _ => .pure' _) fun _ => .onHeap' _

theorem pairwise_plain (op : String) (a b : Value) : (pairwise op a b).Plain := by
  unfold pairwise
  refine .bind' .get' fun _ => .bind' (.lift' _) fun _ => .bind' (.lift' _) fun _ => ?_
  refine .bind' (.forIn' _ _ fun _ _ => ?_) fun _ => .onHeap' _
  exact .bind' (arithmetic_plain _ _ _) fun _ => .pure' _

theorem matrixProduct_plain (a b : Value) : (matrixProduct a b).Plain := by
  unfold matrixProduct
  refine .bind' (allLists_plain a) fun _ => .bind' (allLists_plain b) fun _ => ?_
  refine .ite' (pairwise_plain _ _ _) ?_
  refine .bind' .get' fun _ => .bind' (.lift' _) fun _ => ?_
  refine .bind' (.forIn' _ _ fun i _ => ?_) fun _ => .onHeap' _
  refine .bind' (firstRowLength_plain b) fun _ => .bind' (firstRowLength_plain a) fun _ => ?_
  refine .bind' (.forIn' _ _ fun j _ => ?_) fun _ => .bind' (.onHeap' _) fun _ => .pure' _
  -- one entry of the product: a sum of products over the inner dimension
  refine .bind' (.forIn' _ _ fun k _ => ?_) fun _ => .pure' _
  refine .bind' (entry_plain a i k) fun _ => .bind' (entry_plain b k j) fun _ => ?_
  exact .bind' (arithmetic_plain _ _ _) fun _ => .bind' (arithmetic_plain _ _ _) fun _ => .pure' _

theorem broadcast_plain (a b : Value) : (broadcast a b).Plain := by
  unfold broadcast
  refine .bind' (allLists_plain a) fun _ => .ite' ?_ ?_
  · refine .bind' (allLists_plain b) fun _ => .ite' ?_ (.pure' _)
    exact .bind' (firstRowLength_plain b) fun _ => .bind' (spread_plain _ _) fun _ => .pure' _
  · refine .bind' (allLists_plain b) fun _ => .ite' ?_ (.pure' _)
    exact .bind' (firstRowLength_plain a) fun _ => .bind' (spread_plain _ _) fun _ => .pure' _

theorem combine_plain (op : String) (a b : Value) : (combine op a b).Plain := by
  unfold combine
  refine .ite' (matrixProduct_plain a b) ?_
  refine .bind' (allLists_plain a) fun _ => .bind' (allLists_plain b) fun _ => ?_
  refine .ite' (pairwise_plain op a b) ?_
  refine .bind' .get' fun _ => .bind' (.lift' _) fun _ => .bind' (.lift' _) fun _ => ?_
  exact .bind' (.forIn' _ _ fun _ _ => .bind' (pairwise_plain _ _ _) fun _ => .pure' _)
    fun _ => .onHeap' _

theorem elementwise_plain (op : String) (a b : Value) : (elementwise op a b).Plain := by
  unfold elementwise
  refine .bind' .get' fun _ => .ite' (.throw' _) ?_
  exact .bind' (broadcast_plain a b) fun _ => combine_plain _ _ _

theorem NumRow.eval_plain (r : NumRow) : r.eval.Plain := by
  unfold NumRow.eval
  refine .bind' .get' fun _ => ?_
  split
  · exact .pure' _
  · exact .bind' (.onHeap' _) fun _ => .bind' (.modify' fun _ => rfl) fun _ => .pure' _

theorem matrixFunction_plain (name : String) (n : Nat) : (matrixFunction name n).Plain :=
  .onHeap' _

theorem declare_plain (name : String) (v : Value) : (declare name v).Plain := by
  unfold declare
  refine .bind' .get' fun _ => ?_
  split
  · exact .modify' fun m => m.layout_insert name v
  · exact .modify' fun m => m.layout_assign name v

theorem store_plain (container index v : Value) : (store container index v).Plain where
  keeps {m a m'} ended := by
    simp only [store, EStateM.run] at ended
    split at ended <;> cases ended
    rfl
  quiet {m sig m'} ended := by
    simp only [store, EStateM.run] at ended
    split at ended <;> cases ended

theorem fill_plain (container v : Value) : (count : Nat) → (start : Int) →
    (fill container v count start).Plain
  | 0, _ => .pure' ()
  | count + 1, i => .bind' (store_plain _ _ _) fun _ => fill_plain container v count (i + 1)

theorem sliceStop_plain (container stop : Value) : (sliceStop container stop).Plain := by
  unfold sliceStop
  split
  · exact .bind' .get' fun _ => .bind' (.lift' _) fun _ => .pure' _
  · exact .pure' _

theorem fillSlice_plain (container v start stop : Value) :
    (fillSlice container v start stop).Plain :=
  .bind' (sliceStop_plain _ _) fun _ => .bind' (.lift' _) fun _ => .bind' (.lift' _) fun _ =>
    fill_plain _ _ _ _

theorem compound_plain (op : String) (old x : Value) : (compound op old x).Plain := by
  unfold compound
  split <;> exact .onHeap' _

/-! ### Expressions -/

theorem Atom.eval_plain : (a : Atom) → a.eval.Plain
  | .int .. | .float .. | .str .. => .pure' _
  | .var n _ => Run.lookup_plain n

theorem Index.eval_plain : (i : Index) → i.eval.Plain
  | .lit .. => .pure' _
  | .name n _ => Run.lookup_plain n

theorem Element.eval_plain : (r : Element) → r.eval.Plain
  | .pair _ r c _ =>
    .bind' r.eval_plain fun _ => .bind' c.eval_plain fun _ => .bind' (Run.lookup_plain _) fun _ =>
      .bind' .get' fun _ => .bind' (.lift' _) fun _ => .lift' _
  | .single _ r _ =>
    .bind' r.eval_plain fun _ => .bind' (Run.lookup_plain _) fun _ => .bind' .get' fun _ => .lift' _

theorem Slice.ends_plain : (s : Slice) → s.ends.Plain
  | .both _ b e _ => .bind' b.eval_plain fun _ => .bind' e.eval_plain fun _ => .pure' _
  | .upTo _ e _ => .bind' e.eval_plain fun _ => .pure' _
  | .onwards _ b _ => .bind' b.eval_plain fun _ => .pure' _

mutual
/-- Evaluating an expression transfers no control and keeps the frames. -/
theorem Expr.eval_plain : (e : Expr) → e.eval.Plain
  | .atom a => a.eval_plain
  | .assign a => .bind' a.exec_plain fun _ => .pure' _
  | .relation c => c.eval_plain
  | .matrixFun f n _ => matrixFunction_plain f n
  | .element r => r.eval_plain
  | .negate e _ => e.eval_plain
  | .literal (.rows rs _) _ => .bind' (.mapM' rs NumRow.eval_plain) fun _ => .onHeap' _
  | .literal (.row r) _ => r.eval_plain
  | .transpose e _ => e.eval_plain
  | .paren e _ => e.eval_plain
  | .arith _ a b _ => .bind' a.eval_plain fun _ => .bind' b.eval_plain fun _ => arithmetic_plain _ _ _
  | .dotted _ a b _ =>
    .bind' a.eval_plain fun _ => .bind' b.eval_plain fun _ => elementwise_plain _ _ _

/-- Running an assignment transfers no control and keeps the frames: it only changes the values
they hold. -/
theorem Assign.exec_plain : (a : Assign) → a.exec.Plain
  | .declare (.var name _) v _ => .bind' v.eval_plain fun x => declare_plain name x
  | .declare (.element (.pair id r c _)) v _ =>
    .bind' r.eval_plain fun _ => .bind' c.eval_plain fun _ => .bind' (Run.lookup_plain _) fun m =>
      .bind' v.eval_plain fun _ => .bind' .get' fun _ => .bind' (.lift' _) fun _ =>
        .bind' (store_plain _ _ _) fun _ => .modify' fun s => s.layout_assign id m
  | .declare (.element (.single id r _)) v _ =>
    .bind' r.eval_plain fun _ => .bind' (Run.lookup_plain _) fun m => .bind' v.eval_plain fun _ =>
      .bind' (store_plain _ _ _) fun _ => .modify' fun s => s.layout_assign id m
  | .declare (.slice s) v _ =>
    .bind' s.ends_plain fun (id, start, stop) => .bind' (Run.lookup_plain id) fun m =>
      .bind' v.eval_plain fun x => .bind' (fillSlice_plain m x start stop) fun _ =>
        .modify' fun s => s.layout_assign id m
  | .update op (.var name _) v _ =>
    .bind' v.eval_plain fun x => .bind' (Run.lookup_plain name) fun old =>
      .bind' (compound_plain op old x) fun new => .modify' fun s => s.layout_assign name new
  | .update _ (.element _) _ _ | .update _ (.slice _) _ _ => .throw' _

/-- Evaluating a comparison transfers no control and keeps the frames. -/
theorem Compare.eval_plain : (c : Compare) → c.eval.Plain
  | .mk _ a b _ =>
    .bind' a.eval_plain fun _ => .bind' b.eval_plain fun _ => .bind' .get' fun _ =>
      .bind' (.lift' _) fun _ => .pure' _
end

theorem Bound.eval_plain : (b : Bound) → b.eval.Plain
  | .index i => i.eval_plain
  | .arith _ a b _ => .bind' a.eval_plain fun _ => .bind' b.eval_plain fun _ => arithmetic_plain _ _ _

theorem PrintItem.eval_plain : (p : PrintItem) → p.eval.Plain
  | .value e => e.eval_plain
  | .arith _ a b _ => .bind' a.eval_plain fun _ => .bind' b.eval_plain fun _ => arithmetic_plain _ _ _

theorem textOf_plain (v : Value) : (textOf v).Plain :=
  .bind' .get' fun _ => .lift' _

theorem Printed.text_plain : (p : Printed) → p.text.Plain
  | .single i => .bind' i.eval_plain fun v => textOf_plain v
  | .more rest i _ =>
    .bind' rest.text_plain fun _ => .bind' i.eval_plain fun _ => .bind' (textOf_plain _) fun _ => .pure' _

end MatrixLang.Script
