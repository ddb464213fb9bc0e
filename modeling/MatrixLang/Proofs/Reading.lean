import MatrixLang.Proofs.Agreement
import MatrixLang.Proofs.Compound

/-!
# Evaluating an expression that assigns nothing

An expression that assigns nothing (`Expr.readOnly`) only reads the variables: its evaluation
leaves every frame as it was, and the heap only grows, each list already made keeping its items.
New lists come from literals, matrix functions and operations on lists; a row literal met before
gives its list again.

## Main result

* `Expr.eval_reads`: evaluating an expression that assigns nothing, whether it ends or stops on
  an error, leaves the frames as they were and only adds lists to the heap.

## Proof strategy

As for `Run.Grows`: a property of runs (`Run.Reads`) closed under the ways evaluation combines
runs, one lemma for each operation on values, and a mutual induction over expressions.
-/
namespace MatrixLang.Script

open Run

/-- A run that, whether it ends or stops, leaves the frames as they were and only adds lists to
the heap. -/
structure Run.Reads {α : Type} (x : Run α) : Prop where
  ended : ∀ {m a m'}, x.run m = .ok a m' → m'.frames = m.frames ∧ m.heap.Extends m'.heap
  stopped : ∀ {m e m'}, x.run m = .error e m' → m'.frames = m.frames ∧ m.heap.Extends m'.heap

section Reads

variable {α β γ : Type}

theorem Run.Reads.pure' (a : α) : (pure a : Run α).Reads where
  ended ended := by cases ended; exact ⟨rfl, .refl _⟩
  stopped stopped := by cases stopped

theorem Run.Reads.get' : (get : Run Machine).Reads where
  ended ended := by cases ended; exact ⟨rfl, .refl _⟩
  stopped stopped := by cases stopped

theorem Run.Reads.throw' (f : Fault) : (throw f : Run α).Reads where
  ended ended := by cases ended
  stopped stopped := by cases stopped; exact ⟨rfl, .refl _⟩

theorem Run.Reads.lift' (e : Except OpError α) : (Run.lift e).Reads where
  ended ended := by cases e <;> cases ended; exact ⟨rfl, .refl _⟩
  stopped stopped := by cases e <;> cases stopped; exact ⟨rfl, .refl _⟩

theorem Run.Reads.modify' {g : Machine → Machine}
    (step : ∀ m, (g m).frames = m.frames ∧ m.heap.Extends (g m).heap) : (modify g : Run Unit).Reads where
  ended ended := by cases ended; exact step _
  stopped stopped := by cases stopped

/-- An operation on the heap that only adds lists. -/
theorem Run.Reads.onHeap' {f : Heap → Except OpError (Value × Heap)}
    (grows : ∀ h v h', f h = .ok (v, h') → h.Extends h') : (Run.onHeap f).Reads where
  ended ended := by
    obtain ⟨h', made, rfl⟩ := Run.onHeap_ok ended
    exact ⟨rfl, grows _ _ _ made⟩
  stopped {m e m'} stopped := by
    simp only [Run.onHeap, EStateM.run] at stopped
    split at stopped <;> cases stopped
    exact ⟨rfl, .refl _⟩

theorem Run.Reads.bind' {x : Run α} {f : α → Run β} (first : x.Reads) (rest : ∀ a, (f a).Reads) :
    (x >>= f).Reads where
  ended ended := by
    obtain ⟨a, m₁, started, ended⟩ := EStateM.bind_ok ended
    obtain ⟨same₁, grown₁⟩ := first.ended started
    obtain ⟨same₂, grown₂⟩ := (rest a).ended ended
    exact ⟨same₂.trans same₁, grown₁.trans grown₂⟩
  stopped stopped := by
    rcases EStateM.bind_error stopped with started | ⟨a, m₁, started, stopped⟩
    · exact first.stopped started
    · obtain ⟨same₁, grown₁⟩ := first.ended started
      obtain ⟨same₂, grown₂⟩ := (rest a).stopped stopped
      exact ⟨same₂.trans same₁, grown₁.trans grown₂⟩

theorem Run.Reads.ite' {c : Prop} [Decidable c] {x y : Run α} (yes : x.Reads) (no : y.Reads) :
    (if c then x else y).Reads := by
  split
  · exact yes
  · exact no

theorem Run.Reads.forIn' (xs : List γ) (init : β) {g : γ → β → Run (ForInStep β)}
    (pass : ∀ c b, (g c b).Reads) : (forIn xs init g).Reads := by
  induction xs generalizing init with
  | nil => exact .pure' init
  | cons c cs ih =>
    rw [List.forIn_cons]
    refine .bind' (pass c init) fun step => ?_
    cases step with
    | done b => exact .pure' b
    | yield b => exact ih b

theorem Run.Reads.mapM' (xs : List γ) {g : γ → Run β} (each : ∀ c, (g c).Reads) :
    (xs.mapM g).Reads := by
  induction xs with
  | nil => exact .pure' []
  | cons c cs ih =>
    rw [List.mapM_cons]
    exact .bind' (each c) fun _ => .bind' ih fun _ => .pure' _

end Reads

/-! ### Operations on values -/

theorem Run.lookup_reads (name : String) : (Run.lookup name).Reads :=
  .bind' .get' fun _ => .pure' _

theorem arithmetic_reads (op : String) (a b : Value) : (arithmetic op a b).Reads := by
  unfold arithmetic
  split
  · exact .onHeap' fun _ _ _ => Heap.add_extends
  · exact .onHeap' fun _ _ _ => Heap.add_extends
  · exact .onHeap' fun _ _ _ => Heap.sub_extends
  · exact .onHeap' fun _ _ _ => Heap.sub_extends
  · exact .onHeap' fun _ _ _ => Heap.mul_extends
  · exact .onHeap' fun _ _ _ => Heap.quotient_extends

theorem allLists_reads (v : Value) : (allLists v).Reads :=
  .bind' .get' fun _ => .bind' (.lift' _) fun _ => .pure' _

theorem firstRowLength_reads (v : Value) : (firstRowLength v).Reads :=
  .bind' .get' fun _ => .bind' (.lift' _) fun _ => .lift' _

theorem entry_reads (v : Value) (i j : Nat) : (entry v i j).Reads :=
  .bind' .get' fun _ => .bind' (.lift' _) fun _ => .lift' _

theorem spread_reads (v : Value) (n : Nat) : (spread v n).Reads := by
  unfold spread
  refine .bind' .get' fun _ => .bind' (.lift' _) fun _ => ?_
  refine .bind' (.forIn' _ _ fun _ _ => ?_) fun _ => .onHeap' fun _ _ _ => alloc_extends
  exact .bind' (.onHeap' fun _ _ _ => alloc_extends) fun _ => .pure' _

theorem pairwise_reads (op : String) (a b : Value) : (pairwise op a b).Reads := by
  unfold pairwise
  refine .bind' .get' fun _ => .bind' (.lift' _) fun _ => .bind' (.lift' _) fun _ => ?_
  refine .bind' (.forIn' _ _ fun _ _ => ?_) fun _ => .onHeap' fun _ _ _ => alloc_extends
  exact .bind' (arithmetic_reads _ _ _) fun _ => .pure' _

theorem matrixProduct_reads (a b : Value) : (matrixProduct a b).Reads := by
  unfold matrixProduct
  refine .bind' (allLists_reads a) fun _ => .bind' (allLists_reads b) fun _ => ?_
  refine .ite' (pairwise_reads _ _ _) ?_
  refine .bind' .get' fun _ => .bind' (.lift' _) fun _ => ?_
  refine .bind' (.forIn' _ _ fun i _ => ?_) fun _ => .onHeap' fun _ _ _ => alloc_extends
  refine .bind' (firstRowLength_reads b) fun _ => .bind' (firstRowLength_reads a) fun _ => ?_
  refine .bind' (.forIn' _ _ fun j _ => ?_) fun _ =>
    .bind' (.onHeap' fun _ _ _ => alloc_extends) fun _ => .pure' _
  refine .bind' (.forIn' _ _ fun k _ => ?_) fun _ => .pure' _
  refine .bind' (entry_reads a i k) fun _ => .bind' (entry_reads b k j) fun _ => ?_
  exact .bind' (arithmetic_reads _ _ _) fun _ => .bind' (arithmetic_reads _ _ _) fun _ => .pure' _

theorem broadcast_reads (a b : Value) : (broadcast a b).Reads := by
  unfold broadcast
  refine .bind' (allLists_reads a) fun _ => .ite' ?_ ?_
  · refine .bind' (allLists_reads b) fun _ => .ite' ?_ (.pure' _)
    exact .bind' (firstRowLength_reads b) fun _ => .bind' (spread_reads _ _) fun _ => .pure' _
  · refine .bind' (allLists_reads b) fun _ => .ite' ?_ (.pure' _)
    exact .bind' (firstRowLength_reads a) fun _ => .bind' (spread_reads _ _) fun _ => .pure' _

theorem combine_reads (op : String) (a b : Value) : (combine op a b).Reads := by
  unfold combine
  refine .ite' (matrixProduct_reads a b) ?_
  refine .bind' (allLists_reads a) fun _ => .bind' (allLists_reads b) fun _ => ?_
  refine .ite' (pairwise_reads op a b) ?_
  refine .bind' .get' fun _ => .bind' (.lift' _) fun _ => .bind' (.lift' _) fun _ => ?_
  exact .bind' (.forIn' _ _ fun _ _ => .bind' (pairwise_reads _ _ _) fun _ => .pure' _)
    fun _ => .onHeap' fun _ _ _ => alloc_extends

theorem elementwise_reads (op : String) (a b : Value) : (elementwise op a b).Reads := by
  unfold elementwise
  refine .bind' .get' fun _ => .ite' (.throw' _) ?_
  exact .bind' (broadcast_reads a b) fun _ => combine_reads _ _ _

theorem matrixFunction_reads (name : String) (n : Nat) : (matrixFunction name n).Reads :=
  .onHeap' fun _ _ _ made => (Heap.square_shape made).1

/-- A row literal gives the list met before at its place, or a new list that the rows remember. -/
theorem NumRow.eval_reads (r : NumRow) : r.eval.Reads := by
  unfold NumRow.eval
  refine .bind' .get' fun _ => ?_
  split
  · exact .pure' _
  · refine .bind' (.onHeap' fun _ _ _ => alloc_extends) fun _ => .bind' ?_ fun _ => .pure' _
    exact .modify' fun _ => ⟨rfl, .refl _⟩

/-! ### Expressions -/

theorem Atom.eval_reads : (a : Atom) → a.eval.Reads
  | .int .. | .float .. | .str .. => .pure' _
  | .var n _ => Run.lookup_reads n

theorem Index.eval_reads : (i : Index) → i.eval.Reads
  | .lit .. => .pure' _
  | .name n _ => Run.lookup_reads n

theorem Element.eval_reads : (r : Element) → r.eval.Reads
  | .pair _ r c _ =>
    .bind' r.eval_reads fun _ => .bind' c.eval_reads fun _ => .bind' (Run.lookup_reads _) fun _ =>
      .bind' .get' fun _ => .bind' (.lift' _) fun _ => .lift' _
  | .single _ r _ =>
    .bind' r.eval_reads fun _ => .bind' (Run.lookup_reads _) fun _ => .bind' .get' fun _ => .lift' _

mutual
/-- Evaluating an expression that assigns nothing, however it ends, leaves the frames as they were
and only adds lists to the heap. -/
theorem Expr.eval_reads : (e : Expr) → e.readOnly = true → e.eval.Reads
  | .atom a, _ => a.eval_reads
  | .assign _, reads => by simp [Expr.readOnly] at reads
  | .relation c, reads => c.eval_reads reads
  | .matrixFun f n _, _ => matrixFunction_reads f n
  | .element r, _ => r.eval_reads
  | .negate e _, reads => e.eval_reads reads
  | .literal (.rows rs _) _, _ =>
    .bind' (.mapM' rs NumRow.eval_reads) fun _ => .onHeap' fun _ _ _ => alloc_extends
  | .literal (.row r) _, _ => r.eval_reads
  | .transpose e _, reads => e.eval_reads reads
  | .paren e _, reads => e.eval_reads reads
  | .arith _ a b _, reads => by
    simp only [Expr.readOnly, Bool.and_eq_true] at reads
    exact .bind' (a.eval_reads reads.1) fun _ => .bind' (b.eval_reads reads.2) fun _ =>
      arithmetic_reads _ _ _
  | .dotted _ a b _, reads => by
    simp only [Expr.readOnly, Bool.and_eq_true] at reads
    exact .bind' (a.eval_reads reads.1) fun _ => .bind' (b.eval_reads reads.2) fun _ =>
      elementwise_reads _ _ _

theorem Compare.eval_reads : (c : Compare) → c.readOnly = true → c.eval.Reads
  | .mk _ a b _, reads => by
    simp only [Compare.readOnly, Bool.and_eq_true] at reads
    exact .bind' (a.eval_reads reads.1) fun _ => .bind' (b.eval_reads reads.2) fun _ =>
      .bind' .get' fun _ => .bind' (.lift' _) fun _ => .pure' _
end

end MatrixLang.Script
