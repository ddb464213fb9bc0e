import MatrixLang.Proofs.Frames
import Mathlib.Data.List.Forall2

/-!
# No run closes a frame it did not open

A block, a branch or a loop closes "the innermost frame" when it ends, which need not be the frame
it opened: a `return` that leaves a loop leaves the loop's frame open, and the block around it
closes that one instead of its own (`Stmt.return_from_loop_leaves_frame`). Still, no run ever
closes a frame that was open when it started. Whatever way a run ends, the frames it started on
are still at the bottom of the stack, in order, each with at least the names it had (values may
change), under the frames opened since (`Frames.Held`).

In particular a name bound when a statement starts is still bound when it ends, which is what a
`for` loop relies on to find its counter after each pass.

## Main result

`Stmt.exec_holds`: every run of every statement holds the frames it started on, whether it ends,
stops on a control transfer, raises or runs out of steps.

## Proof strategy

`Run.Holds` is closed under the ways the interpreter combines runs; opening a frame, running, and
closing the innermost frame holds the frames below (`Frames.Held.drop_one`): whatever the run did
in between, the frame closed is one it opened or the one opened just before it.
-/
namespace MatrixLang.Script

/-! ### Frames that keep their names -/

/-- Frame `g` has every name frame `f` has. -/
def Frame.Within (f g : Frame) : Prop := ∀ x, f.has x = true → g.has x = true

theorem Frame.Within.refl (f : Frame) : f.Within f := fun _ => id

theorem Frame.Within.trans {f g k : Frame} (first : f.Within g) (second : g.Within k) :
    f.Within k := fun x bound => second x (first x bound)

/-- Setting a variable keeps every name of the frame. -/
theorem Frame.within_put (f : Frame) (name : String) (v : Value) : f.Within (f.put name v) := by
  intro x bound
  unfold Frame.put
  split
  · simpa [Frame.has, List.any_map, Function.comp_def, apply_ite Prod.fst] using bound
  · simp only [Frame.has] at bound ⊢
    simp [bound]

/-- The frames `after` hold the frames `before` at their bottom, in order, each with at least the
names it had, under frames opened since. -/
def Frames.Held (before after : List Frame) : Prop :=
  ∃ opened kept, after = opened ++ kept ∧ List.Forall₂ Frame.Within before kept

namespace Frames

theorem forall₂_within_refl : ∀ fs : List Frame, List.Forall₂ Frame.Within fs fs
  | [] => .nil
  | f :: fs => .cons (Frame.Within.refl f) (forall₂_within_refl fs)

theorem forall₂_within_trans : ∀ {fs gs ks : List Frame}, List.Forall₂ Frame.Within fs gs →
    List.Forall₂ Frame.Within gs ks → List.Forall₂ Frame.Within fs ks
  | [], [], [], .nil, .nil => .nil
  | _ :: _, _ :: _, _ :: _, .cons first rest, .cons second rest' =>
    .cons (first.trans second) (forall₂_within_trans rest rest')

/-- The frames matched with a list made of two parts are made of two matching parts. -/
theorem forall₂_append_split {R : Frame → Frame → Prop} :
    ∀ {fs gs ks : List Frame}, List.Forall₂ R (fs ++ gs) ks →
      ∃ ks₁ ks₂, ks = ks₁ ++ ks₂ ∧ List.Forall₂ R fs ks₁ ∧ List.Forall₂ R gs ks₂
  | [], _, ks, matched => ⟨[], ks, rfl, .nil, matched⟩
  | f :: fs, gs, k :: ks, .cons first rest => by
    obtain ⟨ks₁, ks₂, split, left, right⟩ := forall₂_append_split rest
    exact ⟨k :: ks₁, ks₂, by simp [split], .cons first left, right⟩

namespace Held

variable {fs gs ks : List Frame}

theorem refl (fs : List Frame) : Held fs fs := ⟨[], fs, rfl, forall₂_within_refl fs⟩

theorem trans (first : Held fs gs) (second : Held gs ks) : Held fs ks := by
  obtain ⟨opened, kept, rfl, within⟩ := first
  obtain ⟨opened', kept', rfl, within'⟩ := second
  -- the frames `gs` opened are matched by a front part of what `ks` kept
  obtain ⟨front, back, rfl, -, matched⟩ := forall₂_append_split within'
  exact ⟨opened' ++ front, back, by simp, forall₂_within_trans within matched⟩

/-- Opening a frame holds the frames below it. -/
theorem cons (f : Frame) (fs : List Frame) : Held fs (f :: fs) := ⟨[f], fs, rfl, forall₂_within_refl fs⟩

/-- Closing the innermost frame on both sides keeps the frames held: the frame closed after the
run is one it opened, or the very frame closed before it. -/
theorem drop_one (held : Held fs gs) : Held (fs.drop 1) (gs.drop 1) := by
  obtain ⟨opened, kept, rfl, within⟩ := held
  cases opened with
  | nil =>
    cases within with
    | nil => exact refl []
    | cons first rest => exact ⟨[], _, rfl, rest⟩
  | cons o os =>
    cases within with
    | nil => exact ⟨os, [], by simp, .nil⟩
    | @cons f k fs' ks first rest => exact ⟨os ++ [k], ks, by simp, rest⟩

/-- Changing frames in place, keeping their names, holds them. -/
theorem map {g : Frame → Frame} (keeps : ∀ f : Frame, f.Within (g f)) (fs : List Frame) :
    Held fs (fs.map g) := by
  refine ⟨[], fs.map g, rfl, ?_⟩
  induction fs with
  | nil => exact .nil
  | cons f fs ih => exact .cons (keeps f) ih

/-- A name some held frame has is still had by some frame. -/
theorem binds (held : Held fs gs) {x : String} (bound : fs.any (·.has x) = true) :
    gs.any (·.has x) = true := by
  obtain ⟨opened, kept, rfl, within⟩ := held
  obtain ⟨f, member, has⟩ := List.any_eq_true.1 bound
  obtain ⟨k, kmember, related⟩ : ∃ k ∈ kept, f.Within k := by
    clear bound has
    induction within with
    | nil => cases member
    | cons first rest ih =>
      rcases List.mem_cons.1 member with rfl | member
      · exact ⟨_, List.mem_cons_self, first⟩
      · obtain ⟨k, kmember, related⟩ := ih member
        exact ⟨k, List.mem_cons_of_mem _ kmember, related⟩
  exact List.any_eq_true.2 ⟨k, List.mem_append_right _ kmember, related x has⟩

end Held
end Frames

theorem Machine.held_insert (m : Machine) (name : String) (v : Value) :
    Frames.Held m.frames (m.insert name v).frames := by
  unfold Machine.insert
  split
  next f rest frames =>
    rw [frames]
    exact ⟨[], _, rfl, .cons (f.within_put name v) (Frames.forall₂_within_refl rest)⟩
  next => exact .refl _

theorem Machine.held_assign (m : Machine) (name : String) (v : Value) :
    Frames.Held m.frames (m.assign name v).frames := by
  refine Frames.Held.map (fun f => ?_) m.frames
  by_cases bound : f.has name
  · simpa [bound] using f.within_put name v
  · simpa [bound] using Frame.Within.refl f

/-! ### Runs that hold their frames -/

/-- A run that, whatever way it ends, holds the frames it started on. -/
structure Run.Holds {α : Type} (x : Run α) : Prop where
  ended : ∀ {m a m'}, x.run m = .ok a m' → Frames.Held m.frames m'.frames
  stopped : ∀ {m e m'}, x.run m = .error e m' → Frames.Held m.frames m'.frames

/-- A run that starts on a frame it is to close: when it ends it holds the frames below that
frame, and when it stops, all the frames it started on. The part of a loop after the loop's frame
is opened. -/
structure Run.Opened {α : Type} (x : Run α) : Prop where
  ended : ∀ {m a m'}, x.run m = .ok a m' → Frames.Held (m.frames.drop 1) m'.frames
  stopped : ∀ {m e m'}, x.run m = .error e m' → Frames.Held m.frames m'.frames

section Holds

variable {α β γ : Type}

theorem Run.Holds.pure' (a : α) : (pure a : Run α).Holds where
  ended ended := by cases ended; exact .refl _
  stopped stopped := by cases stopped

theorem Run.Holds.get' : (get : Run Machine).Holds where
  ended ended := by cases ended; exact .refl _
  stopped stopped := by cases stopped

theorem Run.Holds.throw' (f : Fault) : (throw f : Run α).Holds where
  ended ended := by cases ended
  stopped stopped := by cases stopped; exact .refl _

theorem Run.Holds.modify' {g : Machine → Machine} (held : ∀ m, Frames.Held m.frames (g m).frames) :
    (modify g : Run Unit).Holds where
  ended ended := by cases ended; exact held _
  stopped stopped := by cases stopped

/-- A change of anything but the frames. -/
theorem Run.Holds.modify_same {g : Machine → Machine} (same : ∀ m, (g m).frames = m.frames) :
    (modify g : Run Unit).Holds :=
  .modify' fun m => same m ▸ .refl _

theorem Run.Holds.lift' (e : Except OpError α) : (Run.lift e).Holds where
  ended ended := by cases e <;> cases ended; exact .refl _
  stopped stopped := by cases e <;> cases stopped; exact .refl _

theorem Run.Holds.onHeap' (g : Heap → Except OpError (Value × Heap)) : (Run.onHeap g).Holds where
  ended {m a m'} ended := by
    simp only [Run.onHeap, EStateM.run] at ended
    split at ended <;> cases ended
    exact .refl _
  stopped {m e m'} stopped := by
    simp only [Run.onHeap, EStateM.run] at stopped
    split at stopped <;> cases stopped
    exact .refl _

theorem Run.Holds.bind' {x : Run α} {f : α → Run β} (first : x.Holds) (rest : ∀ a, (f a).Holds) :
    (x >>= f).Holds where
  ended ended := by
    obtain ⟨a, m₁, started, ended⟩ := EStateM.bind_ok ended
    exact (first.ended started).trans ((rest a).ended ended)
  stopped stopped := by
    rcases EStateM.bind_error stopped with started | ⟨a, m₁, started, stopped⟩
    · exact first.stopped started
    · exact (first.ended started).trans ((rest a).stopped stopped)

theorem Run.Holds.ite' {c : Prop} [Decidable c] {x y : Run α} (yes : x.Holds) (no : y.Holds) :
    (if c then x else y).Holds := by
  split
  · exact yes
  · exact no

/-- A loop over a list holds the frames when every pass does. -/
theorem Run.Holds.forIn' (xs : List γ) (init : β) {g : γ → β → Run (ForInStep β)}
    (pass : ∀ c b, (g c b).Holds) : (forIn xs init g).Holds := by
  induction xs generalizing init with
  | nil => exact .pure' init
  | cons c cs ih =>
    rw [List.forIn_cons]
    refine .bind' (pass c init) fun step => ?_
    cases step with
    | done b => exact .pure' b
    | yield b => exact ih b

theorem Run.Holds.mapM' (xs : List γ) {g : γ → Run β} (each : ∀ c, (g c).Holds) :
    (xs.mapM g).Holds := by
  induction xs with
  | nil => exact .pure' []
  | cons c cs ih =>
    rw [List.mapM_cons]
    exact .bind' (each c) fun _ => .bind' ih fun _ => .pure' _

theorem Run.Holds.andFinally' {body : Run α} {final : Run Unit} (first : body.Holds)
    (last : final.Holds) : (Run.andFinally body final).Holds where
  ended {m a m'} ended := by
    cases started : body.run m with
    | ok b m₁ =>
      cases finished : final.run m₁ with
      | ok _ m₂ =>
        simp only [Run.andFinally_run, started, finished] at ended
        cases ended
        exact (first.ended started).trans (last.ended finished)
      | error e m₂ => simp only [Run.andFinally_run, started, finished] at ended; cases ended
    | error e m₁ =>
      cases finished : final.run m₁ <;>
        simp only [Run.andFinally_run, started, finished] at ended <;> cases ended
  stopped {m e m'} stopped := by
    cases started : body.run m with
    | ok b m₁ =>
      cases finished : final.run m₁ with
      | ok _ m₂ => simp only [Run.andFinally_run, started, finished] at stopped; cases stopped
      | error e m₂ =>
        simp only [Run.andFinally_run, started, finished] at stopped
        cases stopped
        exact (first.ended started).trans (last.stopped finished)
    | error e m₁ =>
      -- the final part runs on whatever the body left, and its own fault wins
      cases finished : final.run m₁ with
      | ok _ m₂ =>
        simp only [Run.andFinally_run, started, finished] at stopped
        cases stopped
        exact (first.stopped started).trans (last.ended finished)
      | error e' m₂ =>
        simp only [Run.andFinally_run, started, finished] at stopped
        cases stopped
        exact (first.stopped started).trans (last.stopped finished)

theorem Run.Holds.catching' {body : Run Unit} (inner : body.Holds) : (Run.catching body).Holds where
  ended {m caught m'} ended := by
    cases started : body.run m with
    | ok _ m₁ =>
      simp only [Run.catching_run, started] at ended
      cases ended
      exact inner.ended started
    | error e m₁ =>
      cases e <;> simp only [Run.catching_run, started] at ended <;> cases ended
      exact inner.stopped started
  stopped {m e m'} stopped := by
    cases started : body.run m with
    | ok _ m₁ => simp only [Run.catching_run, started] at stopped; cases stopped
    | error e m₁ =>
      cases e <;> simp only [Run.catching_run, started] at stopped <;> cases stopped <;>
        exact inner.stopped started

/-- A block or a branch opens a frame, runs its body and closes the innermost frame, whatever
way the body ends. -/
theorem Run.Holds.framed' {name : String} {body : Run Unit} (inner : body.Holds) :
    (Run.framed name body).Holds where
  ended {m a m'} ended := by
    rw [Run.framed_run] at ended
    cases ran : body.run (m.push name) with
    | ok b m₁ =>
      rw [ran] at ended
      cases ended
      exact (inner.ended ran).drop_one
    | error e m₁ => rw [ran] at ended; cases ended
  stopped {m e m'} stopped := by
    rw [Run.framed_run] at stopped
    cases ran : body.run (m.push name) with
    | ok b m₁ => rw [ran] at stopped; cases stopped
    | error e m₁ =>
      rw [ran] at stopped
      cases stopped
      exact (inner.stopped ran).drop_one

theorem Run.Opened.pop' : Run.pop.Opened where
  ended ended := by cases ended; exact .refl _
  stopped stopped := by cases stopped

theorem Run.Opened.after' {x : Run α} {f : α → Run β} (first : x.Holds)
    (rest : ∀ a, (f a).Opened) : (x >>= f).Opened where
  ended ended := by
    obtain ⟨a, m₁, started, ended⟩ := EStateM.bind_ok ended
    exact (first.ended started).drop_one.trans ((rest a).ended ended)
  stopped stopped := by
    rcases EStateM.bind_error stopped with started | ⟨a, m₁, started, stopped⟩
    · exact first.stopped started
    · exact (first.ended started).trans ((rest a).stopped stopped)

/-- A loop opens its frame and closes the innermost frame only when it ends. -/
theorem Run.Holds.pushed' {name : String} {x : Run α} (rest : x.Opened) :
    (Run.push name >>= fun _ => x).Holds where
  ended {m a m'} ended := by
    simp only [Run.push, EStateM.run_bind, EStateM.run_modify] at ended
    simpa [Machine.push] using rest.ended ended
  stopped {m e m'} stopped := by
    simp only [Run.push, EStateM.run_bind, EStateM.run_modify] at stopped
    exact (Frames.Held.cons _ m.frames).trans (rest.stopped stopped)

end Holds

/-! ### Operations on values -/

theorem Run.lookup_holds (name : String) : (Run.lookup name).Holds :=
  .bind' .get' fun _ => .pure' _

theorem arithmetic_holds (op : String) (a b : Value) : (arithmetic op a b).Holds := by
  unfold arithmetic
  split <;> exact .onHeap' _

theorem allLists_holds (v : Value) : (allLists v).Holds :=
  .bind' .get' fun _ => .bind' (.lift' _) fun _ => .pure' _

theorem firstRowLength_holds (v : Value) : (firstRowLength v).Holds :=
  .bind' .get' fun _ => .bind' (.lift' _) fun _ => .lift' _

theorem entry_holds (v : Value) (i j : Nat) : (entry v i j).Holds :=
  .bind' .get' fun _ => .bind' (.lift' _) fun _ => .lift' _

theorem spread_holds (v : Value) (n : Nat) : (spread v n).Holds := by
  unfold spread
  refine .bind' .get' fun _ => .bind' (.lift' _) fun _ => ?_
  exact .bind' (.forIn' _ _ fun _ _ => .bind' (.onHeap' _) fun _ => .pure' _) fun _ => .onHeap' _

theorem pairwise_holds (op : String) (a b : Value) : (pairwise op a b).Holds := by
  unfold pairwise
  refine .bind' .get' fun _ => .bind' (.lift' _) fun _ => .bind' (.lift' _) fun _ => ?_
  refine .bind' (.forIn' _ _ fun _ _ => ?_) fun _ => .onHeap' _
  exact .bind' (arithmetic_holds _ _ _) fun _ => .pure' _

theorem matrixProduct_holds (a b : Value) : (matrixProduct a b).Holds := by
  unfold matrixProduct
  refine .bind' (allLists_holds a) fun _ => .bind' (allLists_holds b) fun _ => ?_
  refine .ite' (pairwise_holds _ _ _) ?_
  refine .bind' .get' fun _ => .bind' (.lift' _) fun _ => ?_
  refine .bind' (.forIn' _ _ fun i _ => ?_) fun _ => .onHeap' _
  refine .bind' (firstRowLength_holds b) fun _ => .bind' (firstRowLength_holds a) fun _ => ?_
  refine .bind' (.forIn' _ _ fun j _ => ?_) fun _ => .bind' (.onHeap' _) fun _ => .pure' _
  refine .bind' (.forIn' _ _ fun k _ => ?_) fun _ => .pure' _
  refine .bind' (entry_holds a i k) fun _ => .bind' (entry_holds b k j) fun _ => ?_
  exact .bind' (arithmetic_holds _ _ _) fun _ => .bind' (arithmetic_holds _ _ _) fun _ => .pure' _

theorem broadcast_holds (a b : Value) : (broadcast a b).Holds := by
  unfold broadcast
  refine .bind' (allLists_holds a) fun _ => .ite' ?_ ?_
  · refine .bind' (allLists_holds b) fun _ => .ite' ?_ (.pure' _)
    exact .bind' (firstRowLength_holds b) fun _ => .bind' (spread_holds _ _) fun _ => .pure' _
  · refine .bind' (allLists_holds b) fun _ => .ite' ?_ (.pure' _)
    exact .bind' (firstRowLength_holds a) fun _ => .bind' (spread_holds _ _) fun _ => .pure' _

theorem combine_holds (op : String) (a b : Value) : (combine op a b).Holds := by
  unfold combine
  refine .ite' (matrixProduct_holds a b) ?_
  refine .bind' (allLists_holds a) fun _ => .bind' (allLists_holds b) fun _ => ?_
  refine .ite' (pairwise_holds op a b) ?_
  refine .bind' .get' fun _ => .bind' (.lift' _) fun _ => .bind' (.lift' _) fun _ => ?_
  exact .bind' (.forIn' _ _ fun _ _ => .bind' (pairwise_holds _ _ _) fun _ => .pure' _)
    fun _ => .onHeap' _

theorem elementwise_holds (op : String) (a b : Value) : (elementwise op a b).Holds := by
  unfold elementwise
  refine .bind' .get' fun _ => .ite' (.throw' _) ?_
  exact .bind' (broadcast_holds a b) fun _ => combine_holds _ _ _

theorem NumRow.eval_holds (r : NumRow) : r.eval.Holds := by
  unfold NumRow.eval
  refine .bind' .get' fun _ => ?_
  split
  · exact .pure' _
  · exact .bind' (.onHeap' _) fun _ => .bind' (.modify_same fun _ => rfl) fun _ => .pure' _

theorem matrixFunction_holds (name : String) (n : Nat) : (matrixFunction name n).Holds :=
  .onHeap' _

theorem declare_holds (name : String) (v : Value) : (declare name v).Holds := by
  unfold declare
  refine .bind' .get' fun _ => ?_
  split
  · exact .modify' fun m => m.held_insert name v
  · exact .modify' fun m => m.held_assign name v

theorem store_holds (container index v : Value) : (store container index v).Holds where
  ended {m a m'} ended := by
    simp only [store, EStateM.run] at ended
    split at ended <;> cases ended
    exact .refl _
  stopped {m e m'} stopped := by
    simp only [store, EStateM.run] at stopped
    split at stopped <;> cases stopped
    exact .refl _

theorem fill_holds (container v : Value) : (count : Nat) → (start : Int) →
    (fill container v count start).Holds
  | 0, _ => .pure' ()
  | count + 1, i => .bind' (store_holds _ _ _) fun _ => fill_holds container v count (i + 1)

theorem sliceStop_holds (container stop : Value) : (sliceStop container stop).Holds := by
  unfold sliceStop
  split
  · exact .bind' .get' fun _ => .bind' (.lift' _) fun _ => .pure' _
  · exact .pure' _

theorem fillSlice_holds (container v start stop : Value) :
    (fillSlice container v start stop).Holds :=
  .bind' (sliceStop_holds _ _) fun _ => .bind' (.lift' _) fun _ => .bind' (.lift' _) fun _ =>
    fill_holds _ _ _ _

theorem compound_holds (op : String) (old x : Value) : (compound op old x).Holds := by
  unfold compound
  split <;> exact .onHeap' _

/-! ### Expressions -/

theorem Atom.eval_holds : (a : Atom) → a.eval.Holds
  | .int .. | .float .. | .str .. => .pure' _
  | .var n _ => Run.lookup_holds n

theorem Index.eval_holds : (i : Index) → i.eval.Holds
  | .lit .. => .pure' _
  | .name n _ => Run.lookup_holds n

theorem Element.eval_holds : (r : Element) → r.eval.Holds
  | .pair _ r c _ =>
    .bind' r.eval_holds fun _ => .bind' c.eval_holds fun _ => .bind' (Run.lookup_holds _) fun _ =>
      .bind' .get' fun _ => .bind' (.lift' _) fun _ => .lift' _
  | .single _ r _ =>
    .bind' r.eval_holds fun _ => .bind' (Run.lookup_holds _) fun _ => .bind' .get' fun _ => .lift' _

theorem Slice.ends_holds : (s : Slice) → s.ends.Holds
  | .both _ b e _ => .bind' b.eval_holds fun _ => .bind' e.eval_holds fun _ => .pure' _
  | .upTo _ e _ => .bind' e.eval_holds fun _ => .pure' _
  | .onwards _ b _ => .bind' b.eval_holds fun _ => .pure' _

mutual
/-- Evaluating an expression holds the frames: an assignment inside it only sets variables. -/
theorem Expr.eval_holds : (e : Expr) → e.eval.Holds
  | .atom a => a.eval_holds
  | .assign a => .bind' a.exec_holds fun _ => .pure' _
  | .relation c => c.eval_holds
  | .matrixFun f n _ => matrixFunction_holds f n
  | .element r => r.eval_holds
  | .negate e _ => e.eval_holds
  | .literal (.rows rs _) _ => .bind' (.mapM' rs NumRow.eval_holds) fun _ => .onHeap' _
  | .literal (.row r) _ => r.eval_holds
  | .transpose e _ => e.eval_holds
  | .paren e _ => e.eval_holds
  | .arith _ a b _ => .bind' a.eval_holds fun _ => .bind' b.eval_holds fun _ => arithmetic_holds _ _ _
  | .dotted _ a b _ =>
    .bind' a.eval_holds fun _ => .bind' b.eval_holds fun _ => elementwise_holds _ _ _

/-- Running an assignment holds the frames. -/
theorem Assign.exec_holds : (a : Assign) → a.exec.Holds
  | .declare (.var name _) v _ => .bind' v.eval_holds fun x => declare_holds name x
  | .declare (.element (.pair id r c _)) v _ =>
    .bind' r.eval_holds fun _ => .bind' c.eval_holds fun _ => .bind' (Run.lookup_holds _) fun m =>
      .bind' v.eval_holds fun _ => .bind' .get' fun _ => .bind' (.lift' _) fun _ =>
        .bind' (store_holds _ _ _) fun _ => .modify' fun s => s.held_assign id m
  | .declare (.element (.single id r _)) v _ =>
    .bind' r.eval_holds fun _ => .bind' (Run.lookup_holds _) fun m => .bind' v.eval_holds fun _ =>
      .bind' (store_holds _ _ _) fun _ => .modify' fun s => s.held_assign id m
  | .declare (.slice s) v _ =>
    .bind' s.ends_holds fun (id, start, stop) => .bind' (Run.lookup_holds id) fun m =>
      .bind' v.eval_holds fun x => .bind' (fillSlice_holds m x start stop) fun _ =>
        .modify' fun s => s.held_assign id m
  | .update op (.var name _) v _ =>
    .bind' v.eval_holds fun x => .bind' (Run.lookup_holds name) fun old =>
      .bind' (compound_holds op old x) fun new => .modify' fun s => s.held_assign name new
  | .update _ (.element _) _ _ | .update _ (.slice _) _ _ => .throw' _

/-- Evaluating a comparison holds the frames. -/
theorem Compare.eval_holds : (c : Compare) → c.eval.Holds
  | .mk _ a b _ =>
    .bind' a.eval_holds fun _ => .bind' b.eval_holds fun _ => .bind' .get' fun _ =>
      .bind' (.lift' _) fun _ => .pure' _
end

theorem Bound.eval_holds : (b : Bound) → b.eval.Holds
  | .index i => i.eval_holds
  | .arith _ a b _ => .bind' a.eval_holds fun _ => .bind' b.eval_holds fun _ => arithmetic_holds _ _ _

theorem PrintItem.eval_holds : (p : PrintItem) → p.eval.Holds
  | .value e => e.eval_holds
  | .arith _ a b _ => .bind' a.eval_holds fun _ => .bind' b.eval_holds fun _ => arithmetic_holds _ _ _

theorem textOf_holds (v : Value) : (textOf v).Holds :=
  .bind' .get' fun _ => .lift' _

theorem Printed.text_holds : (p : Printed) → p.text.Holds
  | .single i => .bind' i.eval_holds fun v => textOf_holds v
  | .more rest i _ =>
    .bind' rest.text_holds fun _ => .bind' i.eval_holds fun _ => .bind' (textOf_holds _) fun _ => .pure' _

/-! ### Statements -/

mutual
/-- Every run of a statement holds the frames it started on. -/
theorem Stmt.exec_holds : (fuel : Nat) → (s : Stmt) → (Stmt.exec fuel s).Holds
  | 0, _ => .throw' _
  | _ + 1, .control _ _ => .ite' (.throw' _) (.ite' (.throw' _) (.pure' ()))
  | fuel + 1, .block body _ => by
    refine .framed' (.bind' (.catching' (Stmt.execAll_holds fuel body)) fun caught => ?_)
    split
    · exact .pure' ()
    · exact .pure' ()
    · exact .throw' _
  | fuel + 1, .ifElse c y n _ =>
    .bind' c.eval_holds fun _ =>
      .ite' (.framed' (Stmt.execOpt_holds fuel y)) (.framed' (Stmt.execOpt_holds fuel n))
  | fuel + 1, .ifThen c y _ =>
    .bind' c.eval_holds fun _ => .ite' (.framed' (Stmt.execOpt_holds fuel y)) (.pure' ())
  | fuel + 1, .whileLoop c b _ =>
    .pushed' (.after' (Stmt.loopWhile_holds fuel c b) fun _ => .pop')
  | fuel + 1, .forLoop v a b body _ =>
    .bind' a.eval_holds fun start => .bind' b.eval_holds fun stop =>
      .pushed' (.after' (.modify' fun m => m.held_insert v start) fun _ =>
        .after' (Stmt.loopFor_holds fuel v stop body start) fun _ => .pop')
  | _ + 1, .assign a => a.exec_holds
  | _ + 1, .print items _ => .bind' items.text_holds fun _ => .modify_same fun _ => rfl
  | _ + 1, .ret e _ => .bind' e.eval_holds fun _ => .throw' _

theorem Stmt.execOpt_holds : (fuel : Nat) → (s : Option Stmt) → (Stmt.execOpt fuel s).Holds
  | 0, _ => .throw' _
  | _ + 1, none => .pure' ()
  | fuel + 1, some s => Stmt.exec_holds fuel s

theorem Stmt.execAll_holds : (fuel : Nat) → (ss : List (Option Stmt)) → (Stmt.execAll fuel ss).Holds
  | 0, _ => .throw' _
  | _ + 1, [] => .pure' ()
  | fuel + 1, s :: ss => .bind' (Stmt.execOpt_holds fuel s) fun _ => Stmt.execAll_holds fuel ss

theorem Stmt.loopWhile_holds : (fuel : Nat) → (c : Compare) → (b : Option Stmt) →
    (Stmt.loopWhile fuel c b).Holds
  | 0, _, _ => .throw' _
  | fuel + 1, c, b => by
    refine .bind' c.eval_holds fun _ => .ite' ?_ (.pure' ())
    refine .bind' (.catching' (Stmt.execOpt_holds fuel b)) fun caught => ?_
    split
    · exact .pure' ()
    · exact .throw' _
    · exact Stmt.loopWhile_holds fuel c b

theorem Stmt.loopFor_holds : (fuel : Nat) → (name : String) → (stop : Value) →
    (body : Option Stmt) → (value : Value) → (Stmt.loopFor fuel name stop body value).Holds
  | 0, _, _, _, _ => .throw' _
  | fuel + 1, name, stop, body, value => by
    refine .bind' .get' fun _ => .bind' (.lift' _) fun _ => .ite' ?_ (.pure' ())
    refine .bind' (Run.lookup_holds name) fun current => ?_
    refine .bind' (.andFinally' (.catching' (Stmt.execOpt_holds fuel body))
      (.bind' (.onHeap' _) fun next => .modify' fun m => m.held_assign name next)) fun caught => ?_
    split
    · exact .pure' ()
    · exact .throw' _
    · exact Stmt.loopFor_holds fuel name stop body current
end

end MatrixLang.Script
