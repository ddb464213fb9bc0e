import MatrixLang.Proofs.Transfers

/-!
# Which errors a run can raise

An operation on values raises only errors of `OpError`: that is its type. Two errors come from
the interpreter itself: the unknown operator `.*` of the element-wise product (outside the
product mode), and the missing field `name` of a compound assignment (`+=` and the like) whose
target is an element or a slice. `Error.Admitted` names the errors of the first two kinds, and
`Stmt.updatesNames` says that every compound assignment of a statement updates a plain variable.

## Main result

`Stmt.exec_admitted`: a statement whose compound assignments all update plain variables raises
only admitted errors, whatever the step budget and the machine.

## Proof strategy

`Run.Raises allowed x` says every error `x` stops on is `allowed`. It is closed under the ways
the interpreter combines runs, so each function of the interpreter gets one lemma, built from
those of the functions it calls, and the statements one recursion over the step budget.
-/
namespace MatrixLang.Script

/-- The errors a run may stop on when its compound assignments update plain variables: those
of the operations on values, and the unknown operator `.*`. -/
def Error.Admitted : Error → Prop
  | .op _ => True
  | .key name => name = ".*"
  | .attribute .. => False

/-! ### Compound assignments in the syntax -/

mutual
/-- Whether every compound assignment in an expression updates a plain variable. -/
def Expr.updatesNames : Expr → Bool
  | .atom _ | .matrixFun .. | .element _ | .literal .. => true
  | .assign a => a.updatesNames
  | .relation c => c.updatesNames
  | .negate e _ | .transpose e _ | .paren e _ => e.updatesNames
  | .arith _ a b _ | .dotted _ a b _ => a.updatesNames && b.updatesNames

/-- Whether an assignment, and every compound assignment inside it, updates a plain variable
when it is compound. -/
def Assign.updatesNames : Assign → Bool
  | .declare _ v _ => v.updatesNames
  | .update _ (.var ..) v _ => v.updatesNames
  | .update .. => false

/-- Whether every compound assignment in a comparison updates a plain variable. -/
def Compare.updatesNames : Compare → Bool
  | .mk _ a b _ => a.updatesNames && b.updatesNames
end

/-- Whether every compound assignment in the end of a range updates a plain variable. -/
def Bound.updatesNames : Bound → Bool
  | .index _ => true
  | .arith _ a b _ => a.updatesNames && b.updatesNames

/-- Whether every compound assignment in an item of a `print` updates a plain variable. -/
def PrintItem.updatesNames : PrintItem → Bool
  | .value e => e.updatesNames
  | .arith _ a b _ => a.updatesNames && b.updatesNames

/-- Whether every compound assignment in the items of a `print` updates a plain variable. -/
def Printed.updatesNames : Printed → Bool
  | .single i => i.updatesNames
  | .more rest i _ => rest.updatesNames && i.updatesNames

mutual
/-- Whether every compound assignment in a statement updates a plain variable. -/
def Stmt.updatesNames : Stmt → Bool
  | .control .. => true
  | .block body _ => Stmt.updatesNamesAll body
  | .ifElse c y n _ => c.updatesNames && Stmt.updatesNamesOpt y && Stmt.updatesNamesOpt n
  | .ifThen c y _ => c.updatesNames && Stmt.updatesNamesOpt y
  | .whileLoop c b _ => c.updatesNames && Stmt.updatesNamesOpt b
  | .forLoop _ _ b body _ => b.updatesNames && Stmt.updatesNamesOpt body
  | .assign a => a.updatesNames
  | .print items _ => items.updatesNames
  | .ret e _ => e.updatesNames

/-- Whether every compound assignment in a possibly empty statement updates a plain variable. -/
def Stmt.updatesNamesOpt : Option Stmt → Bool
  | some s => s.updatesNames
  | none => true

/-- Whether every compound assignment in some statements updates a plain variable. -/
def Stmt.updatesNamesAll : List (Option Stmt) → Bool
  | [] => true
  | s :: ss => Stmt.updatesNamesOpt s && Stmt.updatesNamesAll ss
end

/-! ### Errors of runs -/

/-- Every error the run stops on is `allowed`. -/
def Run.Raises {α : Type} (allowed : Error → Prop) (x : Run α) : Prop :=
  ∀ m e m', x.run m = .error (.raised e) m' → allowed e

section Raises

variable {α β γ : Type} {allowed : Error → Prop}

theorem Run.Raises.pure' (a : α) : (pure a : Run α).Raises allowed := by
  intro m e m' stopped
  cases stopped

theorem Run.Raises.get' : (get : Run Machine).Raises allowed := by
  intro m e m' stopped
  cases stopped

theorem Run.Raises.modify' (g : Machine → Machine) : (modify g : Run Unit).Raises allowed := by
  intro m e m' stopped
  cases stopped

theorem Run.Raises.throw' {e : Error} (yes : allowed e) :
    (throw (.raised e) : Run α).Raises allowed := by
  intro m e' m' stopped
  cases stopped
  exact yes

theorem Run.Raises.exhausted : (throw .exhausted : Run α).Raises allowed := by
  intro m e m' stopped
  cases stopped

theorem Run.Raises.escape (sig : Signal) : (throw (.escaped sig) : Run α).Raises allowed := by
  intro m e m' stopped
  cases stopped

theorem Run.Raises.lift' (ops : ∀ o, allowed (.op o)) (x : Except OpError α) :
    (Run.lift x).Raises allowed := by
  intro m e m' stopped
  cases x with
  | ok a => cases stopped
  | error o => cases stopped; exact ops o

theorem Run.Raises.onHeap' (ops : ∀ o, allowed (.op o)) (g : Heap → Except OpError (Value × Heap)) :
    (Run.onHeap g).Raises allowed := by
  intro m e m' stopped
  simp only [Run.onHeap, EStateM.run] at stopped
  split at stopped
  · cases stopped
  · cases stopped
    exact ops _

theorem Run.Raises.bind' {x : Run α} {f : α → Run β} (first : x.Raises allowed)
    (rest : ∀ a, (f a).Raises allowed) : (x >>= f).Raises allowed := by
  intro m e m' stopped
  rcases EStateM.bind_error stopped with started | ⟨a, m₁, -, stopped⟩
  · exact first m e m' started
  · exact rest a m₁ e m' stopped

theorem Run.Raises.ite' {c : Prop} [Decidable c] {x y : Run α} (yes : x.Raises allowed)
    (no : y.Raises allowed) : (if c then x else y).Raises allowed := by
  split
  · exact yes
  · exact no

/-- A loop over a list raises what its passes raise. -/
theorem Run.Raises.forIn' (xs : List γ) (init : β) {g : γ → β → Run (ForInStep β)}
    (pass : ∀ c b, (g c b).Raises allowed) : (forIn xs init g).Raises allowed := by
  induction xs generalizing init with
  | nil => exact .pure' init
  | cons c cs ih =>
    rw [List.forIn_cons]
    refine .bind' (pass c init) fun step => ?_
    cases step with
    | done b => exact .pure' b
    | yield b => exact ih b

theorem Run.Raises.mapM' (xs : List γ) {g : γ → Run β} (each : ∀ c, (g c).Raises allowed) :
    (xs.mapM g).Raises allowed := by
  induction xs with
  | nil => exact .pure' []
  | cons c cs ih =>
    rw [List.mapM_cons]
    exact .bind' (each c) fun _ => .bind' ih fun _ => .pure' _

theorem Run.Raises.andFinally' {body : Run α} {final : Run Unit} (first : body.Raises allowed)
    (last : final.Raises allowed) : (Run.andFinally body final).Raises allowed := by
  intro m e m' stopped
  cases started : body.run m with
  | ok a m₁ =>
    cases finished : final.run m₁ with
    | ok _ m₂ => simp only [Run.andFinally_run, started, finished] at stopped; cases stopped
    | error f m₂ =>
      simp only [Run.andFinally_run, started, finished] at stopped
      cases stopped
      exact last _ _ _ finished
  | error f m₁ =>
    -- the body's fault stands unless the final part raises its own
    cases finished : final.run m₁ with
    | ok _ m₂ =>
      simp only [Run.andFinally_run, started, finished] at stopped
      cases stopped
      exact first _ _ _ started
    | error f' m₂ =>
      simp only [Run.andFinally_run, started, finished] at stopped
      cases stopped
      exact last _ _ _ finished

theorem Run.Raises.framed' {name : String} {body : Run Unit} (inner : body.Raises allowed) :
    (Run.framed name body).Raises allowed :=
  .andFinally' (.bind' (.modify' _) fun _ => inner) (.modify' _)

/-- `catching` passes on the errors of its body and raises none of its own. -/
theorem Run.Raises.catching' {body : Run Unit} (inner : body.Raises allowed) :
    (Run.catching body).Raises allowed := by
  intro m e m' stopped
  cases started : body.run m with
  | ok _ m₁ => simp only [Run.catching_run, started] at stopped; cases stopped
  | error f m₁ =>
    cases f with
    | raised e' =>
      simp only [Run.catching_run, started] at stopped
      cases stopped
      exact inner _ _ _ started
    | escaped _ | exhausted => simp only [Run.catching_run, started] at stopped; cases stopped

end Raises

/-! ### Operations on values -/

theorem Error.admitted_op (o : OpError) : (Error.op o).Admitted := trivial

theorem Run.lookup_admitted (name : String) : (Run.lookup name).Raises Error.Admitted :=
  .bind' .get' fun _ => .pure' _

theorem arithmetic_admitted (op : String) (a b : Value) :
    (arithmetic op a b).Raises Error.Admitted := by
  unfold arithmetic
  split <;> exact .onHeap' Error.admitted_op _

theorem allLists_admitted (v : Value) : (allLists v).Raises Error.Admitted :=
  .bind' .get' fun _ => .bind' (.lift' Error.admitted_op _) fun _ => .pure' _

theorem firstRowLength_admitted (v : Value) : (firstRowLength v).Raises Error.Admitted :=
  .bind' .get' fun _ => .bind' (.lift' Error.admitted_op _) fun _ => .lift' Error.admitted_op _

theorem entry_admitted (v : Value) (i j : Nat) : (entry v i j).Raises Error.Admitted :=
  .bind' .get' fun _ => .bind' (.lift' Error.admitted_op _) fun _ => .lift' Error.admitted_op _

theorem spread_admitted (v : Value) (n : Nat) : (spread v n).Raises Error.Admitted := by
  unfold spread
  refine .bind' .get' fun _ => .bind' (.lift' Error.admitted_op _) fun _ => ?_
  refine .bind' (.forIn' _ _ fun _ _ => ?_) fun _ => .onHeap' Error.admitted_op _
  exact .bind' (.onHeap' Error.admitted_op _) fun _ => .pure' _

theorem pairwise_admitted (op : String) (a b : Value) : (pairwise op a b).Raises Error.Admitted := by
  unfold pairwise
  refine .bind' .get' fun _ => .bind' (.lift' Error.admitted_op _) fun _ =>
    .bind' (.lift' Error.admitted_op _) fun _ => ?_
  refine .bind' (.forIn' _ _ fun _ _ => ?_) fun _ => .onHeap' Error.admitted_op _
  exact .bind' (arithmetic_admitted _ _ _) fun _ => .pure' _

theorem matrixProduct_admitted (a b : Value) : (matrixProduct a b).Raises Error.Admitted := by
  unfold matrixProduct
  refine .bind' (allLists_admitted a) fun _ => .bind' (allLists_admitted b) fun _ => ?_
  refine .ite' (pairwise_admitted _ _ _) ?_
  refine .bind' .get' fun _ => .bind' (.lift' Error.admitted_op _) fun _ => ?_
  refine .bind' (.forIn' _ _ fun i _ => ?_) fun _ => .onHeap' Error.admitted_op _
  refine .bind' (firstRowLength_admitted b) fun _ => .bind' (firstRowLength_admitted a) fun _ => ?_
  refine .bind' (.forIn' _ _ fun j _ => ?_) fun _ =>
    .bind' (.onHeap' Error.admitted_op _) fun _ => .pure' _
  refine .bind' (.forIn' _ _ fun k _ => ?_) fun _ => .pure' _
  refine .bind' (entry_admitted a i k) fun _ => .bind' (entry_admitted b k j) fun _ => ?_
  exact .bind' (arithmetic_admitted _ _ _) fun _ => .bind' (arithmetic_admitted _ _ _) fun _ =>
    .pure' _

theorem broadcast_admitted (a b : Value) : (broadcast a b).Raises Error.Admitted := by
  unfold broadcast
  refine .bind' (allLists_admitted a) fun _ => .ite' ?_ ?_
  · refine .bind' (allLists_admitted b) fun _ => .ite' ?_ (.pure' _)
    exact .bind' (firstRowLength_admitted b) fun _ => .bind' (spread_admitted _ _) fun _ => .pure' _
  · refine .bind' (allLists_admitted b) fun _ => .ite' ?_ (.pure' _)
    exact .bind' (firstRowLength_admitted a) fun _ => .bind' (spread_admitted _ _) fun _ => .pure' _

theorem combine_admitted (op : String) (a b : Value) : (combine op a b).Raises Error.Admitted := by
  unfold combine
  refine .ite' (matrixProduct_admitted a b) ?_
  refine .bind' (allLists_admitted a) fun _ => .bind' (allLists_admitted b) fun _ => ?_
  refine .ite' (pairwise_admitted op a b) ?_
  refine .bind' .get' fun _ => .bind' (.lift' Error.admitted_op _) fun _ =>
    .bind' (.lift' Error.admitted_op _) fun _ => ?_
  exact .bind' (.forIn' _ _ fun _ _ => .bind' (pairwise_admitted _ _ _) fun _ => .pure' _)
    fun _ => .onHeap' Error.admitted_op _

/-- The element-wise operators raise the errors of the operations on values, and the unknown
operator `.*` outside the product mode. -/
theorem elementwise_admitted (op : String) (a b : Value) :
    (elementwise op a b).Raises Error.Admitted := by
  unfold elementwise
  refine .bind' .get' fun _ => .ite' (.throw' rfl) ?_
  exact .bind' (broadcast_admitted a b) fun _ => combine_admitted _ _ _

theorem NumRow.eval_admitted (r : NumRow) : r.eval.Raises Error.Admitted := by
  unfold NumRow.eval
  refine .bind' .get' fun _ => ?_
  split
  · exact .pure' _
  · exact .bind' (.onHeap' Error.admitted_op _) fun _ => .bind' (.modify' _) fun _ => .pure' _

theorem matrixFunction_admitted (name : String) (n : Nat) :
    (matrixFunction name n).Raises Error.Admitted :=
  .onHeap' Error.admitted_op _

theorem declare_admitted (name : String) (v : Value) : (declare name v).Raises Error.Admitted := by
  unfold declare
  refine .bind' .get' fun _ => ?_
  split
  · exact .modify' _
  · exact .modify' _

theorem store_admitted (container index v : Value) :
    (store container index v).Raises Error.Admitted := by
  intro m e m' stopped
  simp only [store, EStateM.run] at stopped
  split at stopped
  · cases stopped
  · cases stopped
    exact Error.admitted_op _

theorem fill_admitted (container v : Value) : (count : Nat) → (start : Int) →
    (fill container v count start).Raises Error.Admitted
  | 0, _ => .pure' ()
  | count + 1, i => .bind' (store_admitted _ _ _) fun _ => fill_admitted container v count (i + 1)

theorem sliceStop_admitted (container stop : Value) :
    (sliceStop container stop).Raises Error.Admitted := by
  unfold sliceStop
  split
  · exact .bind' .get' fun _ => .bind' (.lift' Error.admitted_op _) fun _ => .pure' _
  · exact .pure' _

theorem fillSlice_admitted (container v start stop : Value) :
    (fillSlice container v start stop).Raises Error.Admitted :=
  .bind' (sliceStop_admitted _ _) fun _ => .bind' (.lift' Error.admitted_op _) fun _ =>
    .bind' (.lift' Error.admitted_op _) fun _ => fill_admitted _ _ _ _

theorem compound_admitted (op : String) (old x : Value) :
    (compound op old x).Raises Error.Admitted := by
  unfold compound
  split <;> exact .onHeap' Error.admitted_op _

/-! ### Expressions -/

theorem Atom.eval_admitted : (a : Atom) → a.eval.Raises Error.Admitted
  | .int .. | .float .. | .str .. => .pure' _
  | .var n _ => Run.lookup_admitted n

theorem Index.eval_admitted : (i : Index) → i.eval.Raises Error.Admitted
  | .lit .. => .pure' _
  | .name n _ => Run.lookup_admitted n

theorem Element.eval_admitted : (r : Element) → r.eval.Raises Error.Admitted
  | .pair _ r c _ =>
    .bind' r.eval_admitted fun _ => .bind' c.eval_admitted fun _ =>
      .bind' (Run.lookup_admitted _) fun _ => .bind' .get' fun _ =>
        .bind' (.lift' Error.admitted_op _) fun _ => .lift' Error.admitted_op _
  | .single _ r _ =>
    .bind' r.eval_admitted fun _ => .bind' (Run.lookup_admitted _) fun _ => .bind' .get' fun _ =>
      .lift' Error.admitted_op _

theorem Slice.ends_admitted : (s : Slice) → s.ends.Raises Error.Admitted
  | .both _ b e _ => .bind' b.eval_admitted fun _ => .bind' e.eval_admitted fun _ => .pure' _
  | .upTo _ e _ => .bind' e.eval_admitted fun _ => .pure' _
  | .onwards _ b _ => .bind' b.eval_admitted fun _ => .pure' _

mutual
/-- An expression whose compound assignments update plain variables raises only admitted
errors. -/
theorem Expr.eval_admitted : (e : Expr) → e.updatesNames = true → e.eval.Raises Error.Admitted
  | .atom a, _ => a.eval_admitted
  | .assign a, named => .bind' (a.exec_admitted named) fun _ => .pure' _
  | .relation c, named => c.eval_admitted named
  | .matrixFun f n _, _ => matrixFunction_admitted f n
  | .element r, _ => r.eval_admitted
  | .negate e _, named => e.eval_admitted named
  | .literal (.rows rs _) _, _ =>
    .bind' (.mapM' rs NumRow.eval_admitted) fun _ => .onHeap' Error.admitted_op _
  | .literal (.row r) _, _ => r.eval_admitted
  | .transpose e _, named => e.eval_admitted named
  | .paren e _, named => e.eval_admitted named
  | .arith _ a b _, named => by
    simp only [Expr.updatesNames, Bool.and_eq_true] at named
    exact .bind' (a.eval_admitted named.1) fun _ => .bind' (b.eval_admitted named.2) fun _ =>
      arithmetic_admitted _ _ _
  | .dotted _ a b _, named => by
    simp only [Expr.updatesNames, Bool.and_eq_true] at named
    exact .bind' (a.eval_admitted named.1) fun _ => .bind' (b.eval_admitted named.2) fun _ =>
      elementwise_admitted _ _ _

/-- An assignment whose compound assignments update plain variables raises only admitted
errors: the missing field `name` is raised only by a compound assignment to an element or a
slice. -/
theorem Assign.exec_admitted : (a : Assign) → a.updatesNames = true → a.exec.Raises Error.Admitted
  | .declare (.var name _) v _, named =>
    .bind' (v.eval_admitted named) fun x => declare_admitted name x
  | .declare (.element (.pair id r c _)) v _, named =>
    .bind' r.eval_admitted fun _ => .bind' c.eval_admitted fun _ =>
      .bind' (Run.lookup_admitted _) fun _ => .bind' (v.eval_admitted named) fun _ =>
        .bind' .get' fun _ => .bind' (.lift' Error.admitted_op _) fun _ =>
          .bind' (store_admitted _ _ _) fun _ => .modify' _
  | .declare (.element (.single id r _)) v _, named =>
    .bind' r.eval_admitted fun _ => .bind' (Run.lookup_admitted _) fun _ =>
      .bind' (v.eval_admitted named) fun _ => .bind' (store_admitted _ _ _) fun _ => .modify' _
  | .declare (.slice s) v _, named =>
    .bind' s.ends_admitted fun (_, start, stop) => .bind' (Run.lookup_admitted _) fun m =>
      .bind' (v.eval_admitted named) fun x => .bind' (fillSlice_admitted m x start stop) fun _ =>
        .modify' _
  | .update op (.var name _) v _, named =>
    .bind' (v.eval_admitted named) fun x => .bind' (Run.lookup_admitted name) fun old =>
      .bind' (compound_admitted op old x) fun _ => .modify' _
  | .update _ (.element _) _ _, named | .update _ (.slice _) _ _, named => by
    simp [Assign.updatesNames] at named

/-- A comparison whose compound assignments update plain variables raises only admitted
errors. -/
theorem Compare.eval_admitted : (c : Compare) → c.updatesNames = true → c.eval.Raises Error.Admitted
  | .mk _ a b _, named => by
    simp only [Compare.updatesNames, Bool.and_eq_true] at named
    exact .bind' (a.eval_admitted named.1) fun _ => .bind' (b.eval_admitted named.2) fun _ =>
      .bind' .get' fun _ => .bind' (.lift' Error.admitted_op _) fun _ => .pure' _
end

theorem Bound.eval_admitted : (b : Bound) → b.updatesNames = true → b.eval.Raises Error.Admitted
  | .index i, _ => i.eval_admitted
  | .arith _ a b _, named => by
    simp only [Bound.updatesNames, Bool.and_eq_true] at named
    exact .bind' (a.eval_admitted named.1) fun _ => .bind' (b.eval_admitted named.2) fun _ =>
      arithmetic_admitted _ _ _

theorem PrintItem.eval_admitted : (p : PrintItem) → p.updatesNames = true →
    p.eval.Raises Error.Admitted
  | .value e, named => e.eval_admitted named
  | .arith _ a b _, named => by
    simp only [PrintItem.updatesNames, Bool.and_eq_true] at named
    exact .bind' (a.eval_admitted named.1) fun _ => .bind' (b.eval_admitted named.2) fun _ =>
      arithmetic_admitted _ _ _

theorem textOf_admitted (v : Value) : (textOf v).Raises Error.Admitted :=
  .bind' .get' fun _ => .lift' Error.admitted_op _

theorem Printed.text_admitted : (p : Printed) → p.updatesNames = true →
    p.text.Raises Error.Admitted
  | .single i, named => .bind' (i.eval_admitted named) fun v => textOf_admitted v
  | .more rest i _, named => by
    simp only [Printed.updatesNames, Bool.and_eq_true] at named
    exact .bind' (rest.text_admitted named.1) fun _ => .bind' (i.eval_admitted named.2) fun _ =>
      .bind' (textOf_admitted _) fun _ => .pure' _

/-! ### Statements -/

mutual
/-- A statement whose compound assignments update plain variables raises only admitted
errors. -/
theorem Stmt.exec_admitted : (fuel : Nat) → (s : Stmt) → s.updatesNames = true →
    (Stmt.exec fuel s).Raises Error.Admitted
  | 0, _, _ => .exhausted
  | _ + 1, .control _ _, _ => .ite' (.escape _) (.ite' (.escape _) (.pure' ()))
  | fuel + 1, .block body _, named => by
    refine .andFinally' (.bind' (.modify' _) fun _ => ?_) (.modify' _)
    refine .bind' (.catching' (Stmt.execAll_admitted fuel body named)) fun caught => ?_
    split
    · exact .pure' ()
    · exact .pure' ()
    · exact .escape _
  | fuel + 1, .ifElse c y n _, named => by
    simp only [Stmt.updatesNames, Bool.and_eq_true] at named
    obtain ⟨⟨cond, yes⟩, no⟩ := named
    exact .bind' (c.eval_admitted cond) fun _ =>
      .ite' (.framed' (Stmt.execOpt_admitted fuel y yes)) (.framed' (Stmt.execOpt_admitted fuel n no))
  | fuel + 1, .ifThen c y _, named => by
    simp only [Stmt.updatesNames, Bool.and_eq_true] at named
    exact .bind' (c.eval_admitted named.1) fun _ =>
      .ite' (.framed' (Stmt.execOpt_admitted fuel y named.2)) (.pure' ())
  | fuel + 1, .whileLoop c b _, named => by
    simp only [Stmt.updatesNames, Bool.and_eq_true] at named
    exact .bind' (.modify' _) fun _ =>
      .bind' (Stmt.loopWhile_admitted fuel c b named.1 named.2) fun _ => .modify' _
  | fuel + 1, .forLoop v a b body _, named => by
    simp only [Stmt.updatesNames, Bool.and_eq_true] at named
    exact .bind' a.eval_admitted fun _ => .bind' (b.eval_admitted named.1) fun _ =>
      .bind' (.modify' _) fun _ => .bind' (.modify' _) fun _ =>
        .bind' (Stmt.loopFor_admitted fuel v _ body _ named.2) fun _ => .modify' _
  | _ + 1, .assign a, named => a.exec_admitted named
  | _ + 1, .print items _, named => .bind' (items.text_admitted named) fun _ => .modify' _
  | _ + 1, .ret e _, named => .bind' (e.eval_admitted named) fun _ => .escape _

theorem Stmt.execOpt_admitted : (fuel : Nat) → (s : Option Stmt) →
    Stmt.updatesNamesOpt s = true → (Stmt.execOpt fuel s).Raises Error.Admitted
  | 0, _, _ => .exhausted
  | _ + 1, none, _ => .pure' ()
  | fuel + 1, some s, named => Stmt.exec_admitted fuel s named

theorem Stmt.execAll_admitted : (fuel : Nat) → (ss : List (Option Stmt)) →
    Stmt.updatesNamesAll ss = true → (Stmt.execAll fuel ss).Raises Error.Admitted
  | 0, _, _ => .exhausted
  | _ + 1, [], _ => .pure' ()
  | fuel + 1, s :: ss, named => by
    simp only [Stmt.updatesNamesAll, Bool.and_eq_true] at named
    exact .bind' (Stmt.execOpt_admitted fuel s named.1) fun _ =>
      Stmt.execAll_admitted fuel ss named.2

theorem Stmt.loopWhile_admitted : (fuel : Nat) → (c : Compare) → (b : Option Stmt) →
    c.updatesNames = true → Stmt.updatesNamesOpt b = true →
    (Stmt.loopWhile fuel c b).Raises Error.Admitted
  | 0, _, _, _, _ => .exhausted
  | fuel + 1, c, b, cond, body => by
    refine .bind' (c.eval_admitted cond) fun _ => .ite' ?_ (.pure' ())
    refine .bind' (.catching' (Stmt.execOpt_admitted fuel b body)) fun caught => ?_
    split
    · exact .pure' ()
    · exact .escape _
    · exact Stmt.loopWhile_admitted fuel c b cond body

theorem Stmt.loopFor_admitted : (fuel : Nat) → (name : String) → (stop : Value) →
    (body : Option Stmt) → (value : Value) → Stmt.updatesNamesOpt body = true →
    (Stmt.loopFor fuel name stop body value).Raises Error.Admitted
  | 0, _, _, _, _, _ => .exhausted
  | fuel + 1, name, stop, body, value, named => by
    refine .bind' .get' fun _ => .bind' (.lift' Error.admitted_op _) fun _ => .ite' ?_ (.pure' ())
    refine .bind' (Run.lookup_admitted name) fun current => ?_
    -- the counter moves on after every pass, whatever way the pass ended
    have step : Run.Raises Error.Admitted (do
        let next ← Run.onHeap (·.add current (.int 1))
        modify fun m => m.assign name next) :=
      .bind' (.onHeap' Error.admitted_op _) fun _ => .modify' _
    refine .bind' (.andFinally' (.catching' (Stmt.execOpt_admitted fuel body named)) step)
      fun caught => ?_
    split
    · exact .pure' ()
    · exact .escape _
    · exact Stmt.loopFor_admitted fuel name stop body current named
end

end MatrixLang.Script
