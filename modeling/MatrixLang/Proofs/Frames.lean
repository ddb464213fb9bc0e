import MatrixLang.Proofs.Transfers

/-!
# Which runs give back the frames they found

The interpreter opens a frame for every block, branch and loop. A block or a branch closes it
whatever way its body ends; a `while` or `for` loop closes it only when the loop itself ends. A
`return` that leaves a loop body for an enclosing block therefore skips the loop's frame, and the
block, closing "its" frame, closes the loop's instead: the frames after the block are not those
before it.

## Main result

`Stmt.exec_keeps_frames`: a statement in which no `return` leaves a loop body ends, or stops on
a control transfer, with the frames it started with.

## Proof strategy

One recursion over the interpreter, with a predicate on runs for each shape of frame use:
`Run.Keeps`, ends and control transfers keep the frames; `Run.Closes`, ends close one frame
and no control transfer gets out. The loops are `Run.Plain` once no `return` can leave their
body, which `Stmt.exec_within` decides from the syntax.
-/
namespace MatrixLang.Script

/-! ### Returns that leave a loop -/

mutual
/-- Whether some `while` or `for` loop in the statement has a `return` in its body that no
block inside the loop catches. -/
def Stmt.returnLeavesLoop : Stmt → Bool
  | .block body _ => Stmt.returnLeavesLoopAll body
  | .ifElse _ y n _ => Stmt.returnLeavesLoopOpt y || Stmt.returnLeavesLoopOpt n
  | .ifThen _ y _ => Stmt.returnLeavesLoopOpt y
  | .whileLoop _ b _ => Stmt.escapesOpt .ret b || Stmt.returnLeavesLoopOpt b
  | .forLoop _ _ _ b _ => Stmt.escapesOpt .ret b || Stmt.returnLeavesLoopOpt b
  | .control .. | .assign _ | .print .. | .ret .. => false

/-- Whether a possibly empty statement has a `return` leaving a loop. -/
def Stmt.returnLeavesLoopOpt : Option Stmt → Bool
  | some s => s.returnLeavesLoop
  | none => false

/-- Whether one of some statements has a `return` leaving a loop. -/
def Stmt.returnLeavesLoopAll : List (Option Stmt) → Bool
  | [] => false
  | s :: ss => Stmt.returnLeavesLoopOpt s || Stmt.returnLeavesLoopAll ss
end

/-! ### Runs and frames -/

/-- A run whose ends and control transfers leave the frames as they found them. -/
structure Run.Keeps {α : Type} (x : Run α) : Prop where
  ended : ∀ {m a m'}, x.run m = .ok a m' → m'.layout = m.layout
  escaped : ∀ {m sig m'}, x.run m = .error (.escaped sig) m' → m'.layout = m.layout

/-- A run that closes the innermost frame when it ends and lets no control transfer out. -/
structure Run.Closes {α : Type} (x : Run α) : Prop where
  ended : ∀ {m a m'}, x.run m = .ok a m' → m'.layout = m.layout.drop 1
  quiet : ∀ {m sig m'}, x.run m ≠ .error (.escaped sig) m'

section Frames

variable {α β : Type}

theorem Run.Plain.exhausted : (throw .exhausted : Run α).Plain where
  keeps ended := by cases ended
  quiet ended := by cases ended

/-- A continuation may use what the first run is known to return. -/
theorem Run.Plain.bind_returns {x : Run α} {f : α → Run β} {V : α → Prop} (returns : x.Returns V)
    (first : x.Plain) (rest : ∀ a, V a → (f a).Plain) : (x >>= f).Plain where
  keeps {m b m'} ended := by
    obtain ⟨a, m₁, started, ended⟩ := EStateM.bind_ok ended
    have valid : V a := returns m a m₁ started
    exact ((rest a valid).keeps ended).trans (first.keeps started)
  quiet stopped := by
    rcases EStateM.bind_error stopped with started | ⟨a, m₁, started, stopped⟩
    · exact first.quiet started
    · exact (rest a (returns _ a m₁ started)).quiet stopped

/-- `catching` turns the control transfers of a body that keeps the frames into values. -/
theorem Run.Plain.catching' {body : Run Unit} (inner : body.Keeps) : (Run.catching body).Plain where
  keeps {m caught m'} ended := by
    cases started : body.run m with
    | ok _ m₁ =>
      simp only [Run.catching_run, started] at ended
      cases ended
      exact inner.ended started
    | error e m₁ =>
      cases e with
      | escaped sig =>
        simp only [Run.catching_run, started] at ended
        cases ended
        exact inner.escaped started
      | raised _ | exhausted => simp only [Run.catching_run, started] at ended; cases ended
  quiet ended := by
    have never : (Run.catching body).Within fun _ => False := .catching'
    exact never _ _ _ ended

theorem Run.Plain.andFinally' {body : Run α} {final : Run Unit} (first : body.Plain)
    (last : final.Plain) : (Run.andFinally body final).Plain where
  keeps {m a m'} ended := by
    cases started : body.run m with
    | ok b m₁ =>
      cases finished : final.run m₁ with
      | ok _ m₂ =>
        simp only [Run.andFinally_run, started, finished] at ended
        cases ended
        exact (last.keeps finished).trans (first.keeps started)
      | error e m₂ => simp only [Run.andFinally_run, started, finished] at ended; cases ended
    | error e m₁ =>
      cases finished : final.run m₁ <;>
        simp only [Run.andFinally_run, started, finished] at ended <;> cases ended
  quiet {m sig m'} ended := by
    cases started : body.run m with
    | ok b m₁ =>
      cases finished : final.run m₁ with
      | ok _ m₂ => simp only [Run.andFinally_run, started, finished] at ended; cases ended
      | error e m₂ =>
        simp only [Run.andFinally_run, started, finished] at ended
        cases ended
        exact last.quiet finished
    | error e m₁ =>
      -- the body's fault stands unless the final part raises its own
      cases finished : final.run m₁ with
      | ok _ m₂ =>
        simp only [Run.andFinally_run, started, finished] at ended
        cases ended
        exact first.quiet started
      | error e' m₂ =>
        simp only [Run.andFinally_run, started, finished] at ended
        cases ended
        exact last.quiet finished

theorem Run.Keeps.of_plain {x : Run α} (plain : x.Plain) : x.Keeps where
  ended := plain.keeps
  escaped stopped := absurd stopped plain.quiet

theorem Run.Keeps.throw' (f : Fault) : (throw f : Run α).Keeps where
  ended stopped := by cases stopped
  escaped stopped := by cases stopped; rfl

theorem Run.Keeps.bind' {x : Run α} {f : α → Run β} (first : x.Keeps) (rest : ∀ a, (f a).Keeps) :
    (x >>= f).Keeps where
  ended ended := by
    obtain ⟨a, m₁, started, ended⟩ := EStateM.bind_ok ended
    exact ((rest a).ended ended).trans (first.ended started)
  escaped stopped := by
    rcases EStateM.bind_error stopped with started | ⟨a, m₁, started, stopped⟩
    · exact first.escaped started
    · exact ((rest a).escaped stopped).trans (first.ended started)

theorem Run.Keeps.ite' {c : Prop} [Decidable c] {x y : Run α} (yes : x.Keeps) (no : y.Keeps) :
    (if c then x else y).Keeps := by
  split
  · exact yes
  · exact no

theorem Run.framed_run (name : String) (body : Run Unit) (m : Machine) :
    (Run.framed name body).run m = match body.run (m.push name) with
      | .ok a s => .ok a s.pop
      | .error e s => .error e s.pop := by
  simp only [Run.framed, Run.andFinally_run, Run.push, Run.pop, EStateM.run_bind,
    EStateM.run_modify]
  cases body.run (m.push name) <;> rfl

/-- A block or a branch closes its frame whatever way its body ends. -/
theorem Run.Keeps.framed' {name : String} {body : Run Unit} (inner : body.Keeps) :
    (Run.framed name body).Keeps where
  ended {m a m'} stopped := by
    rw [Run.framed_run] at stopped
    cases ran : body.run (m.push name) with
    | ok b m₁ =>
      rw [ran] at stopped
      cases stopped
      simp [inner.ended ran]
    | error e m₁ => rw [ran] at stopped; cases stopped
  escaped {m sig m'} stopped := by
    rw [Run.framed_run] at stopped
    cases ran : body.run (m.push name) with
    | ok b m₁ => rw [ran] at stopped; cases stopped
    | error e m₁ =>
      rw [ran] at stopped
      cases stopped
      simp [inner.escaped ran]

theorem Run.Closes.pop' : Run.pop.Closes where
  ended stopped := by cases stopped; exact Machine.layout_pop _
  quiet stopped := by cases stopped

theorem Run.Closes.after' {x : Run α} {f : α → Run β} (first : x.Plain) (rest : ∀ a, (f a).Closes) :
    (x >>= f).Closes where
  ended ended := by
    obtain ⟨a, m₁, started, ended⟩ := EStateM.bind_ok ended
    rw [(rest a).ended ended, first.keeps started]
  quiet stopped := by
    rcases EStateM.bind_error stopped with started | ⟨a, m₁, -, stopped⟩
    · exact first.quiet started
    · exact (rest a).quiet stopped

/-- A loop opens its frame and closes it again only when it ends. -/
theorem Run.Keeps.pushed' {name : String} {x : Run α} (rest : x.Closes) :
    (Run.push name >>= fun _ => x).Keeps where
  ended {m a m'} stopped := by
    simp only [Run.push, EStateM.run_bind, EStateM.run_modify] at stopped
    simp [rest.ended stopped]
  escaped {m sig m'} stopped := by
    simp only [Run.push, EStateM.run_bind, EStateM.run_modify] at stopped
    exact absurd stopped rest.quiet

end Frames

/-! ### Statements -/

mutual
/-- A statement with no `return` leaving a loop keeps the frames on every end and on every
control transfer. -/
theorem Stmt.exec_keeps : (fuel : Nat) → (s : Stmt) → s.returnLeavesLoop = false →
    (Stmt.exec fuel s).Keeps
  | 0, _, _ => .throw' _
  | _ + 1, .control _ _, _ => .ite' (.throw' _) (.ite' (.throw' _) (.of_plain (.pure' ())))
  | fuel + 1, .block body _, inside => by
    refine .framed' (.bind' (.of_plain (.catching' (Stmt.execAll_keeps fuel body inside)))
      fun caught => ?_)
    -- a `return` ends the block; a `break` or `continue` goes on out of it
    split
    · exact .of_plain (.pure' ())
    · exact .of_plain (.pure' ())
    · exact .throw' _
  | fuel + 1, .ifElse c y n _, inside => by
    simp only [Stmt.returnLeavesLoop, Bool.or_eq_false_iff] at inside
    exact .bind' (.of_plain c.eval_plain) fun _ =>
      .ite' (.framed' (Stmt.execOpt_keeps fuel y inside.1))
        (.framed' (Stmt.execOpt_keeps fuel n inside.2))
  | fuel + 1, .ifThen c y _, inside =>
    .bind' (.of_plain c.eval_plain) fun _ =>
      .ite' (.framed' (Stmt.execOpt_keeps fuel y inside)) (.of_plain (.pure' ()))
  | fuel + 1, .whileLoop c b _, inside => by
    simp only [Stmt.returnLeavesLoop, Bool.or_eq_false_iff] at inside
    exact .pushed' (.after' (Stmt.loopWhile_plain fuel c b inside.1 inside.2) fun _ => .pop')
  | fuel + 1, .forLoop v a b body _, inside => by
    simp only [Stmt.returnLeavesLoop, Bool.or_eq_false_iff] at inside
    exact .bind' (.of_plain a.eval_plain) fun start => .bind' (.of_plain b.eval_plain) fun stop =>
      .pushed' (.after' (.modify' fun m => m.layout_insert v start) fun _ =>
        .after' (Stmt.loopFor_plain fuel v stop body start inside.1 inside.2) fun _ => .pop')
  | _ + 1, .assign a, _ => .of_plain a.exec_plain
  | _ + 1, .print items _, _ =>
    .of_plain (.bind' items.text_plain fun _ => .modify' fun _ => rfl)
  | _ + 1, .ret e _, _ => .bind' (.of_plain e.eval_plain) fun _ => .throw' _

theorem Stmt.execOpt_keeps : (fuel : Nat) → (s : Option Stmt) →
    Stmt.returnLeavesLoopOpt s = false → (Stmt.execOpt fuel s).Keeps
  | 0, _, _ => .throw' _
  | _ + 1, none, _ => .of_plain (.pure' ())
  | fuel + 1, some s, inside => Stmt.exec_keeps fuel s inside

theorem Stmt.execAll_keeps : (fuel : Nat) → (ss : List (Option Stmt)) →
    Stmt.returnLeavesLoopAll ss = false → (Stmt.execAll fuel ss).Keeps
  | 0, _, _ => .throw' _
  | _ + 1, [], _ => .of_plain (.pure' ())
  | fuel + 1, s :: ss, inside => by
    simp only [Stmt.returnLeavesLoopAll, Bool.or_eq_false_iff] at inside
    exact .bind' (Stmt.execOpt_keeps fuel s inside.1) fun _ => Stmt.execAll_keeps fuel ss inside.2

/-- A `while` loop whose body lets no `return` out never stops on a control transfer. -/
theorem Stmt.loopWhile_plain : (fuel : Nat) → (c : Compare) → (b : Option Stmt) →
    Stmt.escapesOpt .ret b = false → Stmt.returnLeavesLoopOpt b = false →
    (Stmt.loopWhile fuel c b).Plain
  | 0, _, _, _, _ => .exhausted
  | fuel + 1, c, b, noReturn, inside => by
    refine .bind' c.eval_plain fun _ => .ite' ?_ (.pure' ())
    refine .bind_returns (.catching' (Stmt.execOpt_within fuel b))
      (.catching' (Stmt.execOpt_keeps fuel b inside)) fun caught inner => ?_
    -- the body cannot stop on a `return`, so the pass never hands one on
    split
    · exact .pure' ()
    · exact absurd (inner .ret rfl) (by simp [noReturn])
    · exact Stmt.loopWhile_plain fuel c b noReturn inside

/-- A `for` loop whose body lets no `return` out never stops on a control transfer. -/
theorem Stmt.loopFor_plain : (fuel : Nat) → (name : String) → (stop : Value) →
    (body : Option Stmt) → (value : Value) → Stmt.escapesOpt .ret body = false →
    Stmt.returnLeavesLoopOpt body = false → (Stmt.loopFor fuel name stop body value).Plain
  | 0, _, _, _, _, _, _ => .exhausted
  | fuel + 1, name, stop, body, value, noReturn, inside => by
    refine .bind' .get' fun _ => .bind' (.lift' _) fun _ => .ite' ?_ (.pure' ())
    refine .bind' (Run.lookup_plain name) fun current => ?_
    have step : Run.Plain (do
        let next ← Run.onHeap (·.add current (.int 1))
        modify fun m => m.assign name next) :=
      .bind' (.onHeap' _) fun next => .modify' fun m => m.layout_assign name next
    refine .bind_returns (.andFinally' (.catching' (Stmt.execOpt_within fuel body)))
      (.andFinally' (.catching' (Stmt.execOpt_keeps fuel body inside)) step) fun caught inner => ?_
    split
    · exact .pure' ()
    · exact absurd (inner .ret rfl) (by simp [noReturn])
    · exact Stmt.loopFor_plain fuel name stop body current noReturn inside
end

/-- A statement in which no `return` leaves a `while` or `for` body ends, or stops on a
`break`, `continue` or `return`, with the frames it started with. -/
theorem Stmt.exec_keeps_frames (fuel : Nat) (s : Stmt) (inside : s.returnLeavesLoop = false)
    (m m' : Machine)
    (settled : (Stmt.exec fuel s).run m = .ok () m' ∨
      ∃ sig, (Stmt.exec fuel s).run m = .error (.escaped sig) m') :
    m'.layout = m.layout := by
  have keeps := Stmt.exec_keeps fuel s inside
  rcases settled with ended | ⟨sig, escaped⟩
  · exact keeps.ended ended
  · exact keeps.escaped escaped

/-- In `{ while (1 < 2) break; return 1; }` the loop's `break` and the block's `return` are
caught where they belong, and the block gives back the frames it found. -/
theorem Stmt.break_then_return_keeps_frames :
    (Stmt.block [some (.whileLoop (.mk "<" (.atom (.int 1 1)) (.atom (.int 2 1)) 1)
      (some (.control "break" 1)) 1), some (.ret (.atom (.int 1 1)) 1)] 1).returnLeavesLoop =
      false ∧
    ∃ m', (Stmt.exec 10 (.block [some (.whileLoop (.mk "<" (.atom (.int 1 1))
      (.atom (.int 2 1)) 1) (some (.control "break" 1)) 1), some (.ret (.atom (.int 1 1)) 1)] 1)).run
      {} = .ok () m' ∧ m'.layout = ({} : Machine).layout := by
  have inside : (Stmt.block [some (.whileLoop (.mk "<" (.atom (.int 1 1)) (.atom (.int 2 1)) 1)
      (some (.control "break" 1)) 1), some (.ret (.atom (.int 1 1)) 1)] 1).returnLeavesLoop =
      false := by decide
  refine ⟨inside, _, rfl, ?_⟩
  exact Stmt.exec_keeps_frames 10 _ inside {} _ (.inl rfl)

/-- In `{ while (1 < 2) return 1; }` the `return` leaves the loop without closing its frame,
and the block, closing one frame, leaves its own open: the block ends with one frame more than
it started with. -/
theorem Stmt.return_from_loop_leaves_frame :
    ∃ m', (Stmt.exec 10 (.block [some (.whileLoop (.mk "<" (.atom (.int 1 1))
      (.atom (.int 2 1)) 1) (some (.ret (.atom (.int 1 1)) 1)) 1)] 1)).run {} = .ok () m' ∧
      m'.layout ≠ ({} : Machine).layout := by
  refine ⟨_, rfl, ?_⟩
  decide

end MatrixLang.Script
