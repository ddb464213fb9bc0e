import MatrixLang.Proofs.Effects

/-!
# Which control transfers a statement can let out

A `break` or `continue` travels up to the nearest loop around it and a `return` up to the
nearest block; a branch passes all three on, a block passes on `break` and `continue`, and a
loop passes on `return`. `Stmt.escapes sig s` reads this off the syntax: whether `s` has a
statement `sig` that no construct of `s` itself catches.

The main statement, `Stmt.exec_within`, says the interpreter agrees: whatever the step budget
and the machine, a run of `s` that stops on the control transfer `sig` has `s.escapes sig`.
The proof follows the recursion of the interpreter, one case per construct. It rests on two
small properties of runs, stated without the machine: `Run.Within allowed x`, every control
transfer `x` stops on is `allowed`, and `Run.Returns V x`, every value `x` ends with satisfies
`V`; the second carries what `catching` caught to the code that looks at it.
-/
namespace MatrixLang.Script

/-! ### Control transfers in the syntax -/

mutual
/-- Whether a statement has a `sig` that none of its own constructs catches: a `break` or
`continue` outside its loops, a `return` outside its blocks. -/
def Stmt.escapes (sig : Signal) : Stmt → Bool
  | .control w _ => (w == "continue" && sig == .cont) || (w == "break" && sig == .brk)
  | .block body _ => sig != .ret && Stmt.escapesAll sig body
  | .ifElse _ y n _ => Stmt.escapesOpt sig y || Stmt.escapesOpt sig n
  | .ifThen _ y _ => Stmt.escapesOpt sig y
  | .whileLoop _ b _ => sig == .ret && Stmt.escapesOpt sig b
  | .forLoop _ _ _ b _ => sig == .ret && Stmt.escapesOpt sig b
  | .assign _ => false
  | .print .. => false
  | .ret .. => sig == .ret

/-- Whether a possibly empty statement has a `sig` it does not catch. -/
def Stmt.escapesOpt (sig : Signal) : Option Stmt → Bool
  | some s => s.escapes sig
  | none => false

/-- Whether one of some statements has a `sig` it does not catch. -/
def Stmt.escapesAll (sig : Signal) : List (Option Stmt) → Bool
  | [] => false
  | s :: ss => Stmt.escapesOpt sig s || Stmt.escapesAll sig ss
end

/-! ### Control transfers of runs -/

/-- Every control transfer the run stops on is `allowed`. -/
def Run.Within {α : Type} (allowed : Signal → Prop) (x : Run α) : Prop :=
  ∀ m sig m', x.run m = .error (.escaped sig) m' → allowed sig

/-- Every value the run ends with satisfies `V`. -/
def Run.Returns {α : Type} (V : α → Prop) (x : Run α) : Prop :=
  ∀ m a m', x.run m = .ok a m' → V a

section Within

variable {α β : Type} {allowed : Signal → Prop}

theorem Run.Plain.within {x : Run α} (plain : x.Plain) : x.Within allowed :=
  fun _ _ _ stopped => absurd stopped plain.quiet

theorem Run.Within.mono {x : Run α} {wider : Signal → Prop} (within : x.Within allowed)
    (widen : ∀ sig, allowed sig → wider sig) : x.Within wider :=
  fun m sig m' stopped => widen sig (within m sig m' stopped)

theorem Run.Within.exhausted : (throw .exhausted : Run α).Within allowed := by
  intro m sig m' stopped
  cases stopped

theorem Run.Within.escape {sig : Signal} (yes : allowed sig) :
    (throw (.escaped sig) : Run α).Within allowed := by
  intro m sig' m' stopped
  cases stopped
  exact yes

theorem Run.Within.modify' (g : Machine → Machine) : (modify g : Run Unit).Within allowed := by
  intro m sig m' stopped
  cases stopped

theorem Run.Within.bind' {x : Run α} {f : α → Run β} (first : x.Within allowed)
    (rest : ∀ a, (f a).Within allowed) : (x >>= f).Within allowed := by
  intro m sig m' stopped
  rcases EStateM.bind_error stopped with started | ⟨a, m₁, -, stopped⟩
  · exact first m sig m' started
  · exact rest a m₁ sig m' stopped

/-- A continuation may use what the first run is known to return. -/
theorem Run.Within.bind_returns {x : Run α} {f : α → Run β} {V : α → Prop}
    (returns : x.Returns V) (first : x.Within allowed) (rest : ∀ a, V a → (f a).Within allowed) :
    (x >>= f).Within allowed := by
  intro m sig m' stopped
  rcases EStateM.bind_error stopped with started | ⟨a, m₁, started, stopped⟩
  · exact first m sig m' started
  · exact rest a (returns m a m₁ started) m₁ sig m' stopped

theorem Run.Within.ite' {c : Prop} [Decidable c] {x y : Run α} (yes : c → x.Within allowed)
    (no : ¬c → y.Within allowed) : (if c then x else y).Within allowed := by
  split
  next holds => exact yes holds
  next fails => exact no fails

theorem Run.andFinally_run (body : Run α) (final : Run Unit) (m : Machine) :
    (Run.andFinally body final).run m = match body.run m with
      | .ok a s => match final.run s with
        | .ok _ s => .ok a s
        | .error e s => .error e s
      | .error e s => match final.run s with
        | .ok _ s => .error e s
        | .error e' s => .error e' s := rfl

theorem Run.catching_run (body : Run Unit) (m : Machine) :
    (Run.catching body).run m = match body.run m with
      | .ok _ s => .ok none s
      | .error (.escaped sig) s => .ok (some sig) s
      | .error e s => .error e s := rfl

theorem Run.Within.andFinally' {body : Run α} {final : Run Unit} (first : body.Within allowed)
    (last : final.Within allowed) : (Run.andFinally body final).Within allowed := by
  intro m sig m' stopped
  cases started : body.run m with
  | ok a m₁ =>
    cases finished : final.run m₁ with
    | ok _ m₂ => simp only [Run.andFinally_run, started, finished] at stopped; cases stopped
    | error e m₂ =>
      simp only [Run.andFinally_run, started, finished] at stopped
      cases stopped
      exact last _ _ _ finished
  | error e m₁ =>
    -- the body's fault stands unless the final part raises its own
    cases finished : final.run m₁ with
    | ok _ m₂ =>
      simp only [Run.andFinally_run, started, finished] at stopped
      cases stopped
      exact first _ _ _ started
    | error e' m₂ =>
      simp only [Run.andFinally_run, started, finished] at stopped
      cases stopped
      exact last _ _ _ finished

theorem Run.Within.framed' {name : String} {body : Run Unit} (inner : body.Within allowed) :
    (Run.framed name body).Within allowed :=
  .andFinally' (.bind' (.modify' _) fun _ => inner) (.modify' _)

/-- `catching` lets no control transfer out. -/
theorem Run.Within.catching' {body : Run Unit} : (Run.catching body).Within allowed := by
  intro m sig m' stopped
  cases started : body.run m with
  | ok _ m₁ => simp only [Run.catching_run, started] at stopped; cases stopped
  | error e m₁ =>
    cases e <;> simp only [Run.catching_run, started] at stopped <;> cases stopped

/-- What `catching` returns is a control transfer the body stopped on. -/
theorem Run.Returns.catching' {body : Run Unit} (inner : body.Within allowed) :
    (Run.catching body).Returns fun caught => ∀ sig, caught = some sig → allowed sig := by
  intro m caught m' ended sig equal
  subst equal
  cases started : body.run m with
  | ok _ m₁ => simp only [Run.catching_run, started] at ended; cases ended
  | error e m₁ =>
    cases e with
    | escaped caught =>
      simp only [Run.catching_run, started] at ended
      cases ended
      exact inner _ _ _ started
    | raised _ | exhausted => simp only [Run.catching_run, started] at ended; cases ended

theorem Run.Returns.andFinally' {body : Run α} {final : Run Unit} {V : α → Prop}
    (first : body.Returns V) : (Run.andFinally body final).Returns V := by
  intro m a m' ended
  cases started : body.run m with
  | ok b m₁ =>
    cases finished : final.run m₁ with
    | ok _ m₂ =>
      simp only [Run.andFinally_run, started, finished] at ended
      cases ended
      exact first _ _ _ started
    | error e m₂ => simp only [Run.andFinally_run, started, finished] at ended; cases ended
  | error e m₁ =>
    cases finished : final.run m₁ <;>
      simp only [Run.andFinally_run, started, finished] at ended <;> cases ended

end Within

/-! ### Statements -/

mutual
/-- A statement stops only on the control transfers it does not catch itself. -/
theorem Stmt.exec_within : (fuel : Nat) → (s : Stmt) →
    (Stmt.exec fuel s).Within fun sig => s.escapes sig = true
  | 0, _ => .exhausted
  | _ + 1, .control w _ =>
    .ite' (fun named => .escape (by simp [Stmt.escapes, named]))
      fun _ => .ite' (fun named => .escape (by simp [Stmt.escapes, named]))
        fun _ => (Run.Plain.pure' ()).within
  | fuel + 1, .block body _ => by
    refine .andFinally' (.bind' (.modify' _) fun _ => ?_) (.modify' _)
    refine .bind_returns (.catching' (Stmt.execAll_within fuel body)) .catching' fun caught inner => ?_
    -- a `return` ends the block; a `break` or `continue` goes on out of it
    split
    · exact (Run.Plain.pure' ()).within
    · exact (Run.Plain.pure' ()).within
    next other notReturn =>
      refine .escape ?_
      have passed := inner other rfl
      cases other <;> simp_all [Stmt.escapes]
  | fuel + 1, .ifElse c y n _ =>
    .bind' c.eval_plain.within fun _ =>
      .ite' (fun _ => .framed' ((Stmt.execOpt_within fuel y).mono fun _ h => by simp [Stmt.escapes, h]))
        fun _ => .framed' ((Stmt.execOpt_within fuel n).mono fun _ h => by simp [Stmt.escapes, h])
  | fuel + 1, .ifThen c y _ =>
    .bind' c.eval_plain.within fun _ =>
      .ite' (fun _ => .framed' ((Stmt.execOpt_within fuel y).mono fun _ h => by simp [Stmt.escapes, h]))
        fun _ => (Run.Plain.pure' ()).within
  | fuel + 1, .whileLoop c b _ =>
    .bind' (.modify' _) fun _ =>
      .bind' ((Stmt.loopWhile_within fuel c b).mono fun _ h => by simp [Stmt.escapes, h])
        fun _ => .modify' _
  | fuel + 1, .forLoop v a b body _ =>
    .bind' a.eval_plain.within fun _ => .bind' b.eval_plain.within fun _ =>
      .bind' (.modify' _) fun _ => .bind' (.modify' _) fun _ =>
        .bind' ((Stmt.loopFor_within fuel v _ body _).mono fun _ h => by simp [Stmt.escapes, h])
          fun _ => .modify' _
  | _ + 1, .assign a => a.exec_plain.within
  | _ + 1, .print items _ => .bind' items.text_plain.within fun _ => .modify' _
  | _ + 1, .ret e _ => .bind' e.eval_plain.within fun _ => .escape (by simp [Stmt.escapes])

theorem Stmt.execOpt_within : (fuel : Nat) → (s : Option Stmt) →
    (Stmt.execOpt fuel s).Within fun sig => Stmt.escapesOpt sig s = true
  | 0, _ => .exhausted
  | _ + 1, none => (Run.Plain.pure' ()).within
  | fuel + 1, some s => Stmt.exec_within fuel s

theorem Stmt.execAll_within : (fuel : Nat) → (ss : List (Option Stmt)) →
    (Stmt.execAll fuel ss).Within fun sig => Stmt.escapesAll sig ss = true
  | 0, _ => .exhausted
  | _ + 1, [] => (Run.Plain.pure' ()).within
  | fuel + 1, s :: ss =>
    .bind' ((Stmt.execOpt_within fuel s).mono fun _ h => by simp [Stmt.escapesAll, h])
      fun _ => (Stmt.execAll_within fuel ss).mono fun _ h => by simp [Stmt.escapesAll, h]

/-- A `while` loop catches `break` and `continue`; only a `return` of its body gets out. -/
theorem Stmt.loopWhile_within : (fuel : Nat) → (c : Compare) → (b : Option Stmt) →
    (Stmt.loopWhile fuel c b).Within fun sig => sig = .ret ∧ Stmt.escapesOpt .ret b = true
  | 0, _, _ => .exhausted
  | fuel + 1, c, b => by
    refine .bind' c.eval_plain.within fun _ => .ite' (fun _ => ?_) fun _ => (Run.Plain.pure' ()).within
    refine .bind_returns (.catching' (Stmt.execOpt_within fuel b)) .catching' fun caught inner => ?_
    split
    · exact (Run.Plain.pure' ()).within
    · exact .escape ⟨rfl, inner .ret rfl⟩
    · exact Stmt.loopWhile_within fuel c b

/-- A `for` loop catches `break` and `continue`; only a `return` of its body gets out. -/
theorem Stmt.loopFor_within : (fuel : Nat) → (name : String) → (stop : Value) →
    (body : Option Stmt) → (value : Value) →
    (Stmt.loopFor fuel name stop body value).Within
      fun sig => sig = .ret ∧ Stmt.escapesOpt .ret body = true
  | 0, _, _, _, _ => .exhausted
  | fuel + 1, name, stop, body, value => by
    refine .bind' Run.Plain.get'.within fun _ => .bind' (Run.Plain.lift' _).within fun _ => ?_
    refine .ite' (fun _ => ?_) fun _ => (Run.Plain.pure' ()).within
    refine .bind' (Run.lookup_plain name).within fun current => ?_
    have pass := Stmt.execOpt_within fuel body
    have step : Run.Plain (do
        let next ← Run.onHeap (·.add current (.int 1))
        modify fun m => m.assign name next) :=
      .bind' (.onHeap' _) fun next => .modify' fun m => m.layout_assign name next
    refine .bind_returns (.andFinally' (.catching' pass)) (.andFinally' .catching' step.within)
      fun caught inner => ?_
    split
    · exact (Run.Plain.pure' ()).within
    · exact .escape ⟨rfl, inner .ret rfl⟩
    · exact Stmt.loopFor_within fuel name stop body current
end

end MatrixLang.Script
