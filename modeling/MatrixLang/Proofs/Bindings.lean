import MatrixLang.Proofs.Counters

/-!
# An assignment writes every binding of its name

A lookup reads a name in the innermost frame that has it, but assigning a name that is bound
writes the value into every frame that has it, the outer ones included. The two agree while each
name is bound in one frame only. A `for` loop binds its counter in a frame of its own, and the
step that ends each pass is such an assignment: it writes through to every binding of the same
name in the frames around the loop, so a loop that takes a pass leaves those bindings holding its
last counter plus one, not the values they had.

## Main results

* `Machine.assign_written`: frame by frame, assigning `n` sets `n` in each frame that has it and
  changes nothing else.
* `Stmt.forPasses_everywhere`: passes that end leave every binding of the counter, in every
  frame, holding the step of one of the counters passed.
* `assignment_writes_through_frames`: both, for a whole `for` statement: when its bounds are
  whole numbers `b < e` and it ends, it holds the frames it started on, and every frame that has
  its counter holds `k + 1` there for one counter `b ≤ k ≤ e`.

## Proof strategy

The frame law is one lemma per frame (`Frame.written`) mapped over the frames. For the loop,
`Stmt.forLoop_passes` gives its passes over the counters; the last pass taken ends on an
assignment of the counter (`Stmt.forPass_everywhere`), and closing the loop's frame only drops a
frame. An induction on the step budget, following `Stmt.forPasses`, finds the last pass.
-/
namespace MatrixLang.Script

open Run

/-! ### One frame -/

@[simp] theorem Frame.name_put (f : Frame) (n : String) (v : Value) : (f.put n v).name = f.name := by
  unfold Frame.put
  split <;> rfl

/-- Setting a name that a frame has keeps the names the frame has. -/
theorem Frame.has_put_of_has {f : Frame} {n : String} (present : f.has n = true) (v : Value)
    (y : String) : (f.put n v).has y = f.has y := by
  simp only [Frame.has] at present
  simp [Frame.put, Frame.has, present, List.any_map, Function.comp_def, apply_ite Prod.fst]

/-- `f'` is the frame `f` after an assignment of `v` to `n`: the same frame with the same names
and values, but that `n` reads `v` if `f` has it. -/
structure Frame.Written (n : String) (v : Value) (f f' : Frame) : Prop where
  name : f'.name = f.name
  has : ∀ y, f'.has y = f.has y
  lookup : ∀ y, f'.vars.lookup y = if f.has n ∧ y = n then some v else f.vars.lookup y

/-- What an assignment does to one frame. -/
theorem Frame.written (f : Frame) (n : String) (v : Value) :
    Frame.Written n v f (if f.has n then f.put n v else f) := by
  by_cases present : f.has n
  · refine ⟨by simp [present], fun y => by simp [present, f.has_put_of_has present], fun y => ?_⟩
    by_cases same : y = n
    · subst same
      simp [present, Frame.lookup_put_self]
    · simp [present, same, Frame.lookup_put_of_ne f same]
  · exact ⟨by simp [present], fun y => by simp [present], fun y => by simp [present]⟩

/-! ### The frames of a machine -/

/-- Assigning `n` writes `n` in every frame that has it, the outer ones included, and changes
nothing else: no frame is added or removed, and no frame gains or loses a name. -/
theorem Machine.assign_written (m : Machine) (n : String) (v : Value) :
    List.Forall₂ (Frame.Written n v) m.frames (m.assign n v).frames :=
  List.forall₂_map_right_iff.2 (List.forall₂_same.2 fun f _ => f.written n v)

/-- Every frame that has `n` holds `v` there. -/
def Machine.Everywhere (n : String) (v : Value) (m : Machine) : Prop :=
  ∀ f ∈ m.frames, f.has n = true → f.vars.lookup n = some v

theorem Machine.everywhere_assign (m : Machine) (n : String) (v : Value) :
    (m.assign n v).Everywhere n v := by
  intro f' member has
  obtain ⟨f, -, rfl⟩ := List.mem_map.1 member
  have written := f.written n v
  have present : f.has n = true := (written.has n).symm.trans has
  rw [written.lookup n]
  simp [present]

theorem Machine.Everywhere.pop {m : Machine} {n : String} {v : Value} (all : m.Everywhere n v) :
    m.pop.Everywhere n v :=
  fun f member => all f (List.mem_of_mem_drop member)

/-- Where every binding of a bound name holds one value, a lookup reads it. -/
theorem Machine.Everywhere.lookup {m : Machine} {n : String} {v : Value} (all : m.Everywhere n v)
    (binds : m.frames.any (·.has n) = true) : m.lookup n = v := by
  obtain ⟨f, found⟩ : ∃ f, m.frames.find? (·.has n) = some f :=
    Option.isSome_iff_exists.1 (List.find?_isSome.2 (List.any_eq_true.1 binds))
  have present : f.has n = true := by simpa using List.find?_some found
  simp [Machine.lookup, found, all f (List.mem_of_find?_eq_some found) present]

/-! ### Passes of a loop -/

theorem mem_countUp {i e k : Int} : k ∈ countUp i e ↔ i ≤ k ∧ k ≤ e := by
  simp only [countUp, List.mem_map, List.mem_range]
  constructor
  · rintro ⟨a, below, rfl⟩
    omega
  · rintro ⟨low, high⟩
    exact ⟨(k - i).toNat, by omega, by omega⟩

/-- A pass that ends leaves every binding of the counter holding its step, whatever the body did:
the step is an assignment, made after the body however it ended. -/
theorem Stmt.forPass_everywhere {fuel : Nat} {name : String} {body : Option Stmt} {i : Int}
    {m m' : Machine} {sig : Option Signal} (ran : (Stmt.forPass fuel name body i).run m = .ok sig m') :
    m'.Everywhere name (.int (i + 1)) := by
  rw [Stmt.forPass, Run.andFinally_run] at ran
  cases caught : (catching (Stmt.execOpt fuel body)).run m with
  | error f m₁ =>
    rw [caught] at ran
    cases ran
  | ok a m₁ =>
    rw [caught] at ran
    cases ran
    exact m₁.everywhere_assign name _

/-- After a pass, the loop either stops where the pass left it or goes on with the rest. -/
theorem Stmt.nextPass_ok {rest : Run Unit} {m m' : Machine} :
    {sig : Option Signal} → (Stmt.nextPass rest sig).run m = .ok () m' →
      m' = m ∨ rest.run m = .ok () m'
  | some .brk, ran => by
    cases ran
    exact .inl rfl
  | some .ret, ran => by cases ran
  | some .cont, ran => .inr ran
  | none, ran => .inr ran

/-- Passes over counters that end leave every binding of the counter holding the step of one of
them, the counter of the last pass taken. -/
theorem Stmt.forPasses_everywhere {name : String} {body : Option Stmt} :
    (fuel : Nat) → (counters : List Int) → counters ≠ [] → {m m' : Machine} →
      (Stmt.forPasses name body fuel counters).run m = .ok () m' →
      ∃ k ∈ counters, m'.Everywhere name (.int (k + 1))
  | 0, _, _, _, _, ran => by cases ran
  | _ + 1, [], nonempty, _, _, _ => absurd rfl nonempty
  | fuel + 1, i :: rest, _, m, m', ran => by
    obtain ⟨sig, m₁, passed, next⟩ := EStateM.bind_ok ran
    have last := Stmt.forPass_everywhere passed
    rcases Stmt.nextPass_ok next with rfl | more
    · exact ⟨i, List.mem_cons_self, last⟩
    · -- the loop went on: the last pass is among the rest, if the rest has one
      cases rest with
      | nil =>
        cases fuel with
        | zero => cases more
        | succ fuel =>
          cases more
          exact ⟨i, List.mem_cons_self, last⟩
      | cons j rest =>
        obtain ⟨k, member, all⟩ := Stmt.forPasses_everywhere fuel (j :: rest) (by simp) more
        exact ⟨k, List.mem_cons_of_mem i member, all⟩

/-- A `for` statement over the whole numbers `b < e` that ends leaves every binding of its counter,
in every frame left, holding `k + 1` for a counter `b ≤ k ≤ e` of a pass it took. -/
theorem Stmt.forLoop_everywhere (fuel : Nat) (v : String) (a : Index) (bound : Bound)
    (body : Option Stmt) (l : Nat) {m m₁ m₂ m' : Machine} {b e : Int}
    (begins : a.eval.run m = .ok (.int b) m₁) (ends : bound.eval.run m₁ = .ok (.int e) m₂)
    (passes : b < e) (ran : (Stmt.exec fuel (.forLoop v a bound body l)).run m = .ok () m') :
    ∃ k, b ≤ k ∧ k ≤ e ∧ m'.Everywhere v (.int (k + 1)) := by
  cases fuel with
  | zero => cases ran
  | succ fuel =>
    rw [(Stmt.forLoop_passes fuel v a bound body l begins ends).1] at ran
    obtain ⟨_, m₃, -, ran⟩ := EStateM.bind_ok ran
    obtain ⟨_, m₄, -, ran⟩ := EStateM.bind_ok ran
    obtain ⟨_, m₅, passed, closed⟩ := EStateM.bind_ok ran
    have counted : forCounters b e ≠ [] := by
      rw [forCounters, if_pos passes, countUp_of_le (Int.le_of_lt passes)]
      exact List.cons_ne_nil _ _
    obtain ⟨k, member, all⟩ := Stmt.forPasses_everywhere fuel _ counted passed
    rw [forCounters, if_pos passes, mem_countUp] at member
    cases closed
    exact ⟨k, member.1, member.2, all.pop⟩

/-! ### Main result -/

/-- On every machine, an assignment to a bound name `n` writes every frame that has it, not only
the innermost one, and a lookup then reads the value. So a `for` statement with counter `n` over
whole numbers `b < e` that ends writes through to every binding of `n`: it holds the frames it
started on, each frame left that has `n` holds `k + 1` there, for the counter `b ≤ k ≤ e` of its
last pass, and where `n` was bound before the loop, a lookup of it now reads `k + 1`. -/
theorem assignment_writes_through_frames (m : Machine) (n : String) (w : Value) :
    List.Forall₂ (Frame.Written n w) m.frames (m.assign n w).frames ∧
    (m.frames.any (·.has n) = true → (m.assign n w).lookup n = w) ∧
    ∀ (fuel : Nat) (a : Index) (bound : Bound) (body : Option Stmt) (l : Nat)
      (m₁ m₂ m' : Machine) (b e : Int),
      a.eval.run m = .ok (.int b) m₁ → bound.eval.run m₁ = .ok (.int e) m₂ → b < e →
      (Stmt.exec fuel (.forLoop n a bound body l)).run m = .ok () m' →
      Frames.Held m.frames m'.frames ∧ ∃ k, b ≤ k ∧ k ≤ e ∧ m'.Everywhere n (.int (k + 1)) ∧
        (m.frames.any (·.has n) = true → m'.lookup n = .int (k + 1)) := by
  refine ⟨m.assign_written n w, fun binds => Machine.lookup_assign_of_binds binds w,
    fun fuel a bound body l _ _ m' _ _ begins ends passes ran => ?_⟩
  have held : Frames.Held m.frames m'.frames := (Stmt.exec_holds fuel _).ended ran
  obtain ⟨k, low, high, all⟩ := Stmt.forLoop_everywhere fuel n a bound body l begins ends passes ran
  exact ⟨held, k, low, high, all, fun binds => all.lookup (held.binds binds)⟩

/-- With `v` bound to `10` in the global frame, `for v = 1:3 print v;` holds the global frame, and
every binding of `v` then holds `k + 1` for a counter `1 ≤ k ≤ 3`, which a lookup reads: the
global `10` is gone. -/
theorem Stmt.forLoop_writes_through_global :
    ∃ m', (Stmt.exec 10 (.forLoop "v" (.lit 1 1) (.index (.lit 3 1))
        (some (.print (.single (.value (.atom (.var "v" 1)))) 1)) 1)).run
          (({} : Machine).insert "v" (.int 10)) = .ok () m' ∧
      Frames.Held (({} : Machine).insert "v" (.int 10)).frames m'.frames ∧
      ∃ k, 1 ≤ k ∧ k ≤ 3 ∧ m'.Everywhere "v" (.int (k + 1)) ∧
        ((({} : Machine).insert "v" (.int 10)).frames.any (·.has "v") = true →
          m'.lookup "v" = .int (k + 1)) :=
  ⟨_, rfl, (assignment_writes_through_frames (({} : Machine).insert "v" (.int 10)) "v" (.int 0)).2.2
    10 (.lit 1 1) (.index (.lit 3 1)) (some (.print (.single (.value (.atom (.var "v" 1)))) 1)) 1
    _ _ _ 1 3 rfl rfl (by decide) rfl⟩

/-- `v = 10; for v = 1:3 print v;` prints `1`, `2` and `3`, and leaves the global `v` reading `4`,
the step of the last pass, where the loop's counter was to be local to it. -/
theorem Program.loop_counter_overwrites_global :
    ∃ m, Program.run [some (.assign (.declare (.var "v" 1) (.atom (.int 10 1)) 1)),
        some (.forLoop "v" (.lit 1 1) (.index (.lit 3 1))
          (some (.print (.single (.value (.atom (.var "v" 1)))) 1)) 1)] = .ok m ∧
      m.frames.length = 1 ∧ m.lookup "v" = .int 4 ∧ m.console.stdout = "1\n2\n3\n" :=
  ⟨_, rfl, rfl, rfl, rfl⟩

end MatrixLang.Script
