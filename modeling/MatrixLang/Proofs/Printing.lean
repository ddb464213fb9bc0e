import MatrixLang.Proofs.Effects

/-!
# What a `print` statement writes

The items of `print e₁, …, eₙ;` are built from the left, as the chain `((e₁, e₂), …), eₙ`, and
the interpreter walks that chain from its first item: it evaluates each item and turns the value
into its text (`str`) at once, before the next item is evaluated, and it joins the texts with
single blanks. The first item and the later ones are turned into text alike. The statement then
writes the joined text and a line end to the standard output.

This module reads the chain as the list of its items in the order they are written
(`Printed.items`), and says what evaluating them gives with the relation `Shows`: from a machine,
the items evaluate one after the other to values whose texts are the given ones.

## Main results

* `Printed.text_run_ok`: the items of a `print` give a text exactly when they show some texts, and
  the text is then those texts joined by blanks.
* `print_writes_items`: a `print` statement ends normally exactly when its items show some texts,
  and it has then written those texts, separated by blanks and ended by a line end, to the
  standard output, and nothing else.
* `print_long_int_raises`: an item can evaluate and still have no text: an integer of more than
  `digitLimit` digits (`Heap.intText_long`) stops the statement before it writes anything.

## Proof strategy

Evaluation never writes to the console (`Run.Silent`, closed under the operations of the monad
and proved for each evaluation function, as `Run.Plain` is). The text of the items follows the
chain by induction, and `Shows` splits where the chain does, at its last item
(`Shows.append_iff`).
-/
namespace MatrixLang

namespace Console

/-- Writing to a stream adds the text to that stream and leaves the other one as it was. -/
@[simp] theorem contents_write (c : Console) (s s' : Stream) (text : String) :
    (c.write s' text).contents s = if s' = s then c.contents s ++ text else c.contents s := by
  simp [contents, write]

theorem stdout_write_out (c : Console) (text : String) :
    (c.write .out text).stdout = c.stdout ++ text := by
  simp [stdout]

theorem stderr_write_out (c : Console) (text : String) : (c.write .out text).stderr = c.stderr := by
  simp [stderr]

end Console

namespace Script

open Run

/-! ### Runs that write nothing -/

/-- A run that writes nothing: whenever it ends normally, the console is as it was. -/
structure Run.Silent {α : Type} (x : Run α) : Prop where
  silent : ∀ {m a m'}, x.run m = .ok a m' → m'.console = m.console

section Silent

variable {α β γ : Type}

theorem Run.Silent.pure' (a : α) : (pure a : Run α).Silent where
  silent ended := by cases ended; rfl

theorem Run.Silent.get' : (get : Run Machine).Silent where
  silent ended := by cases ended; rfl

theorem Run.Silent.throw' (f : Fault) : (throw f : Run α).Silent where
  silent ended := by cases ended

theorem Run.Silent.modify' {g : Machine → Machine} (keeps : ∀ m, (g m).console = m.console) :
    (modify g : Run Unit).Silent where
  silent ended := by cases ended; exact keeps _

theorem Run.Silent.lift' (e : Except OpError α) : (Run.lift e).Silent where
  silent ended := by cases e <;> cases ended; rfl

theorem Run.Silent.onHeap' (g : Heap → Except OpError (Value × Heap)) : (Run.onHeap g).Silent where
  silent {m a m'} ended := by
    simp only [Run.onHeap, EStateM.run] at ended
    split at ended <;> cases ended
    rfl

theorem Run.Silent.bind' {x : Run α} {f : α → Run β} (first : x.Silent) (rest : ∀ a, (f a).Silent) :
    (x >>= f).Silent where
  silent ended := by
    obtain ⟨a, m₁, started, ended⟩ := EStateM.bind_ok ended
    exact ((rest a).silent ended).trans (first.silent started)

theorem Run.Silent.ite' {c : Prop} [Decidable c] {x y : Run α} (yes : x.Silent) (no : y.Silent) :
    (if c then x else y).Silent := by
  split
  · exact yes
  · exact no

/-- A loop over a list writes nothing when no pass does. -/
theorem Run.Silent.forIn' (xs : List γ) (init : β) {g : γ → β → Run (ForInStep β)}
    (pass : ∀ c b, (g c b).Silent) : (forIn xs init g).Silent := by
  induction xs generalizing init with
  | nil => exact .pure' init
  | cons c cs ih =>
    rw [List.forIn_cons]
    refine .bind' (pass c init) fun step => ?_
    cases step with
    | done b => exact .pure' b
    | yield b => exact ih b

theorem Run.Silent.mapM' (xs : List γ) {g : γ → Run β} (each : ∀ c, (g c).Silent) :
    (xs.mapM g).Silent := by
  induction xs with
  | nil => exact .pure' []
  | cons c cs ih =>
    rw [List.mapM_cons]
    exact .bind' (each c) fun _ => .bind' ih fun _ => .pure' _

end Silent

/-! ### Evaluation writes nothing -/

theorem Run.lookup_silent (name : String) : (Run.lookup name).Silent :=
  .bind' .get' fun _ => .pure' _

theorem arithmetic_silent (op : String) (a b : Value) : (arithmetic op a b).Silent := by
  unfold arithmetic
  split <;> exact .onHeap' _

theorem allLists_silent (v : Value) : (allLists v).Silent :=
  .bind' .get' fun _ => .bind' (.lift' _) fun _ => .pure' _

theorem firstRowLength_silent (v : Value) : (firstRowLength v).Silent :=
  .bind' .get' fun _ => .bind' (.lift' _) fun _ => .lift' _

theorem entry_silent (v : Value) (i j : Nat) : (entry v i j).Silent :=
  .bind' .get' fun _ => .bind' (.lift' _) fun _ => .lift' _

theorem spread_silent (v : Value) (n : Nat) : (spread v n).Silent := by
  unfold spread
  refine .bind' .get' fun _ => .bind' (.lift' _) fun _ => ?_
  exact .bind' (.forIn' _ _ fun _ _ => .bind' (.onHeap' _) fun _ => .pure' _) fun _ => .onHeap' _

theorem pairwise_silent (op : String) (a b : Value) : (pairwise op a b).Silent := by
  unfold pairwise
  refine .bind' .get' fun _ => .bind' (.lift' _) fun _ => .bind' (.lift' _) fun _ => ?_
  refine .bind' (.forIn' _ _ fun _ _ => ?_) fun _ => .onHeap' _
  exact .bind' (arithmetic_silent _ _ _) fun _ => .pure' _

theorem matrixProduct_silent (a b : Value) : (matrixProduct a b).Silent := by
  unfold matrixProduct
  refine .bind' (allLists_silent a) fun _ => .bind' (allLists_silent b) fun _ => ?_
  refine .ite' (pairwise_silent _ _ _) ?_
  refine .bind' .get' fun _ => .bind' (.lift' _) fun _ => ?_
  refine .bind' (.forIn' _ _ fun i _ => ?_) fun _ => .onHeap' _
  refine .bind' (firstRowLength_silent b) fun _ => .bind' (firstRowLength_silent a) fun _ => ?_
  refine .bind' (.forIn' _ _ fun j _ => ?_) fun _ => .bind' (.onHeap' _) fun _ => .pure' _
  refine .bind' (.forIn' _ _ fun k _ => ?_) fun _ => .pure' _
  refine .bind' (entry_silent a i k) fun _ => .bind' (entry_silent b k j) fun _ => ?_
  exact .bind' (arithmetic_silent _ _ _) fun _ => .bind' (arithmetic_silent _ _ _) fun _ => .pure' _

theorem broadcast_silent (a b : Value) : (broadcast a b).Silent := by
  unfold broadcast
  refine .bind' (allLists_silent a) fun _ => .ite' ?_ ?_
  · refine .bind' (allLists_silent b) fun _ => .ite' ?_ (.pure' _)
    exact .bind' (firstRowLength_silent b) fun _ => .bind' (spread_silent _ _) fun _ => .pure' _
  · refine .bind' (allLists_silent b) fun _ => .ite' ?_ (.pure' _)
    exact .bind' (firstRowLength_silent a) fun _ => .bind' (spread_silent _ _) fun _ => .pure' _

theorem combine_silent (op : String) (a b : Value) : (combine op a b).Silent := by
  unfold combine
  refine .ite' (matrixProduct_silent a b) ?_
  refine .bind' (allLists_silent a) fun _ => .bind' (allLists_silent b) fun _ => ?_
  refine .ite' (pairwise_silent op a b) ?_
  refine .bind' .get' fun _ => .bind' (.lift' _) fun _ => .bind' (.lift' _) fun _ => ?_
  exact .bind' (.forIn' _ _ fun _ _ => .bind' (pairwise_silent _ _ _) fun _ => .pure' _)
    fun _ => .onHeap' _

theorem elementwise_silent (op : String) (a b : Value) : (elementwise op a b).Silent := by
  unfold elementwise
  refine .bind' .get' fun _ => .ite' (.throw' _) ?_
  exact .bind' (broadcast_silent a b) fun _ => combine_silent _ _ _

theorem NumRow.eval_silent (r : NumRow) : r.eval.Silent := by
  unfold NumRow.eval
  refine .bind' .get' fun _ => ?_
  split
  · exact .pure' _
  · exact .bind' (.onHeap' _) fun _ => .bind' (.modify' fun _ => rfl) fun _ => .pure' _

theorem matrixFunction_silent (name : String) (n : Nat) : (matrixFunction name n).Silent :=
  .onHeap' _

theorem declare_silent (name : String) (v : Value) : (declare name v).Silent := by
  unfold declare
  refine .bind' .get' fun _ => ?_
  split
  · exact .modify' fun m => by unfold Machine.insert; split <;> rfl
  · exact .modify' fun _ => rfl

theorem store_silent (container index v : Value) : (store container index v).Silent where
  silent {m a m'} ended := by
    simp only [store, EStateM.run] at ended
    split at ended <;> cases ended
    rfl

theorem fill_silent (container v : Value) : (count : Nat) → (start : Int) →
    (fill container v count start).Silent
  | 0, _ => .pure' ()
  | count + 1, i => .bind' (store_silent _ _ _) fun _ => fill_silent container v count (i + 1)

theorem sliceStop_silent (container stop : Value) : (sliceStop container stop).Silent := by
  unfold sliceStop
  split
  · exact .bind' .get' fun _ => .bind' (.lift' _) fun _ => .pure' _
  · exact .pure' _

theorem fillSlice_silent (container v start stop : Value) :
    (fillSlice container v start stop).Silent :=
  .bind' (sliceStop_silent _ _) fun _ => .bind' (.lift' _) fun _ => .bind' (.lift' _) fun _ =>
    fill_silent _ _ _ _

theorem compound_silent (op : String) (old x : Value) : (compound op old x).Silent := by
  unfold compound
  split <;> exact .onHeap' _

theorem Atom.eval_silent : (a : Atom) → a.eval.Silent
  | .int .. | .float .. | .str .. => .pure' _
  | .var n _ => Run.lookup_silent n

theorem Index.eval_silent : (i : Index) → i.eval.Silent
  | .lit .. => .pure' _
  | .name n _ => Run.lookup_silent n

theorem Element.eval_silent : (r : Element) → r.eval.Silent
  | .pair _ r c _ =>
    .bind' r.eval_silent fun _ => .bind' c.eval_silent fun _ => .bind' (Run.lookup_silent _) fun _ =>
      .bind' .get' fun _ => .bind' (.lift' _) fun _ => .lift' _
  | .single _ r _ =>
    .bind' r.eval_silent fun _ => .bind' (Run.lookup_silent _) fun _ => .bind' .get' fun _ => .lift' _

theorem Slice.ends_silent : (s : Slice) → s.ends.Silent
  | .both _ b e _ => .bind' b.eval_silent fun _ => .bind' e.eval_silent fun _ => .pure' _
  | .upTo _ e _ => .bind' e.eval_silent fun _ => .pure' _
  | .onwards _ b _ => .bind' b.eval_silent fun _ => .pure' _

mutual
/-- Evaluating an expression writes nothing. -/
theorem Expr.eval_silent : (e : Expr) → e.eval.Silent
  | .atom a => a.eval_silent
  | .assign a => .bind' a.exec_silent fun _ => .pure' _
  | .relation c => c.eval_silent
  | .matrixFun f n _ => matrixFunction_silent f n
  | .element r => r.eval_silent
  | .negate e _ => e.eval_silent
  | .literal (.rows rs _) _ => .bind' (.mapM' rs NumRow.eval_silent) fun _ => .onHeap' _
  | .literal (.row r) _ => r.eval_silent
  | .transpose e _ => e.eval_silent
  | .paren e _ => e.eval_silent
  | .arith _ a b _ => .bind' a.eval_silent fun _ => .bind' b.eval_silent fun _ => arithmetic_silent _ _ _
  | .dotted _ a b _ =>
    .bind' a.eval_silent fun _ => .bind' b.eval_silent fun _ => elementwise_silent _ _ _

/-- Running an assignment writes nothing: it only changes variables and lists. -/
theorem Assign.exec_silent : (a : Assign) → a.exec.Silent
  | .declare (.var name _) v _ => .bind' v.eval_silent fun x => declare_silent name x
  | .declare (.element (.pair _ r c _)) v _ =>
    .bind' r.eval_silent fun _ => .bind' c.eval_silent fun _ => .bind' (Run.lookup_silent _) fun _ =>
      .bind' v.eval_silent fun _ => .bind' .get' fun _ => .bind' (.lift' _) fun _ =>
        .bind' (store_silent _ _ _) fun _ => .modify' fun _ => rfl
  | .declare (.element (.single _ r _)) v _ =>
    .bind' r.eval_silent fun _ => .bind' (Run.lookup_silent _) fun _ => .bind' v.eval_silent fun _ =>
      .bind' (store_silent _ _ _) fun _ => .modify' fun _ => rfl
  | .declare (.slice s) v _ =>
    .bind' s.ends_silent fun (id, start, stop) => .bind' (Run.lookup_silent id) fun m =>
      .bind' v.eval_silent fun x => .bind' (fillSlice_silent m x start stop) fun _ =>
        .modify' fun _ => rfl
  | .update op (.var name _) v _ =>
    .bind' v.eval_silent fun x => .bind' (Run.lookup_silent name) fun old =>
      .bind' (compound_silent op old x) fun _ => .modify' fun _ => rfl
  | .update _ (.element _) _ _ | .update _ (.slice _) _ _ => .throw' _

/-- Evaluating a comparison writes nothing. -/
theorem Compare.eval_silent : (c : Compare) → c.eval.Silent
  | .mk _ a b _ =>
    .bind' a.eval_silent fun _ => .bind' b.eval_silent fun _ => .bind' .get' fun _ =>
      .bind' (.lift' _) fun _ => .pure' _
end

theorem PrintItem.eval_silent : (p : PrintItem) → p.eval.Silent
  | .value e => e.eval_silent
  | .arith _ a b _ => .bind' a.eval_silent fun _ => .bind' b.eval_silent fun _ => arithmetic_silent _ _ _

/-! ### The items of a `print` and the texts they show -/

/-- The items of a `print`, in the order they are written. -/
def Printed.items : Printed → List PrintItem
  | .single i => [i]
  | .more rest i _ => rest.items ++ [i]

theorem Printed.items_ne_nil : (p : Printed) → p.items ≠ []
  | .single _ | .more .. => by simp [Printed.items]

/-- `Shows items m texts m'`: evaluated one after the other from machine `m`, the items give
values whose texts, each taken right after its item is evaluated, are `texts`; the last
evaluation leaves machine `m'`. -/
inductive Shows : List PrintItem → Machine → List String → Machine → Prop
  | nil (m : Machine) : Shows [] m [] m
  | cons {i : PrintItem} {is : List PrintItem} {m m₁ m' : Machine} {v : Value} {t : String}
      {ts : List String} (evaluated : i.eval.run m = .ok v m₁) (printed : m₁.heap.str v = .ok t)
      (rest : Shows is m₁ ts m') : Shows (i :: is) m (t :: ts) m'

namespace Shows

variable {i : PrintItem} {is xs ys : List PrintItem} {m m' : Machine} {ts : List String}

theorem nil_iff : Shows [] m ts m' ↔ ts = [] ∧ m' = m := by
  constructor
  · rintro ⟨⟩
    exact ⟨rfl, rfl⟩
  · rintro ⟨rfl, rfl⟩
    exact .nil _

theorem cons_iff : Shows (i :: is) m ts m' ↔
    ∃ v m₁ t us, i.eval.run m = .ok v m₁ ∧ m₁.heap.str v = .ok t ∧ Shows is m₁ us m' ∧
      ts = t :: us := by
  constructor
  · rintro (_ | ⟨evaluated, printed, rest⟩)
    exact ⟨_, _, _, _, evaluated, printed, rest, rfl⟩
  · rintro ⟨v, m₁, t, us, evaluated, printed, rest, rfl⟩
    exact .cons evaluated printed rest

/-- The texts shown by the items written after others follow those the others show. -/
theorem append_iff : Shows (xs ++ ys) m ts m' ↔
    ∃ us ws m₁, Shows xs m us m₁ ∧ Shows ys m₁ ws m' ∧ ts = us ++ ws := by
  induction xs generalizing m ts with
  | nil =>
    simp only [List.nil_append, nil_iff]
    constructor
    · intro shown
      exact ⟨[], ts, m, ⟨rfl, rfl⟩, shown, rfl⟩
    · rintro ⟨_, ws, _, ⟨rfl, rfl⟩, shown, rfl⟩
      exact shown
  | cons x xs ih =>
    simp only [List.cons_append, cons_iff, ih]
    constructor
    · rintro ⟨v, m₁, t, _, evaluated, printed, ⟨us, ws, m₂, first, second, rfl⟩, rfl⟩
      exact ⟨t :: us, ws, m₂, ⟨v, m₁, t, us, evaluated, printed, first, rfl⟩, second, rfl⟩
    · rintro ⟨_, ws, m₂, ⟨v, m₁, t, us, evaluated, printed, first, rfl⟩, second, rfl⟩
      exact ⟨v, m₁, t, us ++ ws, evaluated, printed, ⟨us, ws, m₂, first, second, rfl⟩, rfl⟩

theorem singleton_iff : Shows [i] m ts m' ↔
    ∃ v t, i.eval.run m = .ok v m' ∧ m'.heap.str v = .ok t ∧ ts = [t] := by
  simp only [cons_iff, nil_iff]
  constructor
  · rintro ⟨v, _, t, _, evaluated, printed, ⟨rfl, rfl⟩, rfl⟩
    exact ⟨v, t, evaluated, printed, rfl⟩
  · rintro ⟨v, t, evaluated, printed, rfl⟩
    exact ⟨v, m', t, [], evaluated, printed, ⟨rfl, rfl⟩, rfl⟩

/-- Each item shows one text. -/
theorem length_eq (shown : Shows is m ts m') : ts.length = is.length := by
  induction shown with
  | nil => rfl
  | cons _ _ _ ih => simp [ih]

end Shows

/-! ### The text of the items -/

section Runs

variable {ε σ α β : Type}

/-- A sequence ends normally exactly when its first part does and its second part does from
there. -/
theorem EStateM.run_bind_ok_iff {x : EStateM ε σ α} {f : α → EStateM ε σ β} {s s' : σ} {b : β} :
    (x >>= f).run s = .ok b s' ↔ ∃ a s₁, x.run s = .ok a s₁ ∧ (f a).run s₁ = .ok b s' := by
  constructor
  · exact EStateM.bind_ok
  · rintro ⟨a, s₁, started, ended⟩
    rw [EStateM.run_bind, started]
    exact ended

theorem EStateM.run_pure_ok_iff {a b : α} {s s' : σ} :
    (pure a : EStateM ε σ α).run s = .ok b s' ↔ a = b ∧ s = s' := by
  simp [EStateM.run_pure]

end Runs

/-- Turning a value into its text reads the heap and changes nothing. -/
theorem textOf_run_ok {v : Value} {m m' : Machine} {t : String} :
    (textOf v).run m = .ok t m' ↔ m.heap.str v = .ok t ∧ m' = m := by
  change (Run.lift (m.heap.str v)).run m = _ ↔ _
  cases m.heap.str v <;> simp [Run.lift, EStateM.run, eq_comm]

/-- The texts a chain of items shows, joined and followed by a blank and one more text, are those
texts and the new one joined: the chain shows at least one text. -/
theorem Printed.join_shown (rest : Printed) {m m' : Machine} {us : List String}
    (shown : Shows rest.items m us m') (u : String) :
    " ".intercalate (us ++ [u]) = " ".intercalate us ++ " " ++ u := by
  have some : us ≠ [] := by
    rw [← List.length_pos_iff, shown.length_eq, List.length_pos_iff]
    exact rest.items_ne_nil
  rw [String.intercalate_append_of_ne_nil some (List.cons_ne_nil _ _), String.intercalate_singleton]

/-- The items of a `print` give a text exactly when they show some texts, one after the other;
the text is then those texts separated by blanks. -/
theorem Printed.text_run_ok (p : Printed) {m m' : Machine} {s : String} :
    p.text.run m = .ok s m' ↔ ∃ texts, Shows p.items m texts m' ∧ s = " ".intercalate texts := by
  induction p generalizing m' s with
  | single i =>
    simp only [Printed.text, Printed.items, EStateM.run_bind_ok_iff, textOf_run_ok,
      Shows.singleton_iff]
    constructor
    · rintro ⟨v, _, evaluated, printed, rfl⟩
      exact ⟨[s], ⟨v, s, evaluated, printed, rfl⟩, by simp⟩
    · rintro ⟨_, ⟨v, t, evaluated, printed, rfl⟩, rfl⟩
      exact ⟨v, m', evaluated, by simpa using printed, rfl⟩
  | more rest i _ ih =>
    simp only [Printed.text, Printed.items, EStateM.run_bind_ok_iff, textOf_run_ok,
      EStateM.run_pure_ok_iff, ih, Shows.append_iff, Shows.singleton_iff]
    constructor
    · rintro ⟨_, m₁, ⟨us, before, rfl⟩, v, m₂, evaluated, u, _, ⟨printed, rfl⟩, rfl, rfl⟩
      refine ⟨us ++ [u], ⟨us, [u], m₁, before, ⟨v, u, evaluated, printed, rfl⟩, rfl⟩, ?_⟩
      rw [rest.join_shown before]
    · rintro ⟨_, ⟨us, _, m₁, before, ⟨v, u, evaluated, printed, rfl⟩, rfl⟩, rfl⟩
      refine ⟨_, m₁, ⟨us, before, rfl⟩, v, m', evaluated, u, m', ⟨printed, rfl⟩, ?_, rfl⟩
      rw [rest.join_shown before]

/-- Showing the items of a `print` writes nothing. -/
theorem Shows.console_eq {is : List PrintItem} {m m' : Machine} {ts : List String}
    (shown : Shows is m ts m') : m'.console = m.console := by
  induction shown with
  | nil => rfl
  | cons evaluated _ _ ih => exact ih.trans ((PrintItem.eval_silent _).silent evaluated)

/-! ### The `print` statement -/

/-- A `print` statement writes the text of its items as a line of the standard output. -/
theorem Stmt.exec_print (fuel : Nat) (items : Printed) (line : Nat) :
    Stmt.exec (fuel + 1) (.print items line) =
      (items.text >>= fun t => modify fun m => { m with console := m.console.printLine t }) := rfl

/-- A `print` statement ends normally exactly when its items, evaluated one after the other,
show some texts; it has then written those texts, separated by single blanks and followed by a
line end, to the standard output, and nothing else. -/
theorem print_writes_items (fuel : Nat) (items : Printed) (line : Nat) (m m'' : Machine) :
    (Stmt.exec (fuel + 1) (.print items line)).run m = .ok () m'' ↔
      ∃ texts m', Shows items.items m texts m' ∧
        m'' = { m' with console := m.console.write .out (" ".intercalate texts ++ "\n") } := by
  rw [Stmt.exec_print, EStateM.run_bind_ok_iff]
  constructor
  · rintro ⟨_, m', ran, written⟩
    obtain ⟨texts, shown, rfl⟩ := (Printed.text_run_ok items).mp ran
    refine ⟨texts, m', shown, ?_⟩
    cases written
    show { m' with console := m'.console.printLine _ } = _
    rw [shown.console_eq]
    rfl
  · rintro ⟨texts, m', shown, rfl⟩
    refine ⟨_, m', (Printed.text_run_ok items).mpr ⟨texts, shown, rfl⟩, ?_⟩
    rw [← shown.console_eq]
    rfl

/-- `print 1, 2 < 3;` writes `1 True` and a line end: the items show the texts `1` and `True`. -/
theorem print_number_and_truth :
    Shows [.value (.atom (.int 1 1)), .value (.relation (.mk "<" (.atom (.int 2 1)) (.atom (.int 3 1)) 1))]
        {} ["1", "True"] {} ∧
      (Stmt.exec 1 (.print (.more (.single (.value (.atom (.int 1 1))))
        (.value (.relation (.mk "<" (.atom (.int 2 1)) (.atom (.int 3 1)) 1))) 1) 1)).run {} =
        .ok () { console := ({} : Console).write .out "1 True\n" } := by
  have shown : Shows [.value (.atom (.int 1 1)),
      .value (.relation (.mk "<" (.atom (.int 2 1)) (.atom (.int 3 1)) 1))] {} ["1", "True"] {} :=
    .cons rfl rfl (.cons rfl rfl (.nil _))
  exact ⟨shown, (print_writes_items 0 _ 1 {} _).mpr ⟨_, _, shown, rfl⟩⟩

/-! ### Values with no text -/

/-- An integer of more than `digitLimit` digits, at least `10 ^ digitLimit` in size, has no text:
turning it into one raises a `ValueError`. -/
theorem Heap.intText_long {n : Int} (long : Nat.pow 10 digitLimit ≤ n.natAbs) :
    Heap.intText n = .error (.value ("Exceeds the limit (4300 digits) for integer string conversion; " ++
      "use sys.set_int_max_str_digits() to increase the limit")) := by
  have digits : digitLimit < (toString n.natAbs).length := by
    rw [Nat.toString_eq_ofList_toDigits, String.length_ofList]
    have within := Nat.length_toDigits_le_iff (b := 10) (n := n.natAbs) (by decide)
      (show 0 < digitLimit by decide)
    rw [Nat.pow_eq] at long
    omega
  unfold Heap.intText
  rw [if_pos digits]
  exact congrArg (fun text => Except.error (OpError.value text)) (by decide)

/-- The text of an integer, whatever the heap. -/
theorem Heap.str_int (h : Heap) (n : Int) : h.str (.int n) = Heap.intText n := rfl

/-- A `print` of one item whose value has no text raises the error of the text, on the machine
the item's evaluation left: it writes nothing. -/
theorem Stmt.print_single_raises (fuel line : Nat) {i : PrintItem} {m m₁ : Machine} {v : Value}
    {err : OpError} (evaluated : i.eval.run m = .ok v m₁) (unprintable : m₁.heap.str v = .error err) :
    (Stmt.exec (fuel + 1) (.print (.single i) line)).run m = .error (.raised (.op err)) m₁ := by
  rw [Stmt.exec_print, EStateM.run_bind]
  have text : (Printed.single i).text.run m = .error (.raised (.op err)) m₁ := by
    show (i.eval >>= textOf).run m = _
    rw [EStateM.run_bind, evaluated]
    show (Run.lift (m₁.heap.str v)).run m₁ = _
    rw [unprintable]
    rfl
  rw [text]

/-- A machine whose global `x` holds `10 ^ 8192`, as after `x = 10;` and thirteen `x *= x;`. -/
def holdingPower : Machine :=
  { frames := [{ name := "global_memory", vars := [("x", .int (Nat.pow 10 8192 : Int))] }] }

/-- `print x;` with `x` holding `10 ^ 8192`: the item evaluates, but its text would have 8193
digits, so the statement raises a `ValueError` and writes nothing. -/
theorem print_long_int_raises :
    (PrintItem.value (.atom (.var "x" 1))).eval.run holdingPower =
        .ok (.int (Nat.pow 10 8192 : Int)) holdingPower ∧
      (Stmt.exec 1 (.print (.single (.value (.atom (.var "x" 1)))) 1)).run holdingPower =
        .error (.raised (.op (.value ("Exceeds the limit (4300 digits) for integer string conversion; " ++
          "use sys.set_int_max_str_digits() to increase the limit")))) holdingPower := by
  have evaluated : (PrintItem.value (.atom (.var "x" 1))).eval.run holdingPower =
      .ok (.int (Nat.pow 10 8192 : Int)) holdingPower := rfl
  have long : Nat.pow 10 digitLimit ≤ (Nat.pow 10 8192 : Int).natAbs := by
    -- compared as powers, never computed
    have grows : ∀ j k, j ≤ k → Nat.pow 10 j ≤ Nat.pow 10 k :=
      fun _ _ le => Nat.pow_le_pow_right (by decide) le
    rw [Int.natAbs_natCast]
    exact grows digitLimit 8192 (by decide)
  exact ⟨evaluated, Stmt.print_single_raises 0 1 evaluated
    ((Heap.str_int _ _).trans (Heap.intText_long long))⟩
end Script

end MatrixLang
