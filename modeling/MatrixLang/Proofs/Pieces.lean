import MatrixLang.Lexer.Scan

/-!
# How a scan lays out its text

A scan cuts its text into pieces: blanks it skips, lexemes of rules that make no token (comments,
line ends), lexemes and literal characters that become tokens, and characters nothing accepts,
which are reported. The text is the characters of the pieces in order, followed by what the scan
had not reached when it stopped early.

## Main result

`Lexicon.scanFrom_lays`: for a lexicon whose rules take non-empty prefixes of the text and which
counts every line end, a scan lays its text out in pieces, each made the way one step of the scan
makes it at its own offset and line; the events of the scan are those of the pieces, and the text
left unread is where and why the scan stopped.

## Proof strategy

Functional induction on `scanFrom`: each branch that reads on puts one piece in front of the
layout of the text behind it (`Lays.cons`), and each branch that stops lays out nothing
(`Lays.stopped`). A statement about every piece of a layout is one about its first piece and one
about the pieces of the rest, read from where the first piece ends (`Everywhere.cons`).
-/
namespace MatrixLang

/-- Whether a rule counts the line ends of its lexemes. -/
def Role.counts : Role → Bool
  | .emit _ _ lines | .drop lines => lines

namespace Lexicon

/-! ### Pieces -/

/-- A stretch of text as a scan treats it. -/
inductive Piece where
  /-- A blank character, skipped. -/
  | blank (c : Char)
  /-- The lexeme of a rule that makes no token. -/
  | dropped (lexeme : List Char)
  /-- A lexeme, or a literal character, that became a token. -/
  | token (t : Token) (lexeme : List Char)
  /-- A character nothing accepts, reported on a line. -/
  | bad (c : Char) (line : Nat)

namespace Piece

/-- The characters of a piece. -/
def text : Piece → List Char
  | .blank c | .bad c _ => [c]
  | .dropped cs | .token _ cs => cs

/-- What a consumer of the scan sees of a piece. -/
def event? : Piece → Option Event
  | .token t _ => some (.token t)
  | .bad c line => some (.bad c line)
  | .blank _ | .dropped _ => none

end Piece

/-- The characters of some pieces, in order. -/
def spell (ps : List Piece) : List Char := (ps.map Piece.text).flatten

@[simp] theorem spell_nil : spell [] = [] := rfl

@[simp] theorem spell_cons (p : Piece) (ps : List Piece) : spell (p :: ps) = p.text ++ spell ps := by
  simp [spell]

@[simp] theorem spell_append (ps qs : List Piece) : spell (ps ++ qs) = spell ps ++ spell qs := by
  simp [spell]

/-- `P before p after` holds of each piece `p` of `ps`, where `before` is the text of the pieces
ahead of `p` and `after` the text behind it, the unread `rest` included. -/
def Everywhere (P : List Char → Piece → List Char → Prop) (ps : List Piece) (rest : List Char) :
    Prop :=
  ∀ pre p post, ps = pre ++ p :: post → P (spell pre) p (spell post ++ rest)

namespace Everywhere

variable {P Q : List Char → Piece → List Char → Prop} {p : Piece} {ps : List Piece}
  {rest : List Char}

theorem nil : Everywhere P [] rest := by
  intro pre p post split
  simp at split

/-- A statement about every piece of a layout is one about its first piece and one about every
piece of the rest, read from where the first piece ends. -/
theorem cons (first : P [] p (spell ps ++ rest))
    (others : Everywhere (fun before q after => P (p.text ++ before) q after) ps rest) :
    Everywhere P (p :: ps) rest := by
  intro pre q post split
  cases pre with
  | nil =>
    obtain ⟨rfl, rfl⟩ := List.cons.inj split
    exact first
  | cons x pre =>
    obtain ⟨rfl, rfl⟩ := List.cons.inj split
    simpa using others pre q post rfl

theorem head (every : Everywhere P (p :: ps) rest) : P [] p (spell ps ++ rest) :=
  every [] p ps rfl

theorem tail (every : Everywhere P (p :: ps) rest) :
    Everywhere (fun before q after => P (p.text ++ before) q after) ps rest := by
  intro pre q post split
  simpa [split] using every (p :: pre) q post (by simp [split])

theorem imp (every : Everywhere P ps rest) (h : ∀ before q after, P before q after → Q before q after) :
    Everywhere Q ps rest :=
  fun pre q post split => h _ _ _ (every pre q post split)

theorem and (left : Everywhere P ps rest) (right : Everywhere Q ps rest) :
    Everywhere (fun before q after => P before q after ∧ Q before q after) ps rest :=
  fun pre q post split => ⟨left pre q post split, right pre q post split⟩

end Everywhere

/-! ### One step of a scan -/

/-- The rule `r` opens the text `cs ++ after` with the lexeme `cs`: the text does not start with a
blank, and `r` is the first rule that applies there, taking `cs`. -/
def Opens (lx : Lexicon) (cs after : List Char) (r : Rule) : Prop :=
  ∃ c tail, cs = c :: tail ∧ c ∉ lx.blanks ∧ lx.firstRule (cs ++ after) = some (r, cs.length)

/-- No blank, rule or literal accepts the character `c` in front of `after`. -/
def Refuses (lx : Lexicon) (c : Char) (after : List Char) : Prop :=
  c ∉ lx.blanks ∧ lx.firstRule (c :: after) = none ∧ c ∉ lx.literals

/-- How one step of a scan makes a piece at `offset` and `line`, `after` being the text behind
it: a blank is skipped; the first rule that applies takes a lexeme, dropped or made a token of
its kind (a whole number only if it is short enough to read); failing a rule, a literal is a token
of its own; failing that, the character is reported on its line. -/
def Piece.Made (lx : Lexicon) (offset line : Nat) : Piece → List Char → Prop
  | .blank c, _ => c ∈ lx.blanks
  | .dropped cs, after => ∃ r l, lx.Opens cs after r ∧ r.role = .drop l
  | .token t cs, after =>
    (∃ r kind reading l, lx.Opens cs after r ∧ r.role = .emit kind reading l ∧
      ¬ (reading = .integer ∧ numeralLimit < cs.length) ∧
      t = ⟨r.kindOf kind (String.ofList cs), reading.read cs, line, offset⟩) ∨
    (∃ c, cs = [c] ∧ c ∉ lx.blanks ∧ lx.firstRule (c :: after) = none ∧ c ∈ lx.literals ∧
      t = ⟨String.singleton c, .text (String.singleton c), line, offset⟩)
  | .bad c l, after => lx.Refuses c after ∧ (∃ lead, lx.onBad = .report lead) ∧ l = line

/-- How a scan ends that reached `offset` with `rest` unread: at the end of the text; on a whole
number of more than `numeralLimit` digits; or on a character that a halting lexicon refuses. -/
def Halts (lx : Lexicon) (offset : Nat) : Option Stop → List Char → Prop
  | none, rest => rest = []
  | some (.longNumeral n), rest =>
    ∃ lexeme after r kind l, rest = lexeme ++ after ∧ lexeme.length = n ∧ numeralLimit < n ∧
      lx.Opens lexeme after r ∧ r.role = .emit kind .integer l
  | some (.illegal c o), rest =>
    ∃ after, rest = c :: after ∧ lx.Refuses c after ∧ lx.onBad = .halt ∧ o = offset

/-- Every rule takes a non-empty part of the text it applies to. -/
def Sound (lx : Lexicon) : Prop :=
  ∀ r ∈ lx.rules, ∀ cs n, r.pattern cs = some n → 0 < n ∧ n ≤ cs.length

/-- What counting lines needs of a lexicon: a rule that does not count line ends never takes one,
and a line end is always taken by some rule, never skipped as a blank or read as a literal. -/
structure Tallies (lx : Lexicon) : Prop where
  quiet : ∀ r ∈ lx.rules, r.role.counts = false → ∀ cs n, r.pattern cs = some n → '\n' ∉ cs.take n
  taken : ∀ after, lx.firstRule ('\n' :: after) ≠ none
  unblank : '\n' ∉ lx.blanks
  unliteral : '\n' ∉ lx.literals

theorem firstRule_some {lx : Lexicon} {cs : List Char} {r : Rule} {n : Nat}
    (first : lx.firstRule cs = some (r, n)) : r ∈ lx.rules ∧ r.pattern cs = some n := by
  obtain ⟨pre, r', post, split, applies, -⟩ := List.findSome?_eq_some_iff.1 first
  obtain ⟨m, found, same⟩ := Option.map_eq_some_iff.1 applies
  cases same
  exact ⟨by simp [split], found⟩

/-- The lexeme the first rule takes is a non-empty prefix of the text. -/
theorem firstRule_length {lx : Lexicon} (sound : lx.Sound) {cs : List Char} {r : Rule} {n : Nat}
    (first : lx.firstRule cs = some (r, n)) : 0 < n ∧ n ≤ cs.length :=
  let ⟨member, applies⟩ := firstRule_some first
  sound r member cs n applies

/-- The lexeme a rule takes has the length the rule gives. -/
theorem length_taken {lx : Lexicon} (sound : lx.Sound) {cs : List Char} {r : Rule} {n : Nat}
    (first : lx.firstRule cs = some (r, n)) : (cs.take n).length = n := by
  rw [List.length_take]
  exact Nat.min_eq_left (firstRule_length sound first).2

/-! ### Layouts -/

/-- The pieces `ps` and the unread `rest` are how the scan `s`, read from `offset` and `line`
after the events `seen`, lays out the text `cs`. -/
structure Lays (lx : Lexicon) (cs : List Char) (offset line : Nat) (seen : List Event) (s : Scan)
    (ps : List Piece) (rest : List Char) : Prop where
  spells : cs = spell ps ++ rest
  events : s.events = seen ++ ps.filterMap Piece.event?
  made : Everywhere (fun before p after =>
    p.Made lx (offset + before.length) (line + before.count '\n') after) ps rest
  halts : lx.Halts (offset + (spell ps).length) s.stop rest

namespace Lays

variable {lx : Lexicon} {cs : List Char} {offset line : Nat} {seen : List Event} {s : Scan}
  {ps : List Piece} {rest : List Char}

/-- A scan that stops at once lays out nothing. -/
theorem stopped {stop : Option Stop} (halts : lx.Halts offset stop cs) :
    lx.Lays cs offset line seen ⟨seen, stop⟩ [] cs where
  spells := rfl
  events := by simp
  made := Everywhere.nil
  halts := by simpa using halts

/-- A piece made in front of a layout of the text behind it. -/
theorem cons {p : Piece} {cs' : List Char} {offset' line' : Nat} {seen' : List Event}
    (split : cs = p.text ++ cs') (made : p.Made lx offset line cs')
    (offset_eq : offset' = offset + p.text.length) (line_eq : line' = line + p.text.count '\n')
    (seen_eq : seen' = seen ++ p.event?.toList) (tail : lx.Lays cs' offset' line' seen' s ps rest) :
    lx.Lays cs offset line seen s (p :: ps) rest where
  spells := by simp [split, tail.spells]
  events := by
    rw [tail.events, seen_eq, List.filterMap_cons]
    cases p.event? <;> simp
  made := by
    refine Everywhere.cons ?_ (tail.made.imp ?_)
    · simpa [← tail.spells] using made
    · intro before q after made'
      simpa [offset_eq, line_eq, Nat.add_assoc] using made'
  halts := by simpa [offset_eq, Nat.add_assoc] using tail.halts

end Lays

/-- The lexeme a rule takes is the start of the text, and starts with its first character. -/
theorem opens_take {lx : Lexicon} (sound : lx.Sound) {c : Char} {rest : List Char} {r : Rule}
    {n : Nat} (open_ : c ∉ lx.blanks) (first : lx.firstRule (c :: rest) = some (r, n)) :
    lx.Opens ((c :: rest).take n) ((c :: rest).drop n) r := by
  obtain ⟨m, rfl⟩ : ∃ m, n = m + 1 := ⟨n - 1, by have := (firstRule_length sound first).1; omega⟩
  refine ⟨c, rest.take m, by simp, open_, ?_⟩
  rw [List.take_append_drop, length_taken sound first]
  exact first

/-- The scan counts every line end of a lexeme, whether or not its rule counts line ends. -/
theorem count_taken {lx : Lexicon} (tallies : lx.Tallies) {cs : List Char} {r : Rule} {n : Nat}
    (first : lx.firstRule cs = some (r, n)) {lines : Bool} (counts : r.role.counts = lines) :
    (if lines = true then (cs.take n).count '\n' else 0) = (cs.take n).count '\n' := by
  cases lines
  · obtain ⟨member, applies⟩ := firstRule_some first
    exact (List.count_eq_zero.2 (tallies.quiet r member counts cs n applies)).symm
  · rfl

/-- A character that no rule accepts is not a line end. -/
theorem ne_newline_of_none {lx : Lexicon} (tallies : lx.Tallies) {c : Char} {rest : List Char}
    (none_ : lx.firstRule (c :: rest) = none) : c ≠ '\n' := by
  rintro rfl
  exact tallies.taken rest none_

/-- The layout of every scan: the pieces of the text read, each made by one step of the scan at
its offset and line, and the rest the scan did not read, with why it stopped there. -/
theorem scanFrom_lays {lx : Lexicon} (sound : lx.Sound) (tallies : lx.Tallies) (cs : List Char)
    (offset line : Nat) (seen : Array Event) :
    ∃ ps rest, lx.Lays cs offset line seen.toList (lx.scanFrom cs offset line seen) ps rest := by
  fun_induction lx.scanFrom cs offset line seen with
  | case1 offset line seen => exact ⟨[], [], Lays.stopped rfl⟩
  | case2 offset line seen c rest blank ih =>
    obtain ⟨ps, unread, lays⟩ := ih
    have blank : c ∈ lx.blanks := by simpa using blank
    have newline : c ≠ '\n' := fun h => tallies.unblank (h ▸ blank)
    exact ⟨.blank c :: ps, unread, Lays.cons (p := .blank c) rfl blank (by simp [Piece.text])
      (by simp [Piece.text, newline]) (by simp [Piece.event?]) lays⟩
  | case3 offset line seen c rest open_ r n first pos lexeme kind reading lines role long =>
    have open_ : c ∉ lx.blanks := by simpa using open_
    exact ⟨[], c :: rest, Lays.stopped ⟨lexeme, (c :: rest).drop n, r, kind, lines,
      (List.take_append_drop n _).symm, rfl, long.2, opens_take sound open_ first, long.1 ▸ role⟩⟩
  | case4 offset line seen c rest open_ r n first pos lexeme breaks kind reading lines role short
      text ih =>
    obtain ⟨ps, unread, lays⟩ := ih
    have open_ : c ∉ lx.blanks := by simpa using open_
    have length : lexeme.length = n := length_taken sound first
    have counted : breaks = lexeme.count '\n' := by
      simpa [breaks, role] using count_taken tallies first (by simp [Role.counts, role])
    refine ⟨.token ⟨r.kindOf kind text, reading.read lexeme, line, offset⟩ lexeme :: ps, unread,
      Lays.cons (List.take_append_drop n (c :: rest)).symm
        (.inl ⟨r, kind, reading, lines, opens_take sound open_ first, role,
          by simpa [length] using short, rfl⟩)
        (by simp [Piece.text, length]) (by simp [Piece.text, counted]) (by simp [Piece.event?])
        lays⟩
  | case5 offset line seen c rest open_ r n first pos lexeme breaks lines role ih =>
    obtain ⟨ps, unread, lays⟩ := ih
    have open_ : c ∉ lx.blanks := by simpa using open_
    have length : lexeme.length = n := length_taken sound first
    have counted : breaks = lexeme.count '\n' := by
      simpa [breaks, role] using count_taken tallies first (by simp [Role.counts, role])
    exact ⟨.dropped lexeme :: ps, unread,
      Lays.cons (p := .dropped lexeme) (List.take_append_drop n (c :: rest)).symm
        ⟨r, lines, opens_take sound open_ first, role⟩
        (by simp [Piece.text, length]) (by simp [Piece.text, counted]) (by simp [Piece.event?])
        lays⟩
  | case6 offset line seen c rest open_ r n first pos =>
    exact absurd (firstRule_length sound first).1 pos
  | case7 offset line seen c rest open_ none_ literal ih =>
    obtain ⟨ps, unread, lays⟩ := ih
    have open_ : c ∉ lx.blanks := by simpa using open_
    have literal : c ∈ lx.literals := by simpa using literal
    have newline : c ≠ '\n' := fun h => tallies.unliteral (h ▸ literal)
    exact ⟨.token ⟨String.singleton c, .text (String.singleton c), line, offset⟩ [c] :: ps, unread,
      Lays.cons rfl (.inr ⟨c, rfl, open_, none_, literal, rfl⟩) (by simp [Piece.text])
        (by simp [Piece.text, newline]) (by simp [Piece.event?]) lays⟩
  | case8 offset line seen c rest open_ none_ unliteral lead report ih =>
    obtain ⟨ps, unread, lays⟩ := ih
    have open_ : c ∉ lx.blanks := by simpa using open_
    have unliteral : c ∉ lx.literals := by simpa using unliteral
    exact ⟨.bad c line :: ps, unread,
      Lays.cons (p := .bad c line) rfl ⟨⟨open_, none_, unliteral⟩, ⟨lead, report⟩, rfl⟩
        (by simp [Piece.text]) (by simp [Piece.text, ne_newline_of_none tallies none_])
        (by simp [Piece.event?]) lays⟩
  | case9 offset line seen c rest open_ none_ unliteral halt =>
    have open_ : c ∉ lx.blanks := by simpa using open_
    have unliteral : c ∉ lx.literals := by simpa using unliteral
    exact ⟨[], c :: rest, Lays.stopped ⟨rest, rfl, ⟨open_, none_, unliteral⟩, halt, rfl⟩⟩

/-- The layout of the scan of a whole text, from offset `0` on line `1`. -/
theorem scan_lays {lx : Lexicon} (sound : lx.Sound) (tallies : lx.Tallies) (src : String) :
    ∃ ps rest, lx.Lays src.toList 0 1 [] (lx.scan src) ps rest := by
  simpa [scan] using scanFrom_lays sound tallies src.toList 0 1 #[]

end Lexicon
end MatrixLang
