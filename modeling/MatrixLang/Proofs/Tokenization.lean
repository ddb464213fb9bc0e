import MatrixLang.Tools.Lexing
import MatrixLang.Proofs.Lexemes

/-!
# Tokenization loses nothing and counts lines exactly

Every version of the language reads its source into tokens without losing a character: the
text is the tokens' texts and what the lexer skips, in order, and what it skips is only blanks,
comments up to the end of their line, runs of line ends, and characters that nothing accepts,
each of which is reported once (or, in the lexer that halts, stops the scan). A token's value is
read from its own text alone. The one exception is a whole number of more than `numeralLimit`
digits, leading zeros included: it cannot be read, and the scan stops there.

Every token, and every report of a bad character, carries the line it stands on: one more than
the line ends before it.

## Main results

* `Version.scan_lossless`: the layout of every scan, and how it ends.
* `Version.scan_stops_on_long_numeral`: a numeral of 4301 digits stops the scan.
* `Version.scan_lines_exact`: the line of every token and every report.
* `Lexicon.full_quote`: in versions 4 and 5 a quote that another quote follows on its line
  opens a string; only a quote left open on its line is a token of its own.

## Proof strategy

`Lexicon.scan_lays` lays every scan out in pieces, each made by one step of the scan. What
remains is to read each kind of piece in the words of the lexicons: their blanks, the rules that
drop what they take, the numbers they read, the rules of versions 4 and 5 that stay on their line.
-/
namespace MatrixLang

open Lexicon

/-! ### Values of tokens -/

/-- The value a token of a version takes from its text: the whole number of an `INTNUM`, the
double of a `FLOATNUM` (its text in version 4), and the text itself for every other kind. -/
def Version.valueOf (v : Version) (kind : String) (cs : List Char) : Payload :=
  if kind = "INTNUM" then .int (Digits.toNat cs)
  else if kind = "FLOATNUM" ∧ v ≠ .v4 then .float (Reading.readDecimal cs)
  else .text (String.ofList cs)

namespace Version

@[simp] theorem valueOf_int (v : Version) (cs : List Char) :
    v.valueOf "INTNUM" cs = .int (Digits.toNat cs) := by
  simp [valueOf]

@[simp] theorem valueOf_float (v : Version) (cs : List Char) :
    v.valueOf "FLOATNUM" cs =
      if v = .v4 then .text (String.ofList cs) else .float (Reading.readDecimal cs) := by
  cases v <;> simp [valueOf]

theorem valueOf_plain (v : Version) {kind : String} (cs : List Char)
    (plain : kind ≠ "INTNUM" ∧ kind ≠ "FLOATNUM") : v.valueOf kind cs = .text (String.ofList cs) := by
  simp [valueOf, plain.1, plain.2]

/-- A name is never read as a number, whichever keyword it is. -/
theorem valueOf_identifier (v : Version) {words : List (String × String)}
    (plain : ∀ w ∈ words, w.2 ≠ "INTNUM" ∧ w.2 ≠ "FLOATNUM") (text : String) (cs : List Char) :
    v.valueOf ((identifiers words).kindOf "ID" text) cs = .text (String.ofList cs) := by
  apply v.valueOf_plain cs
  unfold Rule.kindOf
  split
  · next k found =>
    obtain ⟨pre, post, split_, -⟩ := List.lookup_eq_some_iff.1 found
    have member : (text, k) ∈ (identifiers words).keywords := by simp [split_]
    exact plain _ member
  · decide

end Version

theorem Lexicon.identifiers_role (words : List (String × String)) :
    (identifiers words).role = .emit "ID" .text false := rfl

theorem Lexicon.operator_role (kind spelling : String) :
    (operator kind spelling).role = .emit kind .text false := rfl

/-- A rule without keywords keeps the kind of its tokens. -/
theorem Rule.kindOf_plain (r : Rule) (plain : r.keywords = []) (kind text : String) :
    r.kindOf kind text = kind := by
  simp [Rule.kindOf, plain]

/-! ### The rules of each version -/

namespace Version

theorem wellFormed (v : Version) : v.lexicon.Sound ∧ v.lexicon.Tallies := by
  cases v
  · exact v1_wellFormed
  · exact v1Named_wellFormed
  · exact v1_wellFormed
  · exact v3_wellFormed
  · exact full_wellFormed _
  · exact full_wellFormed _

theorem blanks_eq (v : Version) : v.lexicon.blanks = [' ', '\t'] := by
  cases v <;> rfl

/-- The rules that drop what they take are the comments and the line ends. -/
theorem dropped_pattern (v : Version) : ∀ r ∈ v.lexicon.rules, ∀ l, r.role = .drop l →
    r.pattern = Pattern.comment ∨ r.pattern = Pattern.lineEnds := by
  cases v <;> simp [lexicon, Lexicon.v1, Lexicon.v1Named, Lexicon.v3, Lexicon.v4, Lexicon.v5,
    Lexicon.full, dotted, comparisons, operator, identifiers, integers, decimals, comments,
    Lexicon.lineEnds]

/-- The rule that reads whole numbers takes a run of digits. -/
theorem integer_pattern (v : Version) : ∀ r ∈ v.lexicon.rules, ∀ kind l,
    r.role = .emit kind .integer l → r.pattern = Pattern.digitRun := by
  cases v <;> simp [lexicon, Lexicon.v1, Lexicon.v1Named, Lexicon.v3, Lexicon.v4, Lexicon.v5,
    Lexicon.full, dotted, comparisons, operator, identifiers, integers, decimals, comments,
    Lexicon.lineEnds]

/-- Each rule reads the value of its tokens as `valueOf` says. -/
theorem rule_value (v : Version) : ∀ r ∈ v.lexicon.rules, ∀ kind reading l,
    r.role = .emit kind reading l → ∀ cs,
      reading.read cs = v.valueOf (r.kindOf kind (String.ofList cs)) cs := by
  cases v <;> simp [lexicon, Lexicon.v1, Lexicon.v1Named, Lexicon.v3, Lexicon.v4, Lexicon.v5,
    Lexicon.full, dotted, comparisons, operator, identifiers_role, integers, decimals, comments,
    Lexicon.lineEnds, keywords, valueOf_identifier, valueOf_plain, Reading.read, Rule.kindOf_plain]

/-- No rule of versions 4 and 5 that makes tokens counts line ends. -/
theorem full_quiet (v : Version) (full : v = .v4 ∨ v = .v5) : ∀ r ∈ v.lexicon.rules,
    ∀ kind reading l, r.role = .emit kind reading l → l = false := by
  rcases full with rfl | rfl <;> simp [lexicon, Lexicon.v4, Lexicon.v5, Lexicon.full, dotted,
    operator_role, identifiers_role, integers, decimals, comments, Lexicon.lineEnds]

/-- Only version `1m` halts on a bad character. -/
theorem halts_only_named (v : Version) (halt : v.lexicon.onBad = .halt) : v = .v1Named := by
  cases v <;> simp_all [lexicon, Lexicon.v1, Lexicon.v3, Lexicon.v4, Lexicon.v5, Lexicon.full]

end Version

/-! ### What a scan leaves out -/

namespace Lexicon

/-- A comment: `#` and the rest of its line; the end of the line, if any, comes right after. -/
def IsComment (cs after : List Char) : Prop :=
  ∃ body, cs = '#' :: body ∧ '\n' ∉ body ∧ ∀ x ∈ after.head?, x = '\n'

/-- A run of line ends that the text after it does not go on. -/
def IsLineRun (cs after : List Char) : Prop :=
  cs ≠ [] ∧ (∀ x ∈ cs, x = '\n') ∧ ∀ x ∈ after.head?, x ≠ '\n'

/-- What a `countWhile` run takes from `cs ++ after`, when it takes `cs`: all of `cs` passes the
test, and the first character of `after` fails it. -/
theorem countWhile_split {p : Char → Bool} {cs after : List Char}
    (length : Pattern.countWhile p (cs ++ after) = cs.length) :
    (∀ x ∈ cs, p x) ∧ ∀ x ∈ after.head?, p x = false := by
  have taken : cs = (cs ++ after).takeWhile p := by
    rw [← Pattern.take_countWhile, length, List.take_left' rfl]
  have left : after = (cs ++ after).drop (Pattern.countWhile p (cs ++ after)) := by
    rw [length, List.drop_left' rfl]
  refine ⟨fun x member => ?_, fun x head => ?_⟩
  · rw [taken] at member
    exact List.all_eq_true.1 List.all_takeWhile x member
  · rw [left] at head
    exact Pattern.head_drop_countWhile p _ x head

theorem comment_shape {cs after : List Char}
    (applies : Pattern.comment (cs ++ after) = some cs.length) : IsComment cs after := by
  unfold Pattern.comment at applies
  split at applies
  · next rest whole =>
    cases cs with
    | nil => simp at applies
    | cons c body =>
      -- the comment is `#` and the part of its line that `countWhile` takes
      obtain ⟨rfl, rfl⟩ := List.cons.inj whole
      have length : Pattern.countWhile (· != '\n') (body ++ after) = body.length := by
        simp at applies
        omega
      obtain ⟨inside, next⟩ := countWhile_split length
      exact ⟨body, rfl, fun member => by simpa using inside _ member, fun x head => by
        simpa using next x head⟩
  · cases applies

theorem lineEnds_shape {cs after : List Char}
    (applies : Pattern.lineEnds (cs ++ after) = some cs.length) : IsLineRun cs after := by
  simp only [Pattern.lineEnds] at applies
  split at applies
  · next pos =>
    have length : Pattern.countWhile (· == '\n') (cs ++ after) = cs.length := by
      simpa using applies
    rw [length] at pos
    obtain ⟨inside, next⟩ := countWhile_split length
    exact ⟨List.ne_nil_of_length_pos pos, fun x member => by simpa using inside x member,
      fun x head => by simpa using next x head⟩
  · cases applies

theorem digitRun_shape {cs after : List Char}
    (applies : Pattern.digitRun (cs ++ after) = some cs.length) :
    (∀ x ∈ cs, Digits.isDigit x) ∧ ∀ x ∈ after.head?, Digits.isDigit x = false := by
  simp only [Pattern.digitRun] at applies
  split at applies
  · exact countWhile_split (by simpa using applies)
  · cases applies

end Lexicon

/-! ### The pieces of a layout, in the words of the versions -/

/-- A character that no blank, rule or literal of the version accepts in front of `after`. -/
def Version.Refused (v : Version) (c : Char) (after : List Char) : Prop :=
  c ≠ ' ' ∧ c ≠ '\t' ∧ c ∉ v.lexicon.literals ∧ ∀ r ∈ v.lexicon.rules, r.pattern (c :: after) = none

/-- What a version's scan may make of a stretch of text, `after` being the text behind it: a
space or a tab; a comment or a run of line ends; a token whose value is read from its non-empty
text; a character that nothing accepts, reported by every version but the one that halts. -/
def Lexicon.Piece.Fits (v : Version) : Piece → List Char → Prop
  | .blank c, _ => c = ' ' ∨ c = '\t'
  | .dropped cs, after => IsComment cs after ∨ IsLineRun cs after
  | .token t cs, _ => cs ≠ [] ∧ t.value = v.valueOf t.kind cs
  | .bad c _, after => v ≠ .v1Named ∧ v.Refused c after

/-- A layout of the text `src` by a version: pieces that spell the text up to the unread `rest`,
each fitting its place, each token recording the offset where its text starts. -/
structure Version.Layout (v : Version) (src : List Char) (ps : List Piece) (rest : List Char) :
    Prop where
  spells : src = spell ps ++ rest
  fits : Everywhere (fun _ p after => p.Fits v after) ps rest
  placed : Everywhere (fun before p _ => ∀ t cs, p = .token t cs → t.offset = before.length) ps rest

/-- How the scan of a version ends, the unread `rest` starting at `offset`: at the end of the text;
on a whole number of more than `numeralLimit` digits, which cannot be read; or, in the version
that halts on a bad character, on the first one, at its offset. -/
def Version.Ends (v : Version) (offset : Nat) : Option Stop → List Char → Prop
  | none, rest => rest = []
  | some (.longNumeral n), rest => numeralLimit < n ∧ ∃ digits after, rest = digits ++ after ∧
    digits.length = n ∧ (∀ x ∈ digits, Digits.isDigit x) ∧ ∀ x ∈ after.head?, Digits.isDigit x = false
  | some (.illegal c o), rest => v = .v1Named ∧ o = offset ∧ ∃ after, rest = c :: after ∧ v.Refused c after

/-- Where each token of a layout stands: its offset and the length of its text. -/
def Lexicon.spans (ps : List Piece) : List (Nat × Nat) :=
  ps.filterMap fun
    | .token t cs => some (t.offset, cs.length)
    | _ => none

namespace Version

variable {v : Version}

theorem refused_of_refuses {c : Char} {after : List Char} (refuses : v.lexicon.Refuses c after) :
    v.Refused c after := by
  obtain ⟨unblank, none_, unliteral⟩ := refuses
  rw [v.blanks_eq] at unblank
  refine ⟨fun h => unblank (by simp [h]), fun h => unblank (by simp [h]), unliteral, ?_⟩
  intro r member
  simpa using List.findSome?_eq_none_iff.1 none_ r member

/-- The value of a literal token is its character. -/
theorem literal_value (c : Char) :
    v.valueOf (String.singleton c) [c] = .text (String.singleton c) := by
  have one : (String.singleton c).length = 1 := String.length_singleton
  rw [v.valueOf_plain [c] ⟨fun h => absurd (h ▸ one) (by decide),
    fun h => absurd (h ▸ one) (by decide)⟩, String.singleton_eq_ofList]

theorem fits_of_made {o l : Nat} {p : Piece} {after : List Char}
    (made : p.Made v.lexicon o l after) : p.Fits v after := by
  cases p with
  | blank c =>
    have blank : c ∈ [' ', '\t'] := v.blanks_eq ▸ made
    simpa [Piece.Fits] using blank
  | dropped cs =>
    obtain ⟨r, lines, ⟨c, tail, rfl, -, first⟩, role⟩ := made
    obtain ⟨member, applies⟩ := firstRule_some first
    rcases v.dropped_pattern r member lines role with pattern | pattern
    · exact .inl (comment_shape (pattern ▸ applies))
    · exact .inr (lineEnds_shape (pattern ▸ applies))
  | token t cs =>
    rcases made with ⟨r, kind, reading, lines, ⟨c, tail, rfl, -, first⟩, role, -, rfl⟩ |
      ⟨c, rfl, -, -, -, rfl⟩
    · exact ⟨by simp, v.rule_value r (firstRule_some first).1 kind reading lines role _⟩
    · exact ⟨by simp, (literal_value c).symm⟩
  | bad c line =>
    obtain ⟨refuses, ⟨lead, report⟩, -⟩ := made
    refine ⟨?_, refused_of_refuses refuses⟩
    rintro rfl
    simp [lexicon, Lexicon.v1Named] at report

theorem ends_of_halts {o : Nat} {stop : Option Stop} {rest : List Char}
    (halts : v.lexicon.Halts o stop rest) : v.Ends o stop rest := by
  match stop, halts with
  | none, halts => exact halts
  | some (.longNumeral n), ⟨lexeme, after, r, kind, l, split, length, long, opens, role⟩ =>
    obtain ⟨c, tail, rfl, -, first⟩ := opens
    obtain ⟨member, applies⟩ := firstRule_some first
    obtain ⟨digits, next⟩ := digitRun_shape (v.integer_pattern r member kind l role ▸ applies)
    exact ⟨long, _, after, split, length, digits, next⟩
  | some (.illegal c o'), ⟨after, split, refuses, halt, offset⟩ =>
    exact ⟨halts_only_named v halt, offset, after, split, refused_of_refuses refuses⟩

/-- A token made at an offset and a line records them. -/
theorem token_made {lx : Lexicon} {o l : Nat} {t : Token} {cs after : List Char}
    (made : (Piece.token t cs).Made lx o l after) : t.offset = o ∧ t.line = l := by
  rcases made with ⟨-, -, -, -, -, -, -, rfl⟩ | ⟨-, -, -, -, -, rfl⟩ <;> exact ⟨rfl, rfl⟩

/-- A report made on a line names it. -/
theorem bad_made {lx : Lexicon} {o l line : Nat} {c : Char} {after : List Char}
    (made : (Piece.bad c line).Made lx o l after) : line = l :=
  made.2.2

/-- In versions 4 and 5 a token holds no line end. -/
theorem token_on_line (tallies : v.lexicon.Tallies) (full : v = .v4 ∨ v = .v5) {o l : Nat}
    {t : Token} {cs after : List Char} (made : (Piece.token t cs).Made v.lexicon o l after) :
    '\n' ∉ cs := by
  rcases made with ⟨r, kind, reading, lines, ⟨c, tail, rfl, -, first⟩, role, -, -⟩ |
    ⟨c, rfl, -, -, literal, -⟩
  · obtain ⟨member, applies⟩ := firstRule_some first
    have quiet : r.role.counts = false := by
      simp [Role.counts, role, v.full_quiet full r member kind reading lines role]
    simpa [List.take_left'] using tallies.quiet r member quiet _ _ applies
  · intro newline
    simp only [List.mem_singleton] at newline
    exact tallies.unliteral (newline ▸ literal)

/-- A layout of a scan, read in the words of the version. -/
theorem layout_of_lays {src : List Char} {s : Scan} {ps : List Piece} {rest : List Char}
    (lays : v.lexicon.Lays src 0 1 [] s ps rest) : v.Layout src ps rest where
  spells := lays.spells
  fits := lays.made.imp fun _ _ _ made => fits_of_made made
  placed := lays.made.imp fun before p after made t cs piece => by
    subst piece
    simpa using (token_made made).1

end Version

/-! ### Tokens in order -/

namespace Lexicon

/-- Each token of a scan whose events are those of some pieces is the token of one of them. -/
theorem mem_tokens {s : Scan} {ps : List Piece} (events : s.events = ps.filterMap Piece.event?)
    {t : Token} (member : t ∈ s.tokens) : ∃ pre cs post, ps = pre ++ .token t cs :: post := by
  obtain ⟨e, event, found⟩ := List.mem_filterMap.1 member
  rw [events] at event
  obtain ⟨p, piece, seen⟩ := List.mem_filterMap.1 event
  cases e with
  | bad => cases found
  | token t' =>
    cases found
    cases p with
    | token t'' cs =>
      cases seen
      obtain ⟨pre, post, split⟩ := List.append_of_mem piece
      exact ⟨pre, cs, post, split⟩
    | blank | dropped | bad => cases seen

/-- Tokens placed at the offsets where their texts start stand in order, each ending where or
before the next begins. -/
theorem spans_ordered : ∀ (ps : List Piece) (base : Nat) (rest : List Char),
    Everywhere (fun before p _ => ∀ t cs, p = .token t cs → t.offset = base + before.length)
      ps rest →
    (spans ps).Pairwise (fun a b => a.1 + a.2 ≤ b.1) ∧ ∀ s ∈ spans ps, base ≤ s.1
  | [], _, _, _ => by simp [spans]
  | p :: ps, base, rest, placed => by
    -- the pieces after `p` are placed from where `p` ends
    have later := spans_ordered ps (base + p.text.length) rest (placed.tail.imp
      fun before q _ at_ t cs piece => by simpa [Nat.add_assoc] using at_ t cs piece)
    cases p with
    | token t cs =>
      have first : t.offset = base := by simpa using placed.head t cs rfl
      simp only [spans, List.filterMap_cons, List.pairwise_cons, List.mem_cons,
        forall_eq_or_imp] at later ⊢
      refine ⟨⟨fun s member => ?_, later.1⟩, by omega, fun s member => ?_⟩
      · have := later.2 s member
        simp only [Piece.text] at this
        omega
      · have := later.2 s member
        omega
    | blank c | dropped cs | bad c line =>
      simp only [spans, List.filterMap_cons] at later ⊢
      exact ⟨later.1, fun s member => by have := later.2 s member; omega⟩

end Lexicon

/-! ### Quotes and numerals in versions 4 and 5 -/

namespace Lexicon

theorem quote_not_number {q : Char} (quote : q = '"' ∨ q = '\'') (rest : List Char) :
    Pattern.decimalNumber (q :: rest) = none ∧ Pattern.digitRun (q :: rest) = none := by
  have digit : Digits.isDigit q = false := by rcases quote with rfl | rfl <;> decide
  have lead : Pattern.countWhile Digits.isDigit (q :: rest) = 0 := by
    simp [Pattern.countWhile, digit]
  rcases quote with rfl | rfl <;> simp [Pattern.decimalNumber, Pattern.digitRun, lead]

/-- At a quote, double or single, the first rule of versions 4 and 5 that applies is the one for
strings, if any. -/
theorem full_firstRule_at_quote (reading : Reading) {q : Char} (quote : q = '"' ∨ q = '\'')
    (rest : List Char) :
    (full reading).firstRule (q :: rest) = (Pattern.closedOnLine q rest).map
      fun k => (⟨Pattern.quotedLine, .emit "STRING" .text false, []⟩, k + 1) := by
  have numbers := quote_not_number quote rest
  -- the rules before the one for strings refuse a quote; those after it are not reached
  rcases quote with rfl | rfl <;> cases closed : Pattern.closedOnLine _ rest <;>
    simp [firstRule, full, dotted, operator, Pattern.exact, comments, Pattern.comment, decimals,
      integers, numbers, Pattern.quotedLine, closed, identifiers, Pattern.identifier,
      lineEnds, Pattern.lineEnds, Pattern.countWhile]

theorem full_firstRule_quote (reading : Reading) (rest : List Char) :
    (full reading).firstRule ('\'' :: rest) = (Pattern.closedOnLine '\'' rest).map
      fun k => (⟨Pattern.quotedLine, .emit "STRING" .text false, []⟩, k + 1) :=
  full_firstRule_at_quote reading (.inr rfl) rest

/-- A quote in versions 4 and 5: when another quote closes it on its line, the two and what
stands between them are one string token, so a transpose written before a later quote of its line
is read as the start of a string. Only a quote that nothing closes on its line is a token of its
own. -/
theorem full_quote (reading : Reading) (rest : List Char) (offset line : Nat)
    (seen : Array Event) :
    (full reading).scanFrom ('\'' :: rest) offset line seen =
      match Pattern.closedOnLine '\'' rest with
      | some k => (full reading).scanFrom (rest.drop k) (offset + (k + 1)) line
          (seen.push (.token ⟨"STRING", .text (String.ofList ('\'' :: rest.take k)), line, offset⟩))
      | none => (full reading).scanFrom rest (offset + 1) line
          (seen.push (.token ⟨"'", .text "'", line, offset⟩)) := by
  have blanks : (full reading).blanks = [' ', '\t'] := rfl
  have literal : '\'' ∈ (full reading).literals := by simp [full]
  rw [scanFrom, full_firstRule_quote]
  cases closed : Pattern.closedOnLine '\'' rest with
  | none => simp [blanks, literal]
  | some k => simp [blanks, Rule.kindOf, Reading.read]

/-- At a run of digits that starts with a zero, the first rule of versions 4 and 5 that applies
is the one for whole numbers, and it takes the whole run. -/
theorem full_firstRule_numeral (reading : Reading) (rest : List Char)
    (digits : ∀ d ∈ rest, Digits.isDigit d) :
    (full reading).firstRule ('0' :: rest) = some (integers, rest.length + 1) := by
  have all : ∀ d ∈ '0' :: rest, Digits.isDigit d := by
    simpa using ⟨by decide, digits⟩
  have count := Pattern.countWhile_of_all all
  -- a zero starts no operator or comment, and a run of digits alone has no point or exponent
  simp [firstRule, full, dotted, operator, Pattern.exact, comments, Pattern.comment, decimals,
    Pattern.decimalNumber, count, Pattern.exponentLength, integers, Pattern.digitRun]

/-- A text of more than `numeralLimit` digits stops the scan of versions 4 and 5 at once, even
when all but its last digits are zeros. -/
theorem full_scan_long_numeral (reading : Reading) (rest : List Char)
    (digits : ∀ d ∈ rest, Digits.isDigit d) (long : numeralLimit < rest.length + 1) :
    (full reading).scan (String.ofList ('0' :: rest)) =
      ⟨[], some (.longNumeral (rest.length + 1))⟩ := by
  have blanks : (full reading).blanks = [' ', '\t'] := rfl
  rw [scan, String.toList_ofList, scanFrom]
  simp [blanks, full_firstRule_numeral reading rest digits, integers, long]

end Lexicon

/-! ### Main results -/

namespace Version

/-- Tokenization loses nothing. The scan of every version lays its text out in pieces: spaces
and tabs, comments up to the end of their line, runs of line ends, tokens whose values are read
from their own texts, and characters that nothing accepts. The events of the scan are the tokens
and the reports of those pieces, in order, and the tokens stand in order without overlapping.
The scan reads the whole text, unless it stops on a whole number of more than `numeralLimit`
digits, or, in version `1m`, on the first character that nothing accepts. -/
theorem scan_lossless (v : Version) (src : String) :
    ∃ ps rest, v.Layout src.toList ps rest ∧
      (v.lexicon.scan src).events = ps.filterMap Piece.event? ∧
      v.Ends (spell ps).length (v.lexicon.scan src).stop rest ∧
      (spans ps).Pairwise (fun a b => a.1 + a.2 ≤ b.1) ∧ ∀ s ∈ spans ps, 0 < s.2 := by
  obtain ⟨sound, tallies⟩ := v.wellFormed
  obtain ⟨ps, rest, lays⟩ := scan_lays sound tallies src
  have layout := v.layout_of_lays lays
  refine ⟨ps, rest, layout, by simpa using lays.events, ends_of_halts (by simpa using lays.halts),
    (spans_ordered ps 0 rest (layout.placed.imp fun _ _ _ at_ => by simpa using at_)).1, ?_⟩
  intro s member
  obtain ⟨p, piece, found⟩ := List.mem_filterMap.1 member
  obtain ⟨pre, post, split⟩ := List.append_of_mem piece
  cases p with
  | token t cs =>
    cases found
    exact List.length_pos_iff.2 (layout.fits pre _ post split).1
  | blank | dropped | bad => cases found

/-- A numeral of 4300 zeros and a one stops the scan, though its value is one: the limit counts
the digits written, leading zeros included. -/
theorem scan_stops_on_long_numeral :
    Version.v5.lexicon.scan (String.ofList (List.replicate 4300 '0' ++ ['1'])) =
      ⟨[], some (.longNumeral 4301)⟩ := by
  -- the facts about the text hold for any number of zeros, so no proof unfolds 4300 of them
  have digits : ∀ n, ∀ d ∈ List.replicate n '0' ++ ['1'], Digits.isDigit d := by
    intro n d member
    simp only [List.mem_append, List.mem_replicate, List.mem_singleton] at member
    rcases member with ⟨-, rfl⟩ | rfl <;> decide
  have length : ∀ n, (List.replicate n '0' ++ ['1']).length = n + 1 := by simp
  have stops := full_scan_long_numeral .decimal (List.replicate 4299 '0' ++ ['1']) (digits 4299)
    (by rw [length]; decide)
  rw [length] at stops
  exact stops

/-- Line numbers are exact: every token, and every report of a character that nothing accepts,
carries one more than the number of line ends before it in the text. In versions 4 and 5 no token
holds a line end. -/
theorem scan_lines_exact (v : Version) (src : String) :
    (∀ t ∈ (v.lexicon.scan src).tokens, t.line = 1 + (src.toList.take t.offset).count '\n') ∧
    ∃ ps rest, v.Layout src.toList ps rest ∧
      (v.lexicon.scan src).events = ps.filterMap Piece.event? ∧
      Everywhere (fun before p _ => ∀ c line, p = .bad c line → line = 1 + before.count '\n')
        ps rest ∧
      ((v = .v4 ∨ v = .v5) →
        Everywhere (fun _ p _ => ∀ t cs, p = .token t cs → '\n' ∉ cs) ps rest) := by
  obtain ⟨sound, tallies⟩ := v.wellFormed
  obtain ⟨ps, rest, lays⟩ := scan_lays sound tallies src
  have events : (v.lexicon.scan src).events = ps.filterMap Piece.event? := by
    simpa using lays.events
  refine ⟨?_, ps, rest, v.layout_of_lays lays, events, lays.made.imp ?_, fun full => lays.made.imp ?_⟩
  · intro t member
    obtain ⟨pre, cs, post, rfl⟩ := mem_tokens events member
    obtain ⟨offset, line⟩ := token_made (lays.made pre _ post rfl)
    have before : src.toList.take t.offset = spell pre := by
      rw [lays.spells, offset, Nat.zero_add, spell_append, List.append_assoc, List.take_left' rfl]
    rw [line, before]
  · intro before p after made c line piece
    subst piece
    exact bad_made made
  · intro before p after made t cs piece
    subst piece
    exact v.token_on_line tallies full made

end Version

end MatrixLang
