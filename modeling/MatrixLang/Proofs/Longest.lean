import MatrixLang.Proofs.Greedy
import MatrixLang.Proofs.Tokenization

/-!
# Where the first rule takes the longest lexeme

A lexicon tries its rules in order and takes the lexeme of the first that applies, not the
longest; a one-character literal comes only when no rule applies. Whether a scan still takes the
longest lexeme at every token depends on the order of every two rules that can start alike.

Each rule is described by the shape of the lexemes it reads (`Lexicon.Shape`): its pattern, its
regular expression, and what the first character of a lexeme may be (`Lexicon.Lead`). Of two
rules in order, the first beats the second (`Shape.beats`) when no lexeme of one starts like a
lexeme of the other, or when the first, wherever it applies, takes at least what the second
matches: a word against a longer word that does not extend it, a number against its digits,
`.+` against a number with a point. The check is computed over every two rules of each version.

It passes everywhere but in two places. In versions 1 and 2 the rules for `<` and `>` come ahead
of those for `<=` and `>=`, so `<=` reads as `<` and then `=`. In versions 4 and 5 a string ends
at the first quote that closes it on its line, where its expression matches on to a later quote.

## Main results

* `Version.token_longest`: at every token, no rule or literal of the version matches a longer
  prefix of the text than the token's own, but in those two places.
* `Version.scan_longest_match`: the same at every token of every scan.
* `Version.v1_lessThan_first`, `Version.lessEqual_splits`: versions 1 and 2 read `<=` as `<` and
  then `=`.

## Proof strategy

The first rule that applies is the first shape that applies (`Version.firstRule_shapes`). A shape
before it does not apply, so its expression matches nothing there (`Shape.covers`); the shape
itself takes its longest match (`Shape.longest`); a shape after it is beaten by it
(`Shape.beats_sound`) unless the pair is one of the two exceptions.
-/
namespace MatrixLang

namespace Lexicon

/-! ### The first character of a lexeme -/

theorem char_le_iff (a b : Char) : a ≤ b ↔ a.toNat ≤ b.toNat := by
  rw [Char.le_def, UInt32.le_iff_toNat_le, Char.toNat_val, Char.toNat_val]

/-- A name starts with an ASCII letter or `_`, which is a digit of no script. -/
theorem nameStart_not_digit {c : Char} (starts : Regex.nameStart c = true) :
    Digits.isDigit c = false := by
  -- in code points: `c` is below `0x80`, where only `0`–`9` are digits, and it is none of them
  simp only [Regex.nameStart, decide_eq_true_eq, char_le_iff, ← Char.toNat_inj] at starts
  simp only [Digits.isDigit, Digits.value?, char_le_iff]
  simp at starts ⊢
  split <;> simp <;> omega

theorem nameStart_not_point {c : Char} (starts : Regex.nameStart c = true) : c ≠ '.' := by
  rintro rfl
  exact absurd starts (by decide)

/-- What the first character of a lexeme may be. -/
inductive Lead where
  /-- One of these characters. -/
  | chars (cs : List Char)
  | nameStart
  | digit
  | digitOrPoint
  deriving DecidableEq

namespace Lead

def admits : Lead → Char → Bool
  | chars cs, c => cs.contains c
  | nameStart, c => Regex.nameStart c
  | digit, c => Digits.isDigit c
  | digitOrPoint, c => Digits.isDigit c || c == '.'

/-- A check that no character is admitted by both. -/
def apart : Lead → Lead → Bool
  | chars l, b => l.all fun c => !b.admits c
  | a, chars l => l.all fun c => !a.admits c
  | nameStart, digit | nameStart, digitOrPoint | digit, nameStart | digitOrPoint, nameStart => true
  | _, _ => false

theorem apart_sound {a b : Lead} {c : Char} (apart : a.apart b = true)
    (admitted : a.admits c = true) : b.admits c = false := by
  cases a with
  | chars l =>
    simp only [Lead.apart, List.all_eq_true, Bool.not_eq_eq_eq_not, Bool.not_true] at apart
    exact apart c (by simpa [admits] using admitted)
  | nameStart | digit | digitOrPoint =>
    cases b with
    | chars l =>
      -- every character listed is refused by `a`, and `c` is not
      simp only [Lead.apart, List.all_eq_true, Bool.not_eq_eq_eq_not, Bool.not_true] at apart
      rw [admits, Bool.eq_false_iff]
      intro contained
      rw [apart c (by simpa using contained)] at admitted
      cases admitted
    | nameStart | digit | digitOrPoint =>
      -- of two classes, only names and numbers are apart
      cases starts : Regex.nameStart c <;>
        simp_all [Lead.apart, Lead.admits, nameStart_not_digit, nameStart_not_point]

end Lead

/-! ### Shapes of lexemes -/

/-- The kind of lexeme a rule reads. -/
inductive Shape where
  /-- The characters of a word. -/
  | exact (s : String)
  | identifier
  | digits
  | decimal
  | comment
  | lineEnds
  | escapedString
  | quotedLine
  deriving DecidableEq

namespace Shape

def pattern : Shape → Pattern
  | exact s => Pattern.exact s
  | identifier => Pattern.identifier
  | digits => Pattern.digitRun
  | decimal => Pattern.decimalNumber
  | comment => Pattern.comment
  | lineEnds => Pattern.lineEnds
  | escapedString => Pattern.escapedString
  | quotedLine => Pattern.quotedLine

/-- The regular expression the rule is written with. -/
def regex : Shape → Regex
  | exact s => .word s.toList
  | identifier => Regex.identifier
  | digits => Regex.digits
  | decimal => Regex.decimal
  | comment => Regex.comment
  | lineEnds => Regex.lineEnds
  | escapedString => Regex.escapedString
  | quotedLine => Regex.quotedLine

def lead : Shape → Lead
  | exact s => .chars (s.toList.take 1)
  | identifier => .nameStart
  | digits => .digit
  | decimal => .digitOrPoint
  | comment => .chars ['#']
  | lineEnds => .chars ['\n']
  | escapedString => .chars ['"']
  | quotedLine => .chars ['"', '\'']

/-- A word of at least one character; the other shapes never read nothing. -/
def sane : Shape → Bool
  | exact s => !s.toList.isEmpty
  | _ => true

theorem pattern_lead {s : Shape} {cs : List Char} {n : Nat} (applies : s.pattern cs = some n) :
    ∃ c rest, cs = c :: rest ∧ s.lead.admits c = true := by
  cases s with
  | exact w =>
    obtain ⟨rfl, pos, taken⟩ := Pattern.exact_take applies
    cases cs with
    | nil =>
      have empty : w.length = 0 := by rw [← String.length_toList, ← taken]; simp
      omega
    | cons c rest =>
      -- the word's first character is `c`
      have first : w.toList.take 1 = [c] := by
        rw [← taken, List.take_take, Nat.min_eq_left pos, List.take_succ_cons, List.take_zero]
      exact ⟨c, rest, rfl, by simp [lead, Lead.admits, first]⟩
  | identifier =>
    cases cs with
    | nil => cases applies
    | cons c rest =>
      rw [pattern, Pattern.identifier_cons] at applies
      split at applies
      · exact ⟨c, rest, rfl, ‹_›⟩
      · cases applies
  | digits => exact Pattern.run_head (fun _ => rfl) applies
  | decimal =>
    obtain ⟨c, rest, rfl, head⟩ := Pattern.decimalNumber_head applies
    exact ⟨c, rest, rfl, by simpa [lead, Lead.admits] using head⟩
  | comment =>
    simp only [pattern] at applies
    unfold Pattern.comment at applies
    split at applies
    · exact ⟨'#', _, rfl, rfl⟩
    · cases applies
  | lineEnds =>
    obtain ⟨c, rest, rfl, newline⟩ := Pattern.run_head (fun _ => rfl) applies
    exact ⟨c, rest, rfl, by simpa [lead, Lead.admits] using newline⟩
  | escapedString =>
    simp only [pattern] at applies
    unfold Pattern.escapedString at applies
    split at applies
    · exact ⟨'"', _, rfl, rfl⟩
    · cases applies
  | quotedLine =>
    simp only [pattern] at applies
    unfold Pattern.quotedLine at applies
    split at applies
    · exact ⟨'"', _, rfl, rfl⟩
    · exact ⟨'\'', _, rfl, rfl⟩
    · cases applies

theorem regex_lead {s : Shape} {w : List Char} (sane : s.sane = true) (matched : s.regex.Matches w) :
    ∃ c rest, w = c :: rest ∧ s.lead.admits c = true := by
  cases s with
  | exact word =>
    simp only [regex, Regex.matches_word] at matched
    subst matched
    cases spelled : word.toList with
    | nil => simp [Shape.sane, spelled] at sane
    | cons c rest => exact ⟨c, rest, rfl, by simp [lead, Lead.admits, spelled]⟩
  | identifier =>
    simp only [regex, Regex.identifier, Regex.matches_seq, Regex.matches_cls] at matched
    obtain ⟨_, rest, rfl, ⟨c, rfl, starts⟩, -⟩ := matched
    exact ⟨c, rest, rfl, starts⟩
  | digits => exact Regex.plus_cls_head matched
  | decimal =>
    obtain ⟨c, rest, rfl, head⟩ := Pattern.decimal_head matched
    refine ⟨c, rest, rfl, ?_⟩
    rcases head with digit | ⟨rfl, -⟩ <;> simp [lead, Lead.admits, *]
  | comment =>
    simp only [regex, Regex.comment, Regex.matches_seq, Regex.matches_char] at matched
    obtain ⟨_, body, rfl, rfl, -⟩ := matched
    exact ⟨'#', body, rfl, rfl⟩
  | lineEnds =>
    obtain ⟨c, rest, rfl, newline⟩ := Regex.plus_cls_head matched
    exact ⟨c, rest, rfl, by simpa [lead, Lead.admits] using newline⟩
  | escapedString =>
    simp only [regex, Regex.escapedString, Regex.matches_seq, Regex.matches_char] at matched
    obtain ⟨_, body, rfl, rfl, -⟩ := matched
    exact ⟨'"', body, rfl, rfl⟩
  | quotedLine =>
    simp only [regex, Regex.quotedLine, Regex.matches_alt, Regex.matches_seq, Regex.matches_char]
      at matched
    rcases matched with ⟨_, body, rfl, rfl, -⟩ | ⟨_, body, rfl, rfl, -⟩
    · exact ⟨'"', body, rfl, rfl⟩
    · exact ⟨'\'', body, rfl, rfl⟩

/-- Every shape but the lazy string takes the longest match of its expression. -/
theorem longest {s : Shape} (sane : s.sane = true) (eager : s ≠ .quotedLine) :
    s.pattern.Longest s.regex := by
  cases s with
  | exact w =>
    have pos : 0 < w.length := by
      rw [← String.length_toList, List.length_pos_iff]
      simpa [Shape.sane] using sane
    exact Pattern.exact_longest pos
  | identifier => exact Pattern.identifier_longest
  | digits => exact Pattern.digitRun_longest
  | decimal => exact Pattern.decimalNumber_longest
  | comment => exact Pattern.comment_longest
  | lineEnds => exact Pattern.lineEnds_longest
  | escapedString => exact Pattern.escapedString_longest
  | quotedLine => exact absurd rfl eager

theorem covers {s : Shape} (sane : s.sane = true) : s.pattern.Covers s.regex := by
  by_cases lazy : s = .quotedLine
  · subst lazy
    exact Pattern.quotedLine_covers
  · exact (longest sane lazy).covers

/-! ### Two shapes in order -/

/-- Where `a` applies, the expression of `b` matches no longer prefix than `a` takes. -/
def Outruns (a b : Shape) : Prop :=
  ∀ cs n pre, a.pattern cs = some n → pre <+: cs → b.regex.Matches pre → pre.length ≤ n

/-- A check that `a` outruns `b`: no lexeme of one starts like one of the other; or `a` is a word
that the word of `b` does not properly extend; or `a` is a point and a character that is no digit,
against a number; or `a` is a number, against its digits. -/
def beats (a b : Shape) : Bool :=
  a.lead.apart b.lead ||
    match a, b with
    | exact s, exact s' => !(s.toList.isPrefixOf s'.toList) || s.toList == s'.toList
    | exact s, decimal =>
      match s.toList with
      | ['.', x] => !Digits.isDigit x
      | _ => false
    | decimal, digits => true
    | _, _ => false

theorem apart_outruns {a b : Shape} (sane : b.sane = true) (apart : a.lead.apart b.lead = true) :
    a.Outruns b := by
  intro cs n pre applies prefix_ matched
  obtain ⟨c, rest, rfl, first⟩ := pattern_lead applies
  obtain ⟨c', rest', rfl, first'⟩ := regex_lead sane matched
  obtain ⟨rfl, -⟩ := List.cons_prefix_cons.1 prefix_
  rw [Lead.apart_sound apart first] at first'
  cases first'

/-- Two words that both start the text: the shorter is a prefix of the longer. -/
theorem exact_outruns_exact {s s' : String}
    (check : (!(s.toList.isPrefixOf s'.toList) || s.toList == s'.toList) = true) :
    (exact s).Outruns (exact s') := by
  intro cs n pre applies prefix_ matched
  obtain ⟨rfl, -, taken⟩ := Pattern.exact_take applies
  simp only [regex, Regex.matches_word] at matched
  subst matched
  have word : s.toList <+: cs := taken ▸ List.take_prefix _ _
  rw [← String.length_toList]
  rcases List.prefix_or_prefix_of_prefix word prefix_ with shorter | longer
  · -- `s` starts `s'`, so the check says they are the same word
    have same : s.toList = s'.toList := by
      simpa [List.isPrefixOf_iff_prefix.2 shorter] using check
    exact Nat.le_of_eq (congrArg List.length same.symm)
  · exact longer.length_le

theorem point_outruns_decimal {s : String} {x : Char} (point : s.toList = ['.', x])
    (letter : Digits.isDigit x = false) : (exact s).Outruns decimal := by
  intro cs n pre applies prefix_ matched
  obtain ⟨rfl, -, taken⟩ := Pattern.exact_take applies
  have word : ['.', x] <+: cs := point ▸ taken ▸ List.take_prefix _ _
  obtain ⟨t, rfl⟩ := word
  obtain ⟨c, rest, rfl, head⟩ := Pattern.decimal_head matched
  obtain ⟨rfl, behind⟩ := List.cons_prefix_cons.1 prefix_
  -- a number that starts with a point has a digit behind it, and `x` is none
  rcases head with digit | ⟨-, d, r, rfl, digit⟩
  · exact absurd digit (by decide)
  · obtain ⟨rfl, -⟩ := List.cons_prefix_cons.1 behind
    rw [letter] at digit
    cases digit

theorem decimal_outruns_digits : decimal.Outruns digits := by
  intro cs n pre applies prefix_ matched
  obtain ⟨-, all⟩ := Regex.matches_plus_cls.1 matched
  exact Nat.le_trans (Pattern.countWhile_ge all prefix_) (Pattern.lead_le_decimalNumber applies)

theorem beats_sound {a b : Shape} (sane : b.sane = true) (beats : a.beats b = true) :
    a.Outruns b := by
  rcases Bool.or_eq_true_iff.1 beats with apart | special
  · exact apart_outruns sane apart
  · cases a <;> cases b <;> simp only [Bool.false_eq_true] at special
    · exact exact_outruns_exact special
    · split at special
      · exact point_outruns_decimal ‹_› (by simpa using special)
      · cases special
    · exact decimal_outruns_digits

end Shape

end Lexicon

/-- The length the first rule takes is what the first pattern that applies takes. -/
theorem Lexicon.firstRule_snd (lx : Lexicon) (cs : List Char) :
    (lx.firstRule cs).map Prod.snd = (lx.rules.map Rule.pattern).findSome? (· cs) := by
  unfold Lexicon.firstRule
  induction lx.rules with
  | nil => rfl
  | cons r rules ih =>
    cases applies : r.pattern cs <;> simp [applies, ih]

/-! ### The rules of each version -/

namespace Version

open Lexicon

/-- The words of the element-wise and compound-assignment operators. -/
def dottedShapes : List Shape :=
  [.exact ".+", .exact ".-", .exact ".*", .exact "./", .exact "+=", .exact "-=", .exact "*=",
   .exact "/="]

/-- The shapes of a version's rules, in order. -/
def shapes : Version → List Shape
  | .v1 | .v2 => dottedShapes ++ [.exact "<", .exact ">"] ++
      [.exact "<=", .exact ">=", .exact "==", .exact "!="] ++
      [.identifier, .escapedString, .decimal, .digits, .comment, .lineEnds]
  | .v1Named =>
    [.exact "+", .exact "-", .exact "*", .exact "/", .exact "==", .exact "<=", .exact "<",
     .exact ">=", .exact ">", .exact "!=", .exact ".+", .exact ".-", .exact ".*", .exact "./",
     .digits, .identifier, .comment, .lineEnds]
  | .v3 => dottedShapes ++ [.exact "<=", .exact ">=", .exact "==", .exact "!="] ++
      [.identifier, .escapedString, .decimal, .digits, .comment, .lineEnds]
  | .v4 | .v5 => [.comment] ++ dottedShapes ++ [.exact "<=", .exact ">=", .exact "!=", .exact "=="] ++
      [.decimal, .digits, .quotedLine, .identifier, .lineEnds]

/-- The regular expressions of a version's rules, in order. -/
def regexes (v : Version) : List Regex := v.shapes.map Shape.regex

/-- Each rule reads with the pattern of its shape. -/
theorem patterns_eq (v : Version) :
    v.lexicon.rules.map Rule.pattern = v.shapes.map Shape.pattern := by
  cases v <;> rfl

/-- The two pairs of rules in order where the first does not take the longest lexeme: `<` and `>`
ahead of `<=` and `>=` in versions 1 and 2. -/
def exempt (v : Version) (a b : Shape) : Bool :=
  (v == .v1 || v == .v2) &&
    (a == .exact "<" && b == .exact "<=" || a == .exact ">" && b == .exact ">=")

theorem shapes_sane (v : Version) : ∀ s ∈ v.shapes, s.sane = true := by
  cases v <;> decide

/-- Each rule beats every rule behind it, but in the exempt pairs. -/
theorem shapes_ordered (v : Version) :
    v.shapes.Pairwise fun a b => a.beats b = true ∨ v.exempt a b = true := by
  cases v <;> decide

/-- The length the first rule takes is what the first shape that applies takes. -/
theorem firstRule_shapes (v : Version) {cs : List Char} {r : Rule} {n : Nat}
    (first : v.lexicon.firstRule cs = some (r, n)) :
    v.shapes.findSome? (·.pattern cs) = some n := by
  have taken := v.lexicon.firstRule_snd cs
  rw [first, patterns_eq, List.findSome?_map] at taken
  exact taken.symm

/-- Where the first rule of a version takes `n` characters, the expression of every rule matches
at most `n` of them, unless the first rule's shape and the other make an exempt pair, or the first
rule reads lazy strings. -/
theorem first_outruns (v : Version) {cs : List Char} {r : Rule} {n : Nat}
    (first : v.lexicon.firstRule cs = some (r, n)) :
    ∃ s ∈ v.shapes, s.pattern cs = some n ∧ ∀ u ∈ v.shapes, ∀ pre, pre <+: cs →
      u.regex.Matches pre → pre.length ≤ n ∨ v.exempt s u = true ∨ s = .quotedLine := by
  obtain ⟨before, s, behind, split, applies, missed⟩ :=
    List.findSome?_eq_some_iff.1 (v.firstRule_shapes first)
  have ordered := v.shapes_ordered
  rw [split, List.pairwise_append, List.pairwise_cons] at ordered
  refine ⟨s, by simp [split], applies, fun u member pre prefix_ matched => ?_⟩
  have sane := v.shapes_sane u member
  rw [split, List.mem_append, List.mem_cons] at member
  rcases member with early | rfl | late
  · -- a shape tried earlier applies wherever its expression matches, and it did not apply
    exact absurd (missed u early) (Shape.covers sane cs pre prefix_ matched)
  · by_cases lazy : u = .quotedLine
    · exact .inr (.inr lazy)
    · obtain ⟨m, again, longer⟩ := Shape.longest sane lazy cs pre prefix_ matched
      rw [applies] at again
      cases again
      exact .inl longer
  · rcases ordered.2.1.1 u late with beats | exempt
    · exact .inl (Shape.beats_sound sane beats cs n pre applies prefix_ matched)
    · exact .inr (.inl exempt)

/-- Every shape of a version is that of one of its rules. -/
theorem shape_rule (v : Version) {u : Shape} (member : u ∈ v.shapes) :
    ∃ r ∈ v.lexicon.rules, r.pattern = u.pattern := by
  have listed : u.pattern ∈ v.lexicon.rules.map Rule.pattern := by
    rw [patterns_eq]
    exact List.mem_map_of_mem member
  exact List.mem_map.1 listed

/-! ### Where the first rule is not the longest -/

/-- Where a version's scan does not take the longest lexeme: at a string in versions 4 and 5,
and at `<` or `>` before `=` in versions 1 and 2. -/
def Unmunched (v : Version) (t : Token) (cs after : List Char) : Prop :=
  ((v = .v4 ∨ v = .v5) ∧ t.kind = "STRING") ∨
    ((v = .v1 ∨ v = .v2) ∧ (cs = ['<'] ∨ cs = ['>']) ∧ after.head? = some '=')

/-- A rule took the one character of its word, where the text goes on as a longer word. -/
theorem exact_then {s w : String} {x y : Char} {cs after pre : List Char}
    (single : s.toList = [x]) (pair : w.toList = [x, y])
    (applies : Pattern.exact s (cs ++ after) = some cs.length) (prefix_ : pre <+: cs ++ after)
    (matched : (Regex.word w.toList).Matches pre) : cs = [x] ∧ after.head? = some y := by
  obtain ⟨-, -, taken⟩ := Pattern.exact_take applies
  rw [List.take_left' rfl, single] at taken
  subst taken
  rw [Regex.matches_word, pair] at matched
  subst matched
  obtain ⟨t, split⟩ := prefix_
  simp only [List.cons_append, List.nil_append, List.cons.injEq, true_and] at split
  exact ⟨rfl, by simp [← split]⟩

theorem exempt_splits {v : Version} {s u : Shape} {cs after pre : List Char}
    (exempt : v.exempt s u = true) (applies : s.pattern (cs ++ after) = some cs.length)
    (prefix_ : pre <+: cs ++ after) (matched : u.regex.Matches pre) :
    (v = .v1 ∨ v = .v2) ∧ (cs = ['<'] ∨ cs = ['>']) ∧ after.head? = some '=' := by
  simp only [Version.exempt, Bool.and_eq_true, Bool.or_eq_true, beq_iff_eq] at exempt
  obtain ⟨version, pair⟩ := exempt
  refine ⟨version, ?_⟩
  rcases pair with ⟨rfl, rfl⟩ | ⟨rfl, rfl⟩
  · obtain ⟨single, follows⟩ := exact_then rfl rfl applies prefix_ matched
    exact ⟨Or.inl single, follows⟩
  · obtain ⟨single, follows⟩ := exact_then rfl rfl applies prefix_ matched
    exact ⟨Or.inr single, follows⟩

theorem quotedLine_later (v : Version) : Shape.quotedLine ∈ v.shapes → v = .v4 ∨ v = .v5 := by
  cases v <;> decide

/-- Where the lazy string is the first shape that applies, the first rule is the one for
strings. -/
theorem lazy_string {v : Version} {cs : List Char} {r : Rule} {n : Nat}
    (later : v = .v4 ∨ v = .v5) (first : v.lexicon.firstRule cs = some (r, n))
    (applies : Shape.quotedLine.pattern cs = some n) :
    r = ⟨Pattern.quotedLine, .emit "STRING" .text false, []⟩ := by
  obtain ⟨q, rest, rfl, quote⟩ := Shape.pattern_lead applies
  have quote' : q = '"' ∨ q = '\'' := by simpa [Shape.lead, Lead.admits] using quote
  obtain ⟨reading, same⟩ : ∃ reading, v.lexicon = full reading := by
    rcases later with rfl | rfl
    exacts [⟨_, rfl⟩, ⟨_, rfl⟩]
  rw [same, full_firstRule_at_quote reading quote' rest] at first
  obtain ⟨k, -, found⟩ := Option.map_eq_some_iff.1 first
  cases found
  rfl

/-- At every token a scan makes, no rule or literal of the version matches a longer prefix of the
text than the token's own, but at a lazy string and where versions 1 and 2 read `<` or `>` before
`=`. -/
theorem token_longest (v : Version) {o l : Nat} {t : Token} {cs after : List Char}
    (made : (Piece.token t cs).Made v.lexicon o l after) :
    ∀ R ∈ v.regexes ++ v.lexicon.literals.map Regex.char, ∀ pre, pre <+: cs ++ after →
      R.Matches pre → pre.length ≤ cs.length ∨ v.Unmunched t cs after := by
  intro R member pre prefix_ matched
  -- a literal's expression matches one character, and every token has at least one
  have literal_short : ∀ d ∈ v.lexicon.literals, R = Regex.char d → cs ≠ [] →
      pre.length ≤ cs.length := by
    rintro d - rfl nonempty
    rw [Regex.matches_char] at matched
    subst matched
    exact List.length_pos_iff.2 nonempty
  rcases made with ⟨r, kind, reading, lines, ⟨c, tail, rfl, -, first⟩, role, -, rfl⟩ |
    ⟨c, rfl, -, none_, -, rfl⟩
  · rcases List.mem_append.1 member with rule | literal
    · obtain ⟨u, shaped, rfl⟩ := List.mem_map.1 rule
      obtain ⟨s, member_s, applies, outruns⟩ := v.first_outruns first
      rcases outruns u shaped pre prefix_ matched with longer | exempt | rfl
      · exact .inl longer
      · exact .inr (Or.inr (exempt_splits exempt applies prefix_ matched))
      · -- the token is a string
        have later := quotedLine_later v member_s
        cases lazy_string later first applies
        cases role
        exact .inr (Or.inl ⟨later, rfl⟩)
    · obtain ⟨d, listed, same⟩ := List.mem_map.1 literal
      exact .inl (literal_short d listed same.symm (List.cons_ne_nil c tail))
  · rcases List.mem_append.1 member with rule | literal
    · -- no rule applies at a literal, so no rule's expression matches there
      obtain ⟨u, shaped, rfl⟩ := List.mem_map.1 rule
      obtain ⟨r, ruled, same⟩ := v.shape_rule shaped
      have covered := Shape.covers (v.shapes_sane u shaped) _ pre prefix_ matched
      rw [← same] at covered
      exact absurd none_ (Lexicon.firstRule_ne_none ruled covered)
    · obtain ⟨d, listed, same⟩ := List.mem_map.1 literal
      exact .inl (literal_short d listed same.symm (List.cons_ne_nil c []))

/-! ### Main results -/

/-- Longest match, but in two places. The scan of every version lays its text out in pieces, as
`scan_lossless` describes, and at every token no rule or literal of the version matches a longer
prefix of the text than the token's own, though the rule taken is the first that applies and not
the longest. The two exceptions: a string in versions 4 and 5, which ends at the first quote that
closes it on its line; and in versions 1 and 2, `<` or `>` before `=`, read as one character
because the rules for `<` and `>` come ahead of those for `<=` and `>=`. -/
theorem scan_longest_match (v : Version) (src : String) :
    ∃ ps rest, v.Layout src.toList ps rest ∧
      (v.lexicon.scan src).events = ps.filterMap Piece.event? ∧
      Everywhere (fun _ p after => ∀ t cs, p = .token t cs →
        ∀ R ∈ v.regexes ++ v.lexicon.literals.map Regex.char, ∀ pre, pre <+: cs ++ after →
          R.Matches pre → pre.length ≤ cs.length ∨ v.Unmunched t cs after) ps rest := by
  obtain ⟨sound, tallies⟩ := v.wellFormed
  obtain ⟨ps, rest, lays⟩ := scan_lays sound tallies src
  refine ⟨ps, rest, v.layout_of_lays lays, by simpa using lays.events, lays.made.imp ?_⟩
  intro before p after made t cs piece
  subst piece
  exact v.token_longest made

/-- In versions 1 and 2, `<` followed by `=` is read as `<` alone, whatever comes after. -/
theorem v1_lessThan_first (rest : List Char) (offset line : Nat) (seen : Array Event) :
    Lexicon.v1.scanFrom ('<' :: '=' :: rest) offset line seen =
      Lexicon.v1.scanFrom ('=' :: rest) (offset + 1) line
        (seen.push (.token ⟨"LT", .text "<", line, offset⟩)) := by
  -- the eight dotted operators refuse `<`; the next rule is the one for `<`
  have first : Lexicon.v1.firstRule ('<' :: '=' :: rest) = some (operator "LT" "<", 1) := rfl
  have blanks : Lexicon.v1.blanks = [' ', '\t'] := rfl
  rw [scanFrom, first]
  simp [blanks, operator, Rule.kindOf, Reading.read]

/-- Version 1 reads `a <= b` as `a`, `<`, `=` and `b`, though the expression of its rule for `<=`
matches both characters. -/
theorem lessEqual_splits :
    Version.v1.lexicon.scan "a <= b" =
      ⟨[.token ⟨"ID", .text "a", 1, 0⟩, .token ⟨"LT", .text "<", 1, 2⟩,
        .token ⟨"=", .text "=", 1, 3⟩, .token ⟨"ID", .text "b", 1, 5⟩], none⟩ ∧
    ∃ R ∈ Version.v1.regexes, R.Matches ['<', '='] := by
  refine ⟨?_, (Shape.exact "<=").regex, List.mem_map_of_mem (by decide), by simp [Shape.regex]⟩
  have text : "a <= b".toList = ['a', ' ', '<', '=', ' ', 'b'] := rfl
  have named : Lexicon.v1.firstRule ['a', ' ', '<', '=', ' ', 'b'] = some (identifiers keywords, 1) ∧
      Lexicon.v1.firstRule ['b'] = some (identifiers keywords, 1) := ⟨rfl, rfl⟩
  have unruled : Lexicon.v1.firstRule ['=', ' ', 'b'] = none := rfl
  have blanks : Lexicon.v1.blanks = [' ', '\t'] := rfl
  have literal : '=' ∈ Lexicon.v1.literals := by decide
  have plain : keywords.lookup "a" = none ∧ keywords.lookup "b" = none := ⟨rfl, rfl⟩
  show Lexicon.v1.scanFrom _ 0 1 #[] = _
  rw [text]
  simp [scanFrom, v1_lessThan_first, named, unruled, blanks, literal, identifiers, Rule.kindOf,
    Reading.read, plain]

end Version

end MatrixLang
