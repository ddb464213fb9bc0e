import MatrixLang.Proofs.Regex
import MatrixLang.Proofs.Lexemes

/-!
# Patterns take the longest match of their expressions

Each pattern of the lexicons reads one regular expression leftmost-first: alternatives in order,
repetitions as far as they go. For every expression but one, that reading is also the longest:
wherever the expression matches a prefix of the text, the pattern applies there and takes at
least as much (`Pattern.Longest`). The exception is the lazy string of versions 4 and 5,
`(".*?")|('.*?')`, which stops at the first closing quote of its line; it still applies wherever
its expression matches (`Pattern.Covers`).

## Main results

* `Pattern.exact_longest`, `identifier_longest`, `digitRun_longest`, `decimalNumber_longest`,
  `comment_longest`, `lineEnds_longest`, `escapedString_longest`: the greedy patterns.
* `Pattern.quotedLine_covers`: the lazy one.

## Proof strategy

A match is cut along its expression (`Regex.matches_seq`, …) into runs of classes of characters.
A run at the start of the text is counted whole by `countWhile` (`countWhile_ge`), and exactly
when the character behind it fails the class (`countWhile_stop`), which is how a number's digits
end at its point or its exponent.
-/
namespace MatrixLang

namespace Pattern

/-- `p` reads the longest prefix that `R` matches: wherever `R` matches a prefix of the text,
`p` applies there and takes at least as much. -/
def Longest (p : Pattern) (R : Regex) : Prop :=
  ∀ cs pre, pre <+: cs → R.Matches pre → ∃ n, p cs = some n ∧ pre.length ≤ n

/-- `p` applies wherever `R` matches a prefix of the text. -/
def Covers (p : Pattern) (R : Regex) : Prop :=
  ∀ cs pre, pre <+: cs → R.Matches pre → p cs ≠ none

theorem Longest.covers {p : Pattern} {R : Regex} (longest : p.Longest R) : p.Covers R := by
  intro cs pre prefix_ matched
  obtain ⟨n, applies, -⟩ := longest cs pre prefix_ matched
  simp [applies]

/-! ### Runs of a class -/

section Runs

variable {p : Char → Bool} {u : List Char}

/-- A run of passing characters at the start of the text is counted whole. -/
theorem countWhile_ge {cs : List Char} (all : ∀ c ∈ u, p c = true) (prefix_ : u <+: cs) :
    u.length ≤ countWhile p cs := by
  obtain ⟨t, rfl⟩ := prefix_
  simp only [countWhile, List.takeWhile_append_of_pos all, List.length_append]
  omega

/-- A run ends at the first character that fails the class. -/
theorem countWhile_stop {x : Char} (all : ∀ c ∈ u, p c = true) (fails : p x = false)
    (t : List Char) : countWhile p (u ++ x :: t) = u.length := by
  simp [countWhile, List.takeWhile_append_of_pos all, fails]

/-- A run that counts something starts with a passing character. -/
theorem countWhile_pos {cs : List Char} (pos : 0 < countWhile p cs) :
    ∃ c rest, cs = c :: rest ∧ p c = true := by
  cases cs with
  | nil => simp [countWhile] at pos
  | cons c rest =>
    cases passes : p c with
    | true => exact ⟨c, rest, rfl, passes⟩
    | false => simp [countWhile, passes] at pos

theorem countWhile_congr {q : Char → Bool} (same : ∀ c, p c = q c) : countWhile p = countWhile q :=
  congrArg countWhile (funext same)

end Runs

/-! ### Words, names, digits, comments and line ends -/

theorem exact_longest {s : String} (nonempty : 0 < s.length) :
    (exact s).Longest (.word s.toList) := by
  intro cs pre prefix_ matched
  rw [Regex.matches_word] at matched
  subst matched
  exact ⟨s.length, by simp [exact, List.isPrefixOf_iff_prefix.2 prefix_, nonempty],
    Nat.le_of_eq String.length_toList⟩

/-- The identifier pattern tests the classes of its expression. -/
theorem identifier_cons (c : Char) (rest : List Char) :
    identifier (c :: rest) =
      if Regex.nameStart c then some (1 + countWhile Regex.nameChar rest) else none := by
  simp only [identifier, Regex.nameStart, decide_eq_true_eq]
  rw [countWhile_congr (q := Regex.nameChar)]
  intro d
  simp [Regex.nameChar, Regex.nameStart, Bool.or_assoc]

theorem identifier_longest : identifier.Longest Regex.identifier := by
  intro cs pre prefix_ matched
  simp only [Regex.identifier, Regex.matches_seq, Regex.matches_cls, Regex.matches_star_cls]
    at matched
  obtain ⟨_, rest, rfl, ⟨c, rfl, starts⟩, continues⟩ := matched
  obtain ⟨t, rfl⟩ := prefix_
  have counted := countWhile_ge continues (List.prefix_append rest t)
  refine ⟨1 + countWhile Regex.nameChar (rest ++ t), ?_, by simp; omega⟩
  simp [identifier_cons, starts]

/-- A pattern that takes the run of a class, if it is not empty, takes the longest match of one or
more characters of the class. -/
theorem run_longest {p : Char → Bool} {P : Pattern}
    (run : ∀ cs, P cs = if countWhile p cs > 0 then some (countWhile p cs) else none) :
    P.Longest (Regex.plus (.cls p)) := by
  intro cs pre prefix_ matched
  obtain ⟨nonempty, all⟩ := Regex.matches_plus_cls.1 matched
  have counted := countWhile_ge all prefix_
  have pos : 0 < pre.length := List.length_pos_iff.2 nonempty
  exact ⟨countWhile p cs, by rw [run, if_pos (by omega)], counted⟩

/-- Such a pattern applies only at a character of its class. -/
theorem run_head {p : Char → Bool} {P : Pattern}
    (run : ∀ cs, P cs = if countWhile p cs > 0 then some (countWhile p cs) else none)
    {cs : List Char} {n : Nat} (applies : P cs = some n) : ∃ c rest, cs = c :: rest ∧ p c = true := by
  rw [run] at applies
  split at applies
  · exact countWhile_pos ‹_›
  · cases applies

theorem digitRun_longest : digitRun.Longest Regex.digits :=
  run_longest fun _ => rfl

theorem comment_longest : comment.Longest Regex.comment := by
  intro cs pre prefix_ matched
  simp only [Regex.comment, Regex.matches_seq, Regex.matches_char, Regex.matches_star_cls]
    at matched
  obtain ⟨_, body, rfl, rfl, inline⟩ := matched
  obtain ⟨t, rfl⟩ := prefix_
  have counted := countWhile_ge inline (List.prefix_append body t)
  exact ⟨1 + countWhile (· != '\n') (body ++ t), by simp [comment], by simp; omega⟩

theorem lineEnds_longest : lineEnds.Longest Regex.lineEnds :=
  run_longest fun _ => rfl

/-! ### Numbers -/

theorem point_not_digit : Digits.isDigit '.' = false := by decide

/-- What `decimalNumber` reads before the exponent: a number with a point. -/
def pointedLength (cs : List Char) : Option Nat :=
  let lead := countWhile Digits.isDigit cs
  if lead > 0 then
    match cs.drop lead with
    | '.' :: rest => some (lead + 1 + countWhile Digits.isDigit rest)
    | _ => none
  else
    match cs with
    | '.' :: rest =>
      let d := countWhile Digits.isDigit rest
      if d > 0 then some (1 + d) else none
    | _ => none

/-- `decimalNumber` reads a number with a point and its exponent, or failing that, digits and an
exponent. -/
theorem decimalNumber_eq (cs : List Char) :
    decimalNumber cs =
      match pointedLength cs with
      | some n => some (n + exponentLength (cs.drop n))
      | none =>
        let lead := countWhile Digits.isDigit cs
        let e := exponentLength (cs.drop lead)
        if lead > 0 ∧ e > 0 then some (lead + e) else none := rfl

theorem decimalNumber_of_pointed {cs : List Char} {k : Nat} (pointed : pointedLength cs = some k) :
    decimalNumber cs = some (k + exponentLength (cs.drop k)) := by
  rw [decimalNumber_eq, pointed]

/-- The digits before the point are part of what is read. -/
theorem lead_le_pointedLength {cs : List Char} {k : Nat} (pointed : pointedLength cs = some k) :
    countWhile Digits.isDigit cs ≤ k := by
  by_cases pos : 0 < countWhile Digits.isDigit cs
  · simp only [pointedLength, gt_iff_lt, pos, ↓reduceIte] at pointed
    split at pointed
    · cases pointed
      omega
    · cases pointed
  · omega

/-- A number reads at least its leading digits. -/
theorem lead_le_decimalNumber {cs : List Char} {n : Nat} (applies : decimalNumber cs = some n) :
    countWhile Digits.isDigit cs ≤ n := by
  rw [decimalNumber_eq] at applies
  cases pointed : pointedLength cs with
  | some k =>
    rw [pointed] at applies
    cases applies
    have := lead_le_pointedLength pointed
    omega
  | none =>
    simp only [pointed] at applies
    split at applies
    · cases applies
      omega
    · cases applies

/-- A number starts with a digit or a point. -/
theorem decimalNumber_head {cs : List Char} {n : Nat} (applies : decimalNumber cs = some n) :
    ∃ c rest, cs = c :: rest ∧ (Digits.isDigit c = true ∨ c = '.') := by
  by_cases lead : 0 < countWhile Digits.isDigit cs
  · obtain ⟨c, rest, rfl, digit⟩ := countWhile_pos lead
    exact ⟨c, rest, rfl, .inl digit⟩
  · -- without leading digits, only a point opens a number
    rw [decimalNumber_eq] at applies
    cases pointed : pointedLength cs with
    | some k =>
      simp only [pointedLength, gt_iff_lt, lead, ↓reduceIte] at pointed
      split at pointed
      · exact ⟨'.', _, rfl, .inr rfl⟩
      · cases pointed
    | none => simp [pointed, lead] at applies

/-- The expression of a number starts with a digit, or with a point and a digit. -/
theorem decimal_head {w : List Char} (matched : Regex.decimal.Matches w) :
    ∃ c rest, w = c :: rest ∧
      (Digits.isDigit c = true ∨ c = '.' ∧ ∃ d r, rest = d :: r ∧ Digits.isDigit d = true) := by
  have leading : ∀ ds t : List Char, ds ≠ [] → (∀ d ∈ ds, Digits.isDigit d = true) →
      ∃ c rest, ds ++ t = c :: rest ∧ Digits.isDigit c = true := by
    intro ds t nonempty digits
    obtain ⟨c, rest, rfl⟩ := List.exists_cons_of_ne_nil nonempty
    exact ⟨c, rest ++ t, rfl, digits c List.mem_cons_self⟩
  simp only [Regex.decimal, Regex.digits, Regex.matches_alt, Regex.matches_seq, Regex.matches_opt,
    Regex.matches_char, Regex.matches_plus_cls, Regex.matches_star_cls] at matched
  rcases matched with ⟨_, v, rfl, number, -⟩ | ⟨ds, x, rfl, ⟨nonempty, digits⟩, -⟩
  · rcases number with ⟨ds, _, rfl, ⟨nonempty, digits⟩, -⟩ | ⟨_, frac, rfl, rfl, nonempty, digits⟩
    · obtain ⟨c, rest, split, digit⟩ := leading ds _ nonempty digits
      exact ⟨c, _, by rw [List.append_assoc, split], .inl digit⟩
    · obtain ⟨d, r, split, digit⟩ := leading frac v nonempty digits
      exact ⟨'.', _, rfl, .inr ⟨rfl, d, r, by simpa using split, digit⟩⟩
  · obtain ⟨c, rest, split, digit⟩ := leading ds x nonempty digits
    exact ⟨c, rest, split, .inl digit⟩

theorem pointedLength_lead {ds : List Char} (digits : ∀ d ∈ ds, Digits.isDigit d = true)
    (nonempty : ds ≠ []) (rest : List Char) :
    pointedLength (ds ++ '.' :: rest) = some (ds.length + 1 + countWhile Digits.isDigit rest) := by
  have lead := countWhile_stop digits point_not_digit rest
  have pos : 0 < ds.length := List.length_pos_iff.2 nonempty
  simp [pointedLength, lead, pos]

theorem pointedLength_point {rest : List Char} (pos : 0 < countWhile Digits.isDigit rest) :
    pointedLength ('.' :: rest) = some (1 + countWhile Digits.isDigit rest) := by
  have lead : countWhile Digits.isDigit ('.' :: rest) = 0 := by
    simp [countWhile, point_not_digit]
  simp [pointedLength, lead, pos]

/-- An exponent starts with `e` or `E`. -/
theorem exponent_head {x : List Char} (exp : Regex.exponent.Matches x) :
    ∃ c rest, x = c :: rest ∧ (c = 'e' ∨ c = 'E') := by
  simp only [Regex.exponent, Regex.matches_seq, Regex.matches_cls] at exp
  obtain ⟨_, rest, rfl, ⟨c, rfl, marker⟩, -⟩ := exp
  exact ⟨c, rest, rfl, by simpa using marker⟩

theorem marker_not_digit {c : Char} (marker : c = 'e' ∨ c = 'E') : Digits.isDigit c = false := by
  rcases marker with rfl | rfl <;> decide

/-- An exponent is read whole. -/
theorem exponentLength_ge {x : List Char} (exp : Regex.exponent.Matches x) (t : List Char) :
    x.length ≤ exponentLength (x ++ t) := by
  simp only [Regex.exponent, Regex.digits, Regex.matches_seq, Regex.matches_cls, Regex.matches_opt,
    Regex.matches_plus_cls] at exp
  obtain ⟨_, _, rfl, ⟨c, rfl, marker⟩, sign, ds, rfl, signed, nonempty, digits⟩ := exp
  have marker' : c = 'e' ∨ c = 'E' := by simpa using marker
  have counted := countWhile_ge digits (List.prefix_append ds t)
  have pos : 0 < ds.length := List.length_pos_iff.2 nonempty
  rcases signed with rfl | ⟨s, rfl, isSign⟩
  · -- without a sign, the first digit is no sign either
    obtain ⟨d, ds', rfl⟩ := List.exists_cons_of_ne_nil nonempty
    have first := digits d List.mem_cons_self
    have unsigned : ¬(d = '+' ∨ d = '-') := by
      rintro (rfl | rfl) <;> exact absurd first (by decide)
    simp only [List.nil_append, List.cons_append, List.length_cons] at counted ⊢
    simp [exponentLength, marker', unsigned]
    split <;> omega
  · have isSign' : s = '+' ∨ s = '-' := by simpa using isSign
    simp [exponentLength, marker', isSign']
    split <;> omega

/-- The fraction of a number is counted whole, and exactly when an exponent follows. -/
theorem fraction_count {frac v : List Char} (digits : ∀ d ∈ frac, Digits.isDigit d = true)
    (exp : v = [] ∨ Regex.exponent.Matches v) (t : List Char) :
    frac.length ≤ countWhile Digits.isDigit (frac ++ (v ++ t)) ∧
      (v ≠ [] → countWhile Digits.isDigit (frac ++ (v ++ t)) = frac.length) := by
  refine ⟨countWhile_ge digits (List.prefix_append frac (v ++ t)), fun nonempty => ?_⟩
  obtain ⟨c, rest, rfl, marker⟩ := exponent_head (exp.resolve_left nonempty)
  exact countWhile_stop digits (marker_not_digit marker) (rest ++ t)

/-- A number with a point, read up to `k`, and then an optional exponent: the pattern reads the
whole. -/
theorem decimalNumber_of_fraction {w v t : List Char} {k : Nat}
    (pointed : pointedLength (w ++ v ++ t) = some k) (covers : w.length ≤ k)
    (exp : v = [] ∨ Regex.exponent.Matches v) (exact : v ≠ [] → k = w.length) :
    ∃ n, decimalNumber (w ++ v ++ t) = some n ∧ (w ++ v).length ≤ n := by
  refine ⟨_, decimalNumber_of_pointed pointed, ?_⟩
  rcases exp with rfl | exp
  · simp only [List.append_nil]
    omega
  · have exact' := exact (by obtain ⟨c, rest, rfl, -⟩ := exponent_head exp; simp)
    subst exact'
    have read := exponentLength_ge exp t
    simp only [List.append_assoc, List.drop_left, List.length_append] at read ⊢
    omega

theorem decimalNumber_longest : decimalNumber.Longest Regex.decimal := by
  intro cs pre prefix_ matched
  obtain ⟨t, rfl⟩ := prefix_
  simp only [Regex.decimal, Regex.digits, Regex.matches_alt, Regex.matches_seq, Regex.matches_opt,
    Regex.matches_char, Regex.matches_plus_cls, Regex.matches_star_cls] at matched
  rcases matched with ⟨w, v, rfl, number, exp⟩ | ⟨ds, x, rfl, ⟨nonempty, digits⟩, exp⟩
  · rcases number with ⟨ds, _, rfl, ⟨nonempty, digits⟩, _, frac, rfl, rfl, fracDigits⟩ |
      ⟨_, frac, rfl, rfl, fracNonempty, fracDigits⟩
    · -- digits, a point and a fraction
      obtain ⟨counted, exact⟩ := fraction_count fracDigits exp t
      refine decimalNumber_of_fraction
        (k := ds.length + 1 + countWhile Digits.isDigit (frac ++ (v ++ t))) ?_ ?_ exp ?_
      · simp [pointedLength_lead digits nonempty]
      · simp only [List.length_append, List.length_cons, List.length_nil]
        omega
      · intro present
        simp [exact present]
        omega
    · -- a point and digits
      obtain ⟨counted, exact⟩ := fraction_count fracDigits exp t
      have pos : 0 < frac.length := List.length_pos_iff.2 fracNonempty
      refine decimalNumber_of_fraction (k := 1 + countWhile Digits.isDigit (frac ++ (v ++ t))) ?_ ?_
        exp ?_
      · simp only [List.cons_append, List.nil_append, List.append_assoc]
        refine pointedLength_point ?_
        omega
      · simp only [List.length_append, List.length_cons, List.length_nil]
        omega
      · intro present
        simp [exact present]
        omega
  · -- digits and a compulsory exponent
    obtain ⟨c, rest, rfl, marker⟩ := exponent_head exp
    have lead := countWhile_stop digits (marker_not_digit marker) (rest ++ t)
    have pos : 0 < ds.length := List.length_pos_iff.2 nonempty
    have read := exponentLength_ge exp t
    have unpointed : pointedLength (ds ++ c :: (rest ++ t)) = none := by
      have notPoint : c ≠ '.' := by rcases marker with rfl | rfl <;> decide
      simp [pointedLength, lead, pos, notPoint]
    refine ⟨ds.length + exponentLength (c :: rest ++ t), ?_, by simp at read ⊢; omega⟩
    simp only [List.append_assoc, List.cons_append] at unpointed lead read ⊢
    rw [decimalNumber_eq, unpointed]
    simp only [List.length_cons] at read
    simp [lead, pos]
    omega

/-! ### Strings -/

theorem escapedBody_plain {c : Char} (plain : (c != '"' && c != '\\') = true) (rest : List Char) :
    escapedBody (c :: rest) = (escapedBody rest).map (· + 1) := by
  simp only [Bool.and_eq_true, bne_iff_ne, ne_eq] at plain
  rw [escapedBody.eq_def]
  split <;> simp_all

theorem escapedBody_escape {c : Char} (inline : (c != '\n') = true) (rest : List Char) :
    escapedBody ('\\' :: c :: rest) = (escapedBody rest).map (· + 2) := by
  simp only [bne_iff_ne, ne_eq] at inline
  simp [escapedBody, inline]

/-- A body made of chunks of the expression is read through the quote that closes it. -/
theorem escapedBody_chunks {parts : List (List Char)}
    (each : ∀ u ∈ parts, Regex.escapedChunk.Matches u) (t : List Char) :
    escapedBody (parts.flatten ++ '"' :: t) = some (parts.flatten.length + 1) := by
  induction parts with
  | nil => simp [escapedBody]
  | cons u parts ih =>
    simp only [List.mem_cons, forall_eq_or_imp] at each
    have rest := ih each.2
    simp only [Regex.escapedChunk, Regex.matches_alt, Regex.matches_cls, Regex.matches_seq,
      Regex.matches_char] at each
    rcases each.1 with ⟨c, rfl, plain⟩ | ⟨_, _, rfl, rfl, c, rfl, inline⟩
    · simp [escapedBody_plain plain, rest]
    · simp [escapedBody_escape inline, rest]

theorem escapedString_longest : escapedString.Longest Regex.escapedString := by
  intro cs pre prefix_ matched
  simp only [Regex.escapedString, Regex.matches_seq, Regex.matches_char, Regex.matches_star]
    at matched
  obtain ⟨_, _, rfl, rfl, _, _, rfl, ⟨parts, rfl, each⟩, rfl⟩ := matched
  obtain ⟨t, rfl⟩ := prefix_
  refine ⟨parts.flatten.length + 2, ?_, by simp⟩
  simp [escapedString, escapedBody_chunks each]

/-- A quote that another closes on its line opens a string, whatever quotes stand between. -/
theorem closedOnLine_of_inline {q : Char} {u : List Char} (inline : ∀ c ∈ u, (c != '\n') = true)
    (t : List Char) : closedOnLine q (u ++ q :: t) ≠ none := by
  induction u with
  | nil => simp [closedOnLine]
  | cons c u ih =>
    simp only [List.mem_cons, forall_eq_or_imp, bne_iff_ne, ne_eq] at inline
    simp only [List.cons_append, closedOnLine]
    split
    · simp
    · simpa [inline.1] using ih (by simpa using inline.2)

theorem quotedLine_covers : quotedLine.Covers Regex.quotedLine := by
  intro cs pre prefix_ matched
  obtain ⟨t, rfl⟩ := prefix_
  simp only [Regex.quotedLine, Regex.matches_alt, Regex.matches_seq, Regex.matches_char,
    Regex.matches_star_cls] at matched
  rcases matched with ⟨_, _, rfl, rfl, u, _, rfl, inline, rfl⟩ |
    ⟨_, _, rfl, rfl, u, _, rfl, inline, rfl⟩
  · simpa [quotedLine] using closedOnLine_of_inline inline t
  · simpa [quotedLine] using closedOnLine_of_inline inline t

end Pattern

end MatrixLang
