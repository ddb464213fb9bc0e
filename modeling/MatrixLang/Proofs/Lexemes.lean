import MatrixLang.Lexer.Lexicons
import MatrixLang.Proofs.Pieces

/-!
# What the lexeme patterns take

Every pattern of the lexicons takes a non-empty prefix of the text it applies to, and every
pattern of a rule that does not count line ends stays on its line: operators, names, numbers,
comments and the one-line strings of versions 4 and 5. Only the runs of line ends and the
escaped strings of versions 1 to 3, whose rules count what they take, may cross a line end.

## Main results

* `Lexicon.v1_wellFormed`, …, `Lexicon.full_wellFormed`: each lexicon takes non-empty
  prefixes, and counts every line end it passes.

## Proof strategy

`Pattern.Clean cs n`, "the first `n` characters of `cs` exist and hold no line end", composes
along a lexeme read part after part (`Clean.add`), so each pattern is proved clean part by part.
A rule is `Rule.Kept` when its pattern is sound and, unless the rule counts line ends, clean;
the lexicons are lists of kept rules.
-/
namespace MatrixLang

namespace Pattern

/-! ### Clean prefixes -/

/-- The first `n` characters of `cs` exist and hold no line end. -/
def Clean (cs : List Char) (n : Nat) : Prop := n ≤ cs.length ∧ '\n' ∉ cs.take n

namespace Clean

variable {cs : List Char} {a b : Nat}

theorem zero : Clean cs 0 := ⟨Nat.zero_le _, by simp⟩

/-- A clean part followed by a clean part is clean. -/
theorem add (first : Clean cs a) (second : Clean (cs.drop a) b) : Clean cs (a + b) := by
  obtain ⟨le₁, clean₁⟩ := first
  obtain ⟨le₂, clean₂⟩ := second
  refine ⟨by simp at le₂; omega, ?_⟩
  rw [List.take_add, List.mem_append, not_or]
  exact ⟨clean₁, clean₂⟩

theorem one {c : Char} {rest : List Char} (h : c ≠ '\n') : Clean (c :: rest) 1 :=
  ⟨by simp, by simpa using h.symm⟩

theorem cons {c : Char} (h : c ≠ '\n') (rest : Clean cs a) : Clean (c :: cs) (a + 1) := by
  simpa [Nat.add_comm] using (one h).add rest

end Clean

theorem take_countWhile (p : Char → Bool) (cs : List Char) :
    cs.take (countWhile p cs) = cs.takeWhile p :=
  (List.prefix_iff_eq_take.1 (List.takeWhile_prefix p)).symm

/-- A run of characters that all pass the test is counted whole. -/
theorem countWhile_of_all {p : Char → Bool} : ∀ {cs : List Char}, (∀ c ∈ cs, p c) →
    countWhile p cs = cs.length
  | [], _ => rfl
  | c :: cs, all => by
    have rest : countWhile p cs = cs.length :=
      countWhile_of_all fun d member => all d (by simp [member])
    simp only [countWhile] at rest ⊢
    rw [List.takeWhile_cons_of_pos (all c (by simp)), List.length_cons, rest, List.length_cons]

/-- The characters a `countWhile` counts all pass its test. -/
theorem clean_countWhile {p : Char → Bool} (h : p '\n' = false) (cs : List Char) :
    Clean cs (countWhile p cs) := by
  refine ⟨(List.takeWhile_prefix p).length_le, ?_⟩
  rw [take_countWhile]
  intro mem
  simpa [h] using List.all_eq_true.1 List.all_takeWhile _ mem

theorem drop_countWhile (p : Char → Bool) (cs : List Char) :
    cs.drop (countWhile p cs) = cs.dropWhile p :=
  calc cs.drop (countWhile p cs)
    _ = (cs.takeWhile p ++ cs.dropWhile p).drop (cs.takeWhile p).length := by
      rw [List.takeWhile_append_dropWhile]; rfl
    _ = cs.dropWhile p := List.drop_left' rfl

/-- The character after a `countWhile` run fails the test. -/
theorem head_drop_countWhile (p : Char → Bool) (cs : List Char) :
    ∀ x ∈ (cs.drop (countWhile p cs)).head?, p x = false := by
  intro x head
  rw [drop_countWhile] at head
  obtain ⟨nonempty, rfl⟩ : ∃ w, (cs.dropWhile p).head w = x := by
    cases h : cs.dropWhile p with
    | nil => simp [h] at head
    | cons y ys => exact ⟨by simp, by simpa [h] using head⟩
  exact List.head_dropWhile_not p nonempty

theorem digit_newline : Digits.isDigit '\n' = false := by decide

/-! ### Sound and clean patterns -/

/-- A pattern takes a non-empty prefix of the text it applies to. -/
def Sound (p : Pattern) : Prop := ∀ cs n, p cs = some n → 0 < n ∧ n ≤ cs.length

/-- A pattern takes a non-empty prefix without line ends. -/
def Tame (p : Pattern) : Prop := ∀ cs n, p cs = some n → 0 < n ∧ Clean cs n

theorem Tame.sound {p : Pattern} (tame : p.Tame) : p.Sound := fun cs n applies =>
  let ⟨pos, clean⟩ := tame cs n applies
  ⟨pos, clean.1⟩

theorem exact_take {s : String} {cs : List Char} {n : Nat} (applies : exact s cs = some n) :
    n = s.length ∧ 0 < n ∧ cs.take n = s.toList := by
  unfold exact at applies
  split at applies
  · next both =>
    cases applies
    obtain ⟨prefix_, pos⟩ := both
    refine ⟨rfl, pos, ?_⟩
    rw [← String.length_toList]
    exact (List.prefix_iff_eq_take.1 (List.isPrefixOf_iff_prefix.1 prefix_)).symm
  · cases applies

theorem exact_tame {s : String} (clean : '\n' ∉ s.toList) : (exact s).Tame := by
  intro cs n applies
  obtain ⟨rfl, pos, taken⟩ := exact_take applies
  refine ⟨pos, ?_, by rwa [taken]⟩
  have : (cs.take s.length).length = s.length := by
    rw [taken, String.length_toList]
  simp at this
  omega

theorem identifier_tame : identifier.Tame := by
  intro cs n applies
  match cs, applies with
  | c :: rest, applies =>
    simp only [identifier] at applies
    split at applies
    · next starts =>
      cases applies
      refine ⟨by omega, Clean.add (Clean.one ?_) ?_⟩
      · rintro rfl
        simp at starts
      · simpa using clean_countWhile (by decide) rest
    · cases applies

theorem digitRun_tame : digitRun.Tame := by
  intro cs n applies
  simp only [digitRun] at applies
  split at applies
  · next pos =>
    cases applies
    exact ⟨pos, clean_countWhile digit_newline cs⟩
  · cases applies

/-- An exponent stays on its line: a marker, an optional sign, digits. -/
theorem clean_exponentLength : ∀ cs : List Char, Clean cs (exponentLength cs)
  | [] => Clean.zero
  | c :: rest => by
    by_cases marker : c = 'e' ∨ c = 'E'
    · have letter : c ≠ '\n' := by rintro rfl; simp at marker
      match rest with
      | [] => simpa [exponentLength, marker, countWhile] using Clean.zero
      | s :: r =>
        by_cases sign : s = '+' ∨ s = '-'
        · have signed : Clean (s :: r) 1 := Clean.one (by rintro rfl; simp at sign)
          have whole := (Clean.one letter).add (signed.add (clean_countWhile digit_newline r))
          simp only [exponentLength, marker, sign, if_true]
          split
          · exact (show 1 + (1 + countWhile Digits.isDigit r) = 2 + countWhile Digits.isDigit r
              by omega) ▸ whole
          · exact Clean.zero
        · have whole := (Clean.one letter).add (clean_countWhile digit_newline (s :: r))
          simp only [exponentLength, marker, sign, if_true, if_false]
          split
          · simpa using whole
          · exact Clean.zero
    · simpa [exponentLength, marker] using Clean.zero

/-- A decimal number stays on its line: digits, a point, digits, an exponent. -/
theorem decimalNumber_tame : decimalNumber.Tame := by
  intro cs n applies
  have digits := clean_countWhile digit_newline cs
  simp only [decimalNumber] at applies
  split at applies
  · next m pointed =>
    cases applies
    -- the number up to the end of its fraction, then the exponent
    have fraction : 0 < m ∧ Clean cs m := by
      split at pointed
      · split at pointed
        · next rest point =>
          cases pointed
          have after : cs.drop (countWhile Digits.isDigit cs + 1) = rest := by
            rw [← List.drop_drop, point]; rfl
          refine ⟨by omega, (digits.add ?_).add ?_⟩
          · rw [point]; exact Clean.one (by decide)
          · rw [after]; exact clean_countWhile digit_newline rest
        · cases pointed
      · split at pointed
        · split at pointed
          · cases pointed
            exact ⟨by omega, (Clean.one (by decide)).add (clean_countWhile digit_newline _)⟩
          · cases pointed
        · cases pointed
    exact ⟨by omega, fraction.2.add (clean_exponentLength _)⟩
  · split at applies
    · next both =>
      cases applies
      exact ⟨by omega, digits.add (clean_exponentLength _)⟩
    · cases applies

theorem comment_tame : comment.Tame := by
  intro cs n applies
  unfold comment at applies
  split at applies
  · next rest =>
    cases applies
    exact ⟨by omega, (Clean.one (by decide)).add (clean_countWhile (by decide) rest)⟩
  · cases applies

theorem lineEnds_sound : lineEnds.Sound := by
  intro cs n applies
  simp only [lineEnds] at applies
  split at applies
  · next pos =>
    cases applies
    exact ⟨pos, (List.takeWhile_prefix _).length_le⟩
  · cases applies

/-- The body of an escaped string is a non-empty prefix, through the closing quote. -/
theorem escapedBody_sound (cs : List Char) :
    ∀ n, escapedBody cs = some n → 0 < n ∧ n ≤ cs.length := by
  fun_induction escapedBody cs with
  | case1 | case3 | case5 => simp
  | case2 => simp
  | case4 c rest _ ih =>
    intro n found
    obtain ⟨k, body, rfl⟩ := Option.map_eq_some_iff.1 found
    have := (ih k body).2
    simp only [List.length_cons]
    omega
  | case6 c rest _ _ _ ih =>
    intro n found
    obtain ⟨k, body, rfl⟩ := Option.map_eq_some_iff.1 found
    have := (ih k body).2
    simp only [List.length_cons]
    omega

theorem escapedString_sound : escapedString.Sound := by
  intro cs n applies
  unfold escapedString at applies
  split at applies
  · next rest =>
    obtain ⟨k, body, rfl⟩ := Option.map_eq_some_iff.1 applies
    have := (escapedBody_sound rest k body).2
    simp only [List.length_cons]
    omega
  · cases applies

/-- A string closed on its line runs through its closing quote and holds no line end. -/
theorem closedOnLine_tame {q : Char} (quote : q ≠ '\n') :
    ∀ (cs : List Char) (n : Nat), closedOnLine q cs = some n → 0 < n ∧ Clean cs n
  | [], _, found => by simp [closedOnLine] at found
  | c :: rest, n, found => by
    simp only [closedOnLine] at found
    split at found
    · next closing =>
      cases found
      exact ⟨by omega, Clean.one (closing ▸ quote)⟩
    · split at found
      · cases found
      · next newline =>
        obtain ⟨k, body, rfl⟩ := Option.map_eq_some_iff.1 found
        exact ⟨by omega, Clean.cons newline (closedOnLine_tame quote rest k body).2⟩

theorem quotedLine_tame : quotedLine.Tame := by
  intro cs n applies
  unfold quotedLine at applies
  split at applies
  · next rest =>
    obtain ⟨k, body, rfl⟩ := Option.map_eq_some_iff.1 applies
    exact ⟨by omega, Clean.cons (by decide) (closedOnLine_tame (by decide) rest k body).2⟩
  · next rest =>
    obtain ⟨k, body, rfl⟩ := Option.map_eq_some_iff.1 applies
    exact ⟨by omega, Clean.cons (by decide) (closedOnLine_tame (by decide) rest k body).2⟩
  · cases applies

end Pattern

/-! ### Kept rules -/

/-- A rule whose pattern takes non-empty prefixes, without line ends unless the rule counts them. -/
def Rule.Kept (r : Rule) : Prop := r.pattern.Sound ∧ (r.role.counts = false → r.pattern.Tame)

theorem Rule.kept_of_tame {r : Rule} (tame : r.pattern.Tame) : r.Kept := ⟨tame.sound, fun _ => tame⟩

theorem Rule.kept_of_counts {r : Rule} (sound : r.pattern.Sound) (counts : r.role.counts = true) :
    r.Kept :=
  ⟨sound, fun quiet => absurd (quiet ▸ counts) Bool.false_ne_true⟩

namespace Lexicon

theorem operator_kept (kind spelling : String) (clean : '\n' ∉ spelling.toList) :
    (operator kind spelling).Kept :=
  Rule.kept_of_tame (Pattern.exact_tame clean)

theorem dotted_kept : ∀ r ∈ dotted, r.Kept := by
  simp only [dotted, List.forall_mem_cons, List.not_mem_nil, false_implies, implies_true,
    and_true]
  refine ⟨?_, ?_, ?_, ?_, ?_, ?_, ?_, ?_⟩ <;> apply operator_kept <;> decide

theorem comparisons_kept : ∀ r ∈ comparisons, r.Kept := by
  simp only [comparisons, List.forall_mem_cons, List.not_mem_nil, false_implies, implies_true,
    and_true]
  refine ⟨?_, ?_, ?_, ?_⟩ <;> apply operator_kept <;> decide

theorem identifiers_kept (words : List (String × String)) : (identifiers words).Kept :=
  Rule.kept_of_tame Pattern.identifier_tame

theorem integers_kept : integers.Kept := Rule.kept_of_tame Pattern.digitRun_tame

theorem decimals_kept (reading : Reading) : (decimals reading).Kept :=
  Rule.kept_of_tame Pattern.decimalNumber_tame

theorem comments_kept : comments.Kept := Rule.kept_of_tame Pattern.comment_tame

theorem lineEnds_kept : lineEnds.Kept := Rule.kept_of_counts Pattern.lineEnds_sound rfl

/-- A rule that applies at some text gives the lexicon a first rule there. -/
theorem firstRule_ne_none {lx : Lexicon} {r : Rule} {cs : List Char} (member : r ∈ lx.rules)
    (applies : r.pattern cs ≠ none) : lx.firstRule cs ≠ none := by
  intro none_
  have := List.findSome?_eq_none_iff.1 none_ r member
  simp [applies] at this

/-- A lexicon of kept rules that reads line ends by `lineEnds`, and has no line end among its
blanks or literals, takes non-empty lexemes and counts every line end. -/
theorem sound_tallies {lx : Lexicon} (kept : ∀ r ∈ lx.rules, r.Kept) (ends : lineEnds ∈ lx.rules)
    (unblank : '\n' ∉ lx.blanks) (unliteral : '\n' ∉ lx.literals) : lx.Sound ∧ lx.Tallies :=
  ⟨fun r member => (kept r member).1,
   { quiet := fun r member counts cs n applies => ((kept r member).2 counts cs n applies).2.2
     taken := fun after => firstRule_ne_none ends (by simp [lineEnds, Pattern.lineEnds, Pattern.countWhile])
     unblank := unblank
     unliteral := unliteral }⟩

theorem v1_wellFormed : v1.Sound ∧ v1.Tallies := by
  refine sound_tallies ?_ (by simp [v1]) (by decide) (by decide)
  simp only [v1, List.forall_mem_append, List.forall_mem_cons, List.not_mem_nil, false_implies,
    implies_true, and_true]
  exact ⟨⟨⟨dotted_kept, operator_kept "LT" "<" (by decide), operator_kept "GT" ">" (by decide)⟩,
    comparisons_kept⟩, identifiers_kept _,
    Rule.kept_of_counts Pattern.escapedString_sound rfl, decimals_kept _, integers_kept,
    comments_kept, lineEnds_kept⟩

theorem v3_wellFormed : v3.Sound ∧ v3.Tallies := by
  refine sound_tallies ?_ (by simp [v3]) (by decide) (by decide)
  simp only [v3, List.forall_mem_append, List.forall_mem_cons, List.not_mem_nil, false_implies,
    implies_true, and_true]
  exact ⟨⟨dotted_kept, comparisons_kept⟩, identifiers_kept _,
    Rule.kept_of_counts Pattern.escapedString_sound rfl, decimals_kept _, integers_kept,
    comments_kept, lineEnds_kept⟩

theorem v1Named_wellFormed : v1Named.Sound ∧ v1Named.Tallies := by
  refine sound_tallies ?_ (by simp [v1Named]) (by decide) (by decide)
  simp only [v1Named, List.forall_mem_cons, List.not_mem_nil, false_implies, implies_true,
    and_true]
  refine ⟨?_, ?_, ?_, ?_, ?_, ?_, ?_, ?_, ?_, ?_, ?_, ?_, ?_, ?_, integers_kept,
    identifiers_kept _, comments_kept, lineEnds_kept⟩ <;> apply operator_kept <;> decide

theorem full_wellFormed (reading : Reading) : (full reading).Sound ∧ (full reading).Tallies := by
  refine sound_tallies ?_ (by simp [full]) (by simp [full]) (by simp [full])
  simp only [full, List.forall_mem_append, List.forall_mem_cons, List.not_mem_nil, false_implies,
    implies_true, and_true]
  exact ⟨⟨comments_kept, dotted_kept⟩, operator_kept "LE" "<=" (by decide),
    operator_kept "GE" ">=" (by decide), operator_kept "NE" "!=" (by decide),
    operator_kept "EQ" "==" (by decide), decimals_kept _, integers_kept,
    Rule.kept_of_tame Pattern.quotedLine_tame, identifiers_kept _, lineEnds_kept⟩

end Lexicon
end MatrixLang

