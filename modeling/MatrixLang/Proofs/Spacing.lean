import MatrixLang.Proofs.Longest

/-!
# Words between blanks in version 3

Version 3 reads a text of words separated by single blanks as one token per word, when each word
is a name other than a keyword, a whole number of at most `numeralLimit` digits, an operator
spelled with a point, or one of the marks `+ - * / ' = ;` (`Lexicon.Word`). No rule reads across
the blank that ends a word, and no rule ahead of the word's own takes it for something else: a
word's first character is refused by the leads of the rules before its own, but for a number,
which the rule for decimals refuses since no point or exponent follows it.

## Main results

* `Lexicon.scanFrom_word`: a word, followed by a blank or by the end of the text, is one token.
* `Lexicon.scan_words`: the tokens of a text of words separated by blanks.
-/
namespace MatrixLang.Lexicon

open Pattern

/-- Whether a text is a name that version 3 reads as an identifier: a letter or an underscore,
then letters, digits and underscores, and not a keyword. -/
def isName (n : String) : Bool :=
  match n.toList with
  | c :: cs => Regex.nameStart c && cs.all Regex.nameChar && (keywords.lookup n).isNone
  | [] => false

/-- The operators spelled with a point, by kind. -/
def pointOps : List (String × String) :=
  [("DOTADD", ".+"), ("DOTSUB", ".-"), ("DOTMUL", ".*"), ("DOTDIV", "./")]

/-- The one-character marks of expressions and assignments. -/
def marks : List Char := ['+', '-', '*', '/', '\'', '=', ';']

/-- A word that version 3 reads as one token of the given kind and value, when a blank or the
end of the text follows it. -/
inductive Word : String → String → Payload → Prop
  | name {n : String} : isName n = true → Word n "ID" (.text n)
  | numeral {k : Nat} : (toString k).length ≤ numeralLimit → Word (toString k) "INTNUM" (.int k)
  | pointed {kind spelling : String} : (kind, spelling) ∈ pointOps →
      Word spelling kind (.text spelling)
  | mark {c : Char} : c ∈ marks →
      Word (String.singleton c) (String.singleton c) (.text (String.singleton c))

/-- What may follow a word: a blank, or the end of the text. -/
def Ends (rest : List Char) : Prop := rest = [] ∨ ∃ more, rest = ' ' :: more

/-! ### The first rule that applies -/

/-- Where the rules before the `k`-th do not apply, the first rule that applies is the `k`-th,
if it does. -/
theorem firstRule_from {lx : Lexicon} {cs : List Char} {k n : Nat} {r : Rule}
    (missed : ∀ p ∈ (lx.rules.take k).map Rule.pattern, p cs = none)
    (found : lx.rules[k]? = some r) (applies : r.pattern cs = some n) :
    lx.firstRule cs = some (r, n) := by
  obtain ⟨within, same⟩ := List.getElem?_eq_some_iff.1 found
  have split : lx.rules = lx.rules.take k ++ r :: lx.rules.drop (k + 1) := by
    rw [← same, ← List.drop_eq_getElem_cons within, List.take_append_drop]
  have earlier : (lx.rules.take k).findSome? (fun r => (r.pattern cs).map (r, ·)) = none := by
    rw [List.findSome?_eq_none_iff]
    intro r' member
    simp [missed r'.pattern (List.mem_map_of_mem member)]
  unfold firstRule
  rw [split, List.findSome?_append, earlier]
  simp [applies]

/-- A rule of version 3 whose lead refuses the first character does not apply. -/
theorem v3_missed {a : Lead} {c : Char} {rest : List Char} (admitted : a.admits c = true)
    {k : Nat}
    (each : ∀ s ∈ Version.v3.shapes.take k, a.apart s.lead = true ∨ s.pattern (c :: rest) = none) :
    ∀ p ∈ (v3.rules.take k).map Rule.pattern, p (c :: rest) = none := by
  have patterns : (v3.rules.take k).map Rule.pattern =
      (Version.v3.shapes.take k).map Shape.pattern := by
    rw [List.map_take, List.map_take, ← Version.patterns_eq]
    rfl
  intro p member
  rw [patterns] at member
  obtain ⟨s, inside, rfl⟩ := List.mem_map.1 member
  rcases each s inside with apart | refused
  · cases applied : s.pattern (c :: rest) with
    | none => rfl
    | some n =>
      -- the shape's lead would admit `c`, which the lead `a` keeps apart
      obtain ⟨c', rest', same, lead⟩ := Shape.pattern_lead applied
      cases same
      rw [Lead.apart_sound apart admitted] at lead
      cases lead
  · exact refused

/-- A run of a class that a blank ends, or the end of the text. -/
theorem countWhile_ends {p : Char → Bool} {u rest : List Char} (all : ∀ c ∈ u, p c = true)
    (blank : p ' ' = false) (ends : Ends rest) : countWhile p (u ++ rest) = u.length := by
  rcases ends with rfl | ⟨more, rfl⟩
  · rw [List.append_nil]
    exact countWhile_of_all all
  · exact countWhile_stop all blank more

/-! ### One word -/

/-- A rule that emits a token and takes exactly the word: the token, and the text after it. -/
theorem scanFrom_emit {c : Char} {cs rest : List Char} {r : Rule} {kind : String}
    {reading : Reading} (blank : c ≠ ' ' ∧ c ≠ '\t')
    (first : v3.firstRule (c :: (cs ++ rest)) = some (r, cs.length + 1))
    (role : r.role = .emit kind reading false)
    (short : reading = .integer → cs.length + 1 ≤ numeralLimit) (offset line : Nat)
    (seen : Array Event) :
    v3.scanFrom (c :: (cs ++ rest)) offset line seen =
      v3.scanFrom rest (offset + (cs.length + 1)) line
        (seen.push (.token ⟨r.kindOf kind (String.ofList (c :: cs)), reading.read (c :: cs), line,
          offset⟩)) := by
  have blanks : v3.blanks.contains c = false := by simp [v3, blank.1, blank.2]
  have taken : (c :: (cs ++ rest)).take (cs.length + 1) = c :: cs := by simp
  have dropped : (c :: (cs ++ rest)).drop (cs.length + 1) = rest := by simp
  have fits : ¬(reading = .integer ∧ (c :: cs).length > numeralLimit) := by
    rintro ⟨integer, long⟩
    have within := short integer
    simp only [List.length_cons] at long
    omega
  rw [scanFrom]
  simp only [blanks, first, role, taken, dropped, Bool.false_eq_true, if_false,
    dif_pos (Nat.succ_pos cs.length), fits, Nat.add_zero]

/-- A mark that a blank or the end of the text follows is a literal: no rule applies to it. -/
theorem scanFrom_mark {c : Char} (mark : c ∈ marks) {rest : List Char} (ends : Ends rest)
    (offset line : Nat) (seen : Array Event) :
    v3.scanFrom (c :: rest) offset line seen =
      v3.scanFrom rest (offset + 1) line
        (seen.push (.token ⟨String.singleton c, .text (String.singleton c), line, offset⟩)) := by
  have facts : v3.blanks.contains c = false ∧ v3.literals.contains c = true ∧
      v3.firstRule (c :: rest) = none := by
    simp only [marks, List.mem_cons, List.not_mem_nil, or_false] at mark
    rcases ends with rfl | ⟨more, rfl⟩ <;>
      rcases mark with rfl | rfl | rfl | rfl | rfl | rfl | rfl <;> exact ⟨rfl, rfl, rfl⟩
  obtain ⟨blank, literal, first⟩ := facts
  rw [scanFrom]
  simp only [blank, first, literal, Bool.false_eq_true, if_false, if_true]

/-! ### Digits of whole numbers -/

/-- The digits `0` to `9` are digits of the lexicon, with their values. -/
theorem value_of_isDigit {c : Char} (digit : c.isDigit = true) :
    Digits.value? c = some (c.toNat - '0'.toNat) := by
  simp only [Char.isDigit, Bool.and_eq_true, decide_eq_true_eq] at digit
  have below : c.toNat < 0x80 := by
    have le := (char_le_iff c '9').1 digit.2
    simp only [Char.reduceToNat] at le
    omega
  simp only [Digits.value?, below, if_true, ge_iff_le] at digit ⊢
  rw [if_pos ⟨digit.1, digit.2⟩]
  rfl

theorem foldl_digits {cs : List Char} (digits : ∀ c ∈ cs, c.isDigit = true) (acc : Nat) :
    cs.foldl (fun acc c => 10 * acc + (Digits.value? c).getD 0) acc =
      Nat.ofDigitChars 10 cs acc := by
  induction cs generalizing acc with
  | nil => rfl
  | cons c cs ih =>
    rw [List.foldl_cons, Nat.ofDigitChars_cons, value_of_isDigit (digits c (by simp))]
    exact ih (fun d member => digits d (by simp [member])) _

/-- The digits of a whole number are digits of the lexicon, and they read back as the number. -/
theorem toDigits_read (k : Nat) :
    (∀ d ∈ Nat.toDigits 10 k, Digits.isDigit d = true) ∧ Digits.toNat (Nat.toDigits 10 k) = k := by
  have ascii : ∀ d ∈ Nat.toDigits 10 k, d.isDigit = true :=
    fun d member => Nat.isDigit_of_mem_toDigits (by decide) (by decide) member
  refine ⟨fun d member => ?_, ?_⟩
  · simp [Digits.isDigit, value_of_isDigit (ascii d member)]
  · rw [Digits.toNat, foldl_digits ascii, Nat.ofDigitChars_ten_toDigits]

/-! ### Names and numbers -/

/-- Digits that a blank or the end of the text follows are no decimal number: neither a point
nor an exponent follows them. -/
theorem decimalNumber_digits {u rest : List Char} (digits : ∀ c ∈ u, Digits.isDigit c = true)
    (ends : Ends rest) : decimalNumber (u ++ rest) = none := by
  have lead : countWhile Digits.isDigit (u ++ rest) = u.length := countWhile_ends digits rfl ends
  have dropped : (u ++ rest).drop u.length = rest := List.drop_left
  have exponent : exponentLength rest = 0 := by rcases ends with rfl | ⟨more, rfl⟩ <;> rfl
  have pointed : pointedLength (u ++ rest) = none := by
    unfold pointedLength
    simp only [lead, dropped]
    split
    · rcases ends with rfl | ⟨more, rfl⟩ <;> rfl
    · obtain rfl : u = [] := List.eq_nil_of_length_eq_zero (by omega)
      rcases ends with rfl | ⟨more, rfl⟩ <;> rfl
  rw [decimalNumber_eq, pointed]
  simp [lead, dropped, exponent]

/-- A name that a blank or the end of the text follows is read by the rule for identifiers: the
leads of the operators before it refuse a letter or an underscore. -/
theorem v3_firstRule_name {n : String} (name : isName n = true) {rest : List Char}
    (ends : Ends rest) :
    ∃ c cs, n.toList = c :: cs ∧ c ≠ ' ' ∧ c ≠ '\t' ∧
      v3.firstRule (c :: (cs ++ rest)) = some (identifiers keywords, cs.length + 1) := by
  unfold isName at name
  cases spelled : n.toList with
  | nil => simp [spelled] at name
  | cons c cs =>
    simp only [spelled, Bool.and_eq_true, List.all_eq_true] at name
    obtain ⟨⟨starts, continues⟩, -⟩ := name
    have apart : ∀ s ∈ Version.v3.shapes.take 12, Lead.nameStart.apart s.lead = true := by
      decide
    have applies : (identifiers keywords).pattern (c :: (cs ++ rest)) = some (cs.length + 1) := by
      show identifier (c :: (cs ++ rest)) = _
      rw [identifier_cons, if_pos starts, countWhile_ends continues rfl ends, Nat.add_comm]
    refine ⟨c, cs, rfl, ?_, ?_, firstRule_from (k := 12)
      (v3_missed (a := .nameStart) starts fun s member => .inl (apart s member)) rfl applies⟩
    · rintro rfl
      cases starts
    · rintro rfl
      cases starts

/-- A whole number that a blank or the end of the text follows is read by the rule for whole
numbers: the leads of the rules before it refuse a digit, but that for decimals, which finds no
point or exponent. -/
theorem v3_firstRule_numeral (k : Nat) {rest : List Char} (ends : Ends rest) :
    ∃ d ds, Nat.toDigits 10 k = d :: ds ∧ d ≠ ' ' ∧ d ≠ '\t' ∧
      v3.firstRule (d :: (ds ++ rest)) = some (integers, ds.length + 1) := by
  obtain ⟨digits, -⟩ := toDigits_read k
  cases listed : Nat.toDigits 10 k with
  | nil => exact absurd listed (Nat.toDigits_ne_nil)
  | cons d ds =>
    rw [listed] at digits
    have leads : ∀ s ∈ Version.v3.shapes.take 15, Lead.digit.apart s.lead = true ∨
        s = .decimal := by
      decide
    have each : ∀ s ∈ Version.v3.shapes.take 15,
        Lead.digit.apart s.lead = true ∨ s.pattern (d :: (ds ++ rest)) = none := by
      intro s member
      rcases leads s member with apart | rfl
      · exact .inl apart
      · exact .inr (decimalNumber_digits (u := d :: ds) digits ends)
    have applies : integers.pattern (d :: (ds ++ rest)) = some (ds.length + 1) := by
      have counted := countWhile_ends digits rfl ends
      rw [List.cons_append] at counted
      show digitRun (d :: (ds ++ rest)) = _
      simp [digitRun, counted]
    have first : d ≠ ' ' ∧ d ≠ '\t' := by
      constructor <;> rintro rfl <;> cases digits _ (List.mem_cons_self ..)
    exact ⟨d, ds, rfl, first.1, first.2,
      firstRule_from (k := 15) (v3_missed (a := .digit) (digits d (List.mem_cons_self ..)) each) rfl applies⟩

/-- An operator spelled with a point is read by its own rule, whatever follows it. -/
theorem v3_firstRule_pointed {kind spelling : String} (member : (kind, spelling) ∈ pointOps)
    (rest : List Char) :
    ∃ x, spelling.toList = ['.', x] ∧
      v3.firstRule ('.' :: ([x] ++ rest)) = some (operator kind spelling, [x].length + 1) := by
  simp only [pointOps, List.mem_cons, Prod.mk.injEq, List.not_mem_nil, or_false] at member
  rcases member with ⟨rfl, rfl⟩ | ⟨rfl, rfl⟩ | ⟨rfl, rfl⟩ | ⟨rfl, rfl⟩ <;> exact ⟨_, rfl, rfl⟩

/-! ### One word, and words between blanks -/

/-- A word that a blank or the end of the text follows is one token, of its kind and value. -/
theorem scanFrom_word {w kind : String} {value : Payload} (word : Word w kind value)
    {rest : List Char} (ends : Ends rest) (offset line : Nat) (seen : Array Event) :
    v3.scanFrom (w.toList ++ rest) offset line seen =
      v3.scanFrom rest (offset + w.length) line (seen.push (.token ⟨kind, value, line, offset⟩)) := by
  cases word with
  | name name =>
    obtain ⟨c, cs, spelled, blank, tab, first⟩ := v3_firstRule_name name ends
    have unkeyed : (identifiers keywords).kindOf "ID" (String.ofList (c :: cs)) = "ID" := by
      unfold isName at name
      rw [← spelled, String.ofList_toList]
      simp only [spelled, Bool.and_eq_true, Option.isNone_iff_eq_none] at name
      simp [Rule.kindOf, identifiers, name.2]
    have length : w.length = cs.length + 1 := by
      rw [← String.length_toList, spelled, List.length_cons]
    rw [spelled, List.cons_append, scanFrom_emit ⟨blank, tab⟩ first rfl (by intro h; cases h),
      unkeyed, length]
    simp [Reading.read, ← spelled]
  | numeral short =>
    rename_i k
    obtain ⟨d, ds, listed, blank, tab, first⟩ := v3_firstRule_numeral k ends
    have spelled : (toString k).toList = d :: ds := Nat.toList_repr.trans listed
    have length : (toString k).length = ds.length + 1 := by
      rw [← String.length_toList, spelled, List.length_cons]
    have read : Digits.toNat (d :: ds) = k := by
      rw [← listed]
      exact (toDigits_read k).2
    rw [spelled, List.cons_append, scanFrom_emit ⟨blank, tab⟩ first rfl (fun _ => length ▸ short),
      length]
    simp [Rule.kindOf, integers, Reading.read, read]
  | pointed member =>
    obtain ⟨x, spelled, first⟩ := v3_firstRule_pointed member rest
    have length : w.length = [x].length + 1 := by
      rw [← String.length_toList, spelled]
      rfl
    rw [spelled, List.cons_append, scanFrom_emit ⟨by decide, by decide⟩ first rfl (by intro h; cases h),
      length]
    simp [Rule.kindOf, operator, Reading.read, ← spelled]
  | mark mark =>
    rw [String.toList_singleton, List.singleton_append, String.length_singleton]
    exact scanFrom_mark mark ends offset line seen

/-- A blank between words is skipped. -/
theorem scanFrom_blank (cs : List Char) (offset line : Nat) (seen : Array Event) :
    v3.scanFrom (' ' :: cs) offset line seen = v3.scanFrom cs (offset + 1) line seen := by
  rw [scanFrom]
  rfl

/-- Words separated by single blanks, after the events already seen: one token per word, of the
word's kind and value, and the scan reaches the end of the text. -/
theorem scanFrom_spaced (w : String × String × Payload) (ws : List (String × String × Payload))
    (words : ∀ x ∈ w :: ws, Word x.1 x.2.1 x.2.2) (offset line : Nat) (seen : Array Event) :
    ∃ ts : List Token,
      v3.scanFrom (" ".intercalate ((w :: ws).map (·.1))).toList offset line seen =
        ⟨seen.toList ++ ts.map .token, none⟩ ∧
      ts.map (fun tk => (tk.kind, tk.value)) = (w :: ws).map (·.2) := by
  induction ws generalizing w offset seen with
  | nil =>
    have step := scanFrom_word (words w List.mem_cons_self) (.inl rfl) offset line seen
    rw [List.append_nil] at step
    refine ⟨[⟨w.2.1, w.2.2, line, offset⟩], ?_, rfl⟩
    rw [List.map_singleton, String.intercalate_singleton, step, scanFrom]
    simp
  | cons v ws ih =>
    -- the first word, the blank after it, then the words after the blank
    obtain ⟨ts, scanned, signs⟩ := ih v (fun x member => words x (List.mem_cons_of_mem w member))
      (offset + w.1.length + 1) (seen.push (.token ⟨w.2.1, w.2.2, line, offset⟩))
    have text : (" ".intercalate ((w :: v :: ws).map (·.1))).toList =
        w.1.toList ++ ' ' :: (" ".intercalate ((v :: ws).map (·.1))).toList := by
      simp only [List.map_cons, String.intercalate_cons_cons, String.toList_append]
      simp
    refine ⟨⟨w.2.1, w.2.2, line, offset⟩ :: ts, ?_, by simp [signs]⟩
    rw [text, scanFrom_word (words w List.mem_cons_self) (.inr ⟨_, rfl⟩), scanFrom_blank, scanned]
    simp

/-- A text of words separated by single blanks is read as one token per word, of the word's kind
and value, and the scan does not stop early. -/
theorem scan_words {ws : List (String × String × Payload)}
    (words : ∀ x ∈ ws, Word x.1 x.2.1 x.2.2) :
    ∃ ts : List Token, v3.scan (" ".intercalate (ws.map (·.1))) = ⟨ts.map .token, none⟩ ∧
      ts.map (fun tk => (tk.kind, tk.value)) = ws.map (·.2) := by
  cases ws with
  | nil => exact ⟨[], by simp [scan, scanFrom], rfl⟩
  | cons w ws =>
    obtain ⟨ts, scanned, signs⟩ := scanFrom_spaced w ws words 0 1 #[]
    exact ⟨ts, by simpa [scan] using scanned, signs⟩

end MatrixLang.Lexicon
