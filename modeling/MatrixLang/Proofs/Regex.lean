import MatrixLang.Lexer.Digits
import Mathlib.Data.List.Basic

/-!
# Regular expressions of the scanners

The scanners describe each class of lexemes by a regular expression. This module gives those
expressions a meaning of their own, the set of texts each matches, apart from the patterns that
read lexemes: a class of characters, the empty text, sequence, choice and repetition. The
expressions the scanners write (`\d+`, `[a-zA-Z_][a-zA-Z0-9_]*`, …) are then definitions here, and
each is described by the shape of the texts it matches.

`\d` is the class of decimal digits of every script (`Digits.isDigit`), and `.` every character
but a line end, as in the regular expressions of the scanners' language.
-/
namespace MatrixLang

/-- Regular expressions over characters. A class is one character that passes a test. -/
inductive Regex where
  | cls (p : Char → Bool)
  | eps
  | seq (a b : Regex)
  | alt (a b : Regex)
  | star (a : Regex)

namespace Regex

/-- The texts a regular expression matches. -/
inductive Matches : Regex → List Char → Prop
  | cls {p : Char → Bool} {c : Char} : p c = true → Matches (.cls p) [c]
  | eps : Matches .eps []
  | seq {a b : Regex} {u v : List Char} : Matches a u → Matches b v → Matches (.seq a b) (u ++ v)
  | left {a b : Regex} {u : List Char} : Matches a u → Matches (.alt a b) u
  | right {a b : Regex} {u : List Char} : Matches b u → Matches (.alt a b) u
  | none {a : Regex} : Matches (.star a) []
  | more {a : Regex} {u v : List Char} : Matches a u → Matches (.star a) v →
      Matches (.star a) (u ++ v)

/-- One given character. -/
def char (c : Char) : Regex := .cls (· == c)

/-- The characters of a text, in order. -/
def word : List Char → Regex
  | [] => .eps
  | c :: cs => .seq (char c) (word cs)

/-- One or more. -/
def plus (a : Regex) : Regex := .seq a (.star a)

/-- Possibly. -/
def opt (a : Regex) : Regex := .alt .eps a

/-! ### The texts of each form -/

variable {p : Char → Bool} {a b : Regex} {w : List Char}

@[simp] theorem matches_cls : Matches (.cls p) w ↔ ∃ c, w = [c] ∧ p c = true := by
  constructor
  · rintro ⟨passes⟩
    exact ⟨_, rfl, passes⟩
  · rintro ⟨c, rfl, passes⟩
    exact .cls passes

@[simp] theorem matches_eps : Matches .eps w ↔ w = [] := by
  constructor
  · rintro ⟨⟩
    rfl
  · rintro rfl
    exact .eps

@[simp] theorem matches_seq : Matches (.seq a b) w ↔ ∃ u v, w = u ++ v ∧ Matches a u ∧ Matches b v := by
  constructor
  · intro matched
    cases matched with
    | seq first second => exact ⟨_, _, rfl, first, second⟩
  · rintro ⟨u, v, rfl, first, second⟩
    exact .seq first second

@[simp] theorem matches_alt : Matches (.alt a b) w ↔ Matches a w ∨ Matches b w := by
  constructor
  · intro matched
    cases matched with
    | left first => exact .inl first
    | right second => exact .inr second
  · rintro (first | second)
    · exact .left first
    · exact .right second

@[simp] theorem matches_char {c : Char} : Matches (char c) w ↔ w = [c] := by
  simp [char]

@[simp] theorem matches_word {s : List Char} : Matches (word s) w ↔ w = s := by
  induction s generalizing w with
  | nil => simp [word]
  | cons c s ih =>
    simp only [word, matches_seq, matches_char, ih]
    constructor
    · rintro ⟨u, v, rfl, rfl, rfl⟩
      rfl
    · rintro rfl
      exact ⟨[c], s, rfl, rfl, rfl⟩

@[simp] theorem matches_opt : Matches (opt a) w ↔ w = [] ∨ Matches a w := by
  simp [opt]

/-- A repetition matches the texts made of parts that each match. -/
theorem matches_star : Matches (.star a) w ↔
    ∃ parts : List (List Char), w = parts.flatten ∧ ∀ u ∈ parts, Matches a u := by
  constructor
  · intro repeated
    generalize shape : Regex.star a = r at repeated
    induction repeated with
    | none => exact ⟨[], rfl, by simp⟩
    | more first _ _ ih =>
      cases shape
      obtain ⟨parts, rfl, each⟩ := ih rfl
      exact ⟨_ :: parts, rfl, by simpa [first] using each⟩
    | _ => cases shape
  · rintro ⟨parts, rfl, each⟩
    induction parts with
    | nil => exact .none
    | cons u parts ih =>
      simp only [List.mem_cons, forall_eq_or_imp] at each
      exact .more each.1 (ih each.2)

/-- A repetition of a class matches the texts whose characters all pass its test. -/
@[simp] theorem matches_star_cls : Matches (.star (.cls p)) w ↔ ∀ c ∈ w, p c = true := by
  constructor
  · intro repeated
    -- induction on the repetition, one character at a time
    generalize shape : Regex.star (.cls p) = r at repeated
    induction repeated with
    | none => simp
    | more first _ _ ih =>
      cases shape
      obtain ⟨c, rfl, passes⟩ := matches_cls.1 first
      simpa [passes] using ih rfl
    | _ => cases shape
  · intro all
    induction w with
    | nil => exact .none
    | cons c w ih =>
      simp only [List.mem_cons, forall_eq_or_imp] at all
      exact .more (u := [c]) (.cls all.1) (ih all.2)

@[simp] theorem matches_plus_cls : Matches (plus (.cls p)) w ↔ w ≠ [] ∧ ∀ c ∈ w, p c = true := by
  simp only [plus, matches_seq, matches_cls, matches_star_cls]
  constructor
  · rintro ⟨u, v, rfl, ⟨c, rfl, passes⟩, rest⟩
    simpa [passes] using rest
  · rintro ⟨nonempty, all⟩
    obtain ⟨c, v, rfl⟩ := List.exists_cons_of_ne_nil nonempty
    simp only [List.mem_cons, forall_eq_or_imp] at all
    exact ⟨[c], v, rfl, ⟨c, rfl, all.1⟩, all.2⟩

theorem plus_cls_head (matched : Matches (plus (.cls p)) w) : ∃ c rest, w = c :: rest ∧ p c = true := by
  obtain ⟨nonempty, all⟩ := matches_plus_cls.1 matched
  obtain ⟨c, rest, rfl⟩ := List.exists_cons_of_ne_nil nonempty
  exact ⟨c, rest, rfl, all c List.mem_cons_self⟩

/-! ### The expressions of the scanners -/

/-- A character that may start a name: an ASCII letter or `_`. -/
def nameStart (c : Char) : Bool := decide (('a' ≤ c ∧ c ≤ 'z') ∨ ('A' ≤ c ∧ c ≤ 'Z') ∨ c = '_')

/-- A character that may continue a name: one that may start it, or an ASCII digit. -/
def nameChar (c : Char) : Bool := nameStart c || decide ('0' ≤ c ∧ c ≤ '9')

/-- `[a-zA-Z_][a-zA-Z0-9_]*` -/
def identifier : Regex := .seq (.cls nameStart) (.star (.cls nameChar))

/-- `\d+` -/
def digits : Regex := plus (.cls Digits.isDigit)

/-- `[eE][-+]?\d+` -/
def exponent : Regex :=
  .seq (.cls fun c => c == 'e' || c == 'E') (.seq (opt (.cls fun c => c == '+' || c == '-')) digits)

/-- `(\d+\.\d*|\.\d+)([eE][-+]?\d+)?|\d+[eE][-+]?\d+` -/
def decimal : Regex :=
  .alt (.seq (.alt (.seq digits (.seq (char '.') (.star (.cls Digits.isDigit))))
      (.seq (char '.') digits)) (opt exponent))
    (.seq digits exponent)

/-- `\#.*` -/
def comment : Regex := .seq (char '#') (.star (.cls (· != '\n')))

/-- `\n+` -/
def lineEnds : Regex := plus (char '\n')

/-- `[^"\\]|\\.`: a character of an escaped string, or a backslash and the character it takes,
any but a line end. -/
def escapedChunk : Regex :=
  .alt (.cls fun c => c != '"' && c != '\\') (.seq (char '\\') (.cls (· != '\n')))

/-- `"([^"\\]|\\.)*"` -/
def escapedString : Regex := .seq (char '"') (.seq (.star escapedChunk) (char '"'))

/-- `(".*?")|('.*?')`, as a set of texts: the laziness of `*?` chooses among them. -/
def quotedLine : Regex :=
  .alt (.seq (char '"') (.seq (.star (.cls (· != '\n'))) (char '"')))
    (.seq (char '\'') (.seq (.star (.cls (· != '\n'))) (char '\'')))

end Regex

end MatrixLang
