import MatrixLang.Lexer.Token
import MatrixLang.Lexer.Pattern
import MatrixLang.Number.Binary64
import MatrixLang.Text.Quote

/-!
# Lexicons and scanning

A lexicon is an ordered list of rules, a set of one-character literals, the blank characters and
a policy for characters nothing accepts. Scanning walks the text once:

* a blank character is skipped;
* otherwise the first rule, in list order, whose pattern applies takes its lexeme (the first,
  not the longest: order decides between rules);
* otherwise a literal character is a token of its own kind;
* otherwise the character is reported and skipped, or scanning halts on it, as the lexicon says.

A whole number of more than `numeralLimit` digits cannot be read, and scanning stops on it.
Line numbers start at 1 and grow by the line ends of the lexemes whose rule counts them.
The scan is a list of events (tokens and reports, in text order) and possibly the reason it
stopped early, so a consumer sees the reports interleaved with the tokens it reads, and meets the
stop only when it reads past the last event.
-/
namespace MatrixLang

/-- How the text of a lexeme becomes the value of its token. -/
inductive Reading where
  | text
  | integer
  | decimal
  deriving DecidableEq

/-- What a rule does with the lexeme it takes. -/
inductive Role where
  /-- A token of this kind; `lines` says whether line ends inside the lexeme are counted. -/
  | emit (kind : String) (reading : Reading) (lines : Bool)
  /-- Nothing, counting the lexeme's line ends if `lines`. -/
  | drop (lines : Bool)

/-- The kind of the tokens a role makes, if it makes any. -/
def Role.kind? : Role → Option String
  | .emit kind _ _ => some kind
  | .drop _ => none

/-- A rule: its pattern, its role, and the words that turn its tokens into keywords. -/
structure Rule where
  pattern : Pattern
  role : Role
  keywords : List (String × String) := []

/-- What becomes of a character that no rule or literal accepts. -/
inductive BadChar where
  /-- It is reported, after the given lead, and skipped. -/
  | report (lead : String)
  /-- Scanning stops on it. -/
  | halt

/-- A lexicon. -/
structure Lexicon where
  rules : List Rule
  literals : List Char
  blanks : List Char := [' ', '\t']
  onBad : BadChar

/-- The value of a decimal lexeme: digits, an optional fraction and an optional exponent. -/
def Reading.readDecimal (cs : List Char) : Float :=
  let whole := cs.takeWhile Digits.isDigit
  let rest := cs.drop whole.length
  let (frac, rest) := match rest with
    | '.' :: r => let f := r.takeWhile Digits.isDigit; (f, r.drop f.length)
    | _ => ([], rest)
  let exp : Int := match rest with
    | _ :: '-' :: ds => -(Digits.toNat ds : Int)
    | _ :: '+' :: ds => Digits.toNat ds
    | _ :: ds => Digits.toNat ds
    | [] => 0
  Binary64.ofDecimal (Digits.toNat (whole ++ frac)) (exp - frac.length)

/-- The value a reading gives to a lexeme. -/
def Reading.read : Reading → List Char → Payload
  | .text, cs => .text (String.ofList cs)
  | .integer, cs => .int (Digits.toNat cs)
  | .decimal, cs => .float (Reading.readDecimal cs)

/-- The kind of a token, after keywords. -/
def Rule.kindOf (r : Rule) (kind : String) (text : String) : String :=
  match r.keywords.lookup text with
  | some k => k
  | none => kind

namespace Lexicon

/-- A step of a scan as a consumer sees it. -/
inductive Event where
  | token (t : Token)
  /-- A character nothing accepts, on the given line. -/
  | bad (c : Char) (line : Nat)

/-- Why a scan ended before the end of the text. -/
inductive Stop where
  /-- A character nothing accepts, at an offset, in a lexicon that halts on one. -/
  | illegal (c : Char) (offset : Nat)
  /-- A whole number with this many digits, more than `numeralLimit`. -/
  | longNumeral (digits : Nat)

/-- The events of a scan and, if it ended early, why. -/
structure Scan where
  events : List Event
  stop : Option Stop

/-- The most digits a whole number may be written with. -/
def numeralLimit : Nat := 4300

/-- The report of a character nothing accepts. -/
def badMessage (lead : String) (c : Char) (line : Nat) : String :=
  s!"{lead}Line {line}: Bad character {Quote.quote (String.singleton c)}"

/-- The text that leads each report of a bad character. -/
def lead (lx : Lexicon) : String :=
  match lx.onBad with
  | .report lead => lead
  | .halt => ""

/-- The first rule that applies at the start of the text, with the length it takes. -/
def firstRule (lx : Lexicon) (cs : List Char) : Option (Rule × Nat) :=
  lx.rules.findSome? fun r => (r.pattern cs).map (r, ·)

theorem drop_shorter {α : Type} (c : α) (rest : List α) (n : Nat) (h : 0 < n) :
    ((c :: rest).drop n).length < (c :: rest).length := by
  simp only [List.length_drop, List.length_cons]
  omega

set_option linter.unusedVariables false in
/-- Scans the text from the given offset and line, after the events already seen. -/
def scanFrom (lx : Lexicon) (cs : List Char) (offset line : Nat) (seen : Array Event) : Scan :=
  match cs with
  | [] => ⟨seen.toList, none⟩
  | c :: rest =>
    if lx.blanks.contains c then lx.scanFrom rest (offset + 1) line seen
    else match lx.firstRule (c :: rest) with
      | some (rule, n) =>
        if hn : 0 < n then
          let lexeme := (c :: rest).take n
          let breaks := if (match rule.role with | .emit _ _ l => l | .drop l => l)
            then lexeme.count '\n' else 0
          match rule.role with
          | .emit kind reading _ =>
            if reading = .integer ∧ lexeme.length > numeralLimit then
              ⟨seen.toList, some (.longNumeral lexeme.length)⟩
            else
              let text := String.ofList lexeme
              lx.scanFrom ((c :: rest).drop n) (offset + n) (line + breaks)
                (seen.push (.token ⟨rule.kindOf kind text, reading.read lexeme, line, offset⟩))
          | .drop _ => lx.scanFrom ((c :: rest).drop n) (offset + n) (line + breaks) seen
        else ⟨seen.toList, none⟩
      | none =>
        if lx.literals.contains c then
          lx.scanFrom rest (offset + 1) line
            (seen.push (.token ⟨String.singleton c, .text (String.singleton c), line, offset⟩))
        else match lx.onBad with
          | .report _ => lx.scanFrom rest (offset + 1) line (seen.push (.bad c line))
          | .halt => ⟨seen.toList, some (.illegal c offset)⟩
termination_by cs.length
decreasing_by
  all_goals first
    | exact drop_shorter c rest n hn
    | simp only [List.length_cons]; omega

/-- The scan of a whole source text. -/
def scan (lx : Lexicon) (src : String) : Scan := lx.scanFrom src.toList 0 1 #[]

/-- The tokens of a scan, without the reports. -/
def Scan.tokens (s : Scan) : List Token :=
  s.events.filterMap fun | .token t => some t | .bad _ _ => none

end Lexicon
end MatrixLang
