import MatrixLang.Text.Printable

/-!
# Quoted text

The quoted form of a string, as error messages and the text of lists show it. The string is put
between single quotes, or between double quotes when it holds a single quote and no double quote.
Inside, the backslash and the chosen quote are escaped, tab, line feed and carriage return are
written `\t`, `\n`, `\r`, other characters that do not print (see `MatrixLang.Printable`) are
written by their code in hexadecimal (`\xhh`, `\uhhhh` or `\Uhhhhhhhh`), and every other
character stands for itself.
-/
namespace MatrixLang.Quote

/-- `n` as `width` lowercase hexadecimal digits. -/
def hex (width n : Nat) : List Char :=
  (List.range width).reverse.map fun i => Nat.digitChar ((n / Nat.pow 16 i) % 16)

/-- The escaped form of one character inside quotes `q`. -/
def escape (q c : Char) : List Char :=
  if c = q ∨ c = '\\' then ['\\', c]
  else if c = '\t' then ['\\', 't']
  else if c = '\n' then ['\\', 'n']
  else if c = '\r' then ['\\', 'r']
  else if Printable.prints c then [c]
  else if c.toNat ≤ 0xFF then '\\' :: 'x' :: hex 2 c.toNat
  else if c.toNat ≤ 0xFFFF then '\\' :: 'u' :: hex 4 c.toNat
  else '\\' :: 'U' :: hex 8 c.toNat

/-- The quoted form of a string. -/
def quote (s : String) : String :=
  let cs := s.toList
  let q := if cs.contains '\'' ∧ !cs.contains '"' then '"' else '\''
  String.ofList (q :: cs.flatMap (escape q) ++ [q])

end MatrixLang.Quote
