/-!
# Console output

The tools of the language write text to two streams, the standard output and the error stream.
A `Console` records what was written, in order; each stream is the concatenation of the pieces
written to it.
-/
namespace MatrixLang

/-- The two output streams. -/
inductive Stream where
  | out
  | err
  deriving DecidableEq, Repr

/-- Text written so far, piece by piece, with the stream of each piece. -/
structure Console where
  pieces : Array (Stream × String) := #[]
  deriving Inhabited

namespace Console

/-- Writes text to a stream. -/
def write (c : Console) (s : Stream) (text : String) : Console := ⟨c.pieces.push (s, text)⟩

/-- Writes a line (the text and a line end) to the standard output. -/
def printLine (c : Console) (text : String) : Console := c.write .out (text ++ "\n")

/-- Everything written to a stream. -/
def contents (c : Console) (s : Stream) : String :=
  c.pieces.foldl (fun acc (s', t) => if s' = s then acc ++ t else acc) ""

/-- Everything written to the standard output. -/
def stdout (c : Console) : String := c.contents .out

/-- Everything written to the error stream. -/
def stderr (c : Console) : String := c.contents .err

/-- The pieces of one console followed by those of another. -/
def append (c d : Console) : Console := ⟨c.pieces ++ d.pieces⟩

end Console
end MatrixLang
