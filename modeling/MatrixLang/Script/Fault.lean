import MatrixLang.Text.Quote

/-!
# Run-time errors and faults

The checker and the interpreter of version 5 stop on errors the language raises: a missing field
of a node or a symbol, an operation on values of the wrong kinds, an index out of range, an
unknown operator, a division by zero, a number too large for a double, a value out of range, a
value too large to build. Each error has the kind and the message the tools report. The
operations on values raise only the errors of `OpError`; a missing field and an unknown operator
are raised by the tools themselves.

The interpreter also stops on a `return`, `break` or `continue` that no statement catches, and
on a run longer than its step budget. These faults are kept apart from the errors: the
operations on values raise errors only, so no operation can pass for a control transfer.
-/
namespace MatrixLang.Script

/-- The control transfers of the interpreter. -/
inductive Signal where
  | ret
  | brk
  | cont
  deriving DecidableEq, Repr, Inhabited

/-- An error a built-in operation on values raises. -/
inductive OpError where
  /-- An operation on values of the wrong kinds. -/
  | type (message : String)
  /-- An index out of range. -/
  | index (message : String)
  /-- A division by zero. -/
  | zeroDivision (message : String)
  /-- An integer too large for a double. -/
  | overflow (message : String)
  /-- A value out of the range an operation accepts. -/
  | value (message : String)
  /-- A value too large to build. -/
  | memory
  deriving Inhabited

/-- An error the language raises: one of a built-in operation, or one the tools raise
themselves on a node or an operator they cannot handle. -/
inductive Error where
  /-- An object of class `cls` has no field `field`. -/
  | attribute (cls field : String)
  /-- An unknown operator. -/
  | key (name : String)
  /-- An error of an operation on values. -/
  | op (e : OpError)
  deriving Inhabited

/-- A fault that stops the interpreter. -/
inductive Fault where
  /-- An error raised by an operation or a statement. -/
  | raised (e : Error)
  /-- A control transfer that no statement caught. -/
  | escaped (s : Signal)
  /-- A run that went on past its step budget. -/
  | exhausted
  deriving Inhabited

namespace OpError

/-- The kind of an error of an operation, as the tools report it. -/
def kind : OpError → String
  | .type _ => "TypeError"
  | .index _ => "IndexError"
  | .zeroDivision _ => "ZeroDivisionError"
  | .overflow _ => "OverflowError"
  | .value _ => "ValueError"
  | .memory => "MemoryError"

/-- The message of an error of an operation. -/
def message : OpError → String
  | .type m | .index m | .zeroDivision m | .overflow m | .value m => m
  | .memory => ""

end OpError

namespace Error

/-- The kind of an error, as the tools report it. -/
def kind : Error → String
  | .attribute .. => "AttributeError"
  | .key _ => "KeyError"
  | .op e => e.kind

/-- The message of an error. -/
def message : Error → String
  | .attribute cls field => s!"'{cls}' object has no attribute '{field}'"
  | .key name => Quote.quote name
  | .op e => e.message

end Error

namespace Fault

/-- The kind of a fault, as the tools report it. -/
def kind : Fault → String
  | .raised e => e.kind
  | .escaped .ret => "ReturnValueException"
  | .escaped .brk => "BreakException"
  | .escaped .cont => "ContinueException"
  | .exhausted => "Timeout"

/-- The message of a fault. -/
def message : Fault → String
  | .raised e => e.message
  | .escaped _ | .exhausted => ""

end Fault
end MatrixLang.Script
