import ContractProxy.Text.Basic

/-!
Lines of a text. A line ends at a line feed, and one carriage return before the line feed belongs
to the ending.
-/

set_option autoImplicit false

namespace ContractProxy.Text

/-- A line without the carriage return of its ending; the line is given in reverse. -/
def endedLine : Text → Text
  | '\r' :: line => line.reverse
  | line => line.reverse

/-- `done` holds the lines before the current one, and both are in reverse. -/
def linesFrom : List Text → Text → Text → List Text
  | done, [], [] => done.reverse
  | done, current, [] => (current.reverse :: done).reverse
  | done, current, '\n' :: rest => linesFrom (endedLine current :: done) [] rest
  | done, current, c :: rest => linesFrom done (c :: current) rest

/-- The lines of a text; the last one need not be ended, and an empty rest is no line. -/
def lines (t : Text) : List Text :=
  linesFrom [] [] t

example : lines "a\r\nb\n\nc\r" = [['a'], ['b'], [], ['c', '\r']] := by decide

end ContractProxy.Text
