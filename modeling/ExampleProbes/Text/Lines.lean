/-
The lines of a text. A line ends at a line feed; one carriage return before that line feed
belongs to the ending. A last line needs no ending, and then keeps its carriage return.
-/
namespace ExampleProbes.Text

def dropReturn : List Char → List Char
  | '\r' :: line => line
  | line => line

/-- `pending` is the line read so far, its last character first. -/
def linesFrom (pending : List Char) : List Char → List (List Char)
  | [] => if pending.isEmpty then [] else [pending.reverse]
  | '\n' :: rest => (dropReturn pending).reverse :: linesFrom [] rest
  | c :: rest => linesFrom (c :: pending) rest

def lines (text : List Char) : List (List Char) := linesFrom [] text

/-- A line without line feed, followed by one, is the first line of the text. -/
theorem linesFrom_append_newline (pending line rest : List Char) (h : '\n' ∉ line) :
    linesFrom pending (line ++ '\n' :: rest) =
      (dropReturn (line.reverse ++ pending)).reverse :: lines rest := by
  induction line generalizing pending with
  | nil => rfl
  | cons c line ih =>
    simp only [List.mem_cons, not_or] at h
    have step : linesFrom pending (c :: (line ++ '\n' :: rest)) =
        linesFrom (c :: pending) (line ++ '\n' :: rest) := by
      rw [linesFrom]
      intro e
      exact h.1 e.symm
    simp only [List.cons_append, step, ih _ h.2, List.reverse_cons, List.append_assoc,
      List.nil_append]

end ExampleProbes.Text
