/-!
# Pieces of texts

A text cut at every occurrence of a separator.
-/

namespace EventCorrelation.Text

/-- The pieces of a text between single separators: one more than there are separators. -/
def pieces (separator : Char) : List Char → List (List Char)
  | [] => [[]]
  | symbol :: rest =>
    if symbol = separator then [] :: pieces separator rest
    else match pieces separator rest with
      | [] => [[symbol]]
      | piece :: more => (symbol :: piece) :: more

/-- There is always at least one piece. -/
theorem pieces_ne_nil (separator : Char) (text : List Char) : pieces separator text ≠ [] := by
  cases text with
  | nil => simp [pieces]
  | cons symbol rest =>
    unfold pieces
    split
    · simp
    · split <;> simp

end EventCorrelation.Text
