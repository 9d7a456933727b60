/-!
Contract: a text cut at every occurrence of a separator.

Owns:
- the cut, which has always a first piece;
- the cut of a text without separators, and of a text behind its first separator;
- that no piece holds a separator, that the pieces make up the text, and how many there are.

Does not own: what the pieces mean.
-/

namespace Attachments.Text

def pieces (separator : Char) : List Char → List Char × List (List Char)
  | [] => ([], [])
  | character :: rest =>
    let (first, others) := pieces separator rest
    if character = separator then ([], first :: others) else (character :: first, others)

theorem pieces_of_not_mem {separator : Char} {text : List Char} (absent : separator ∉ text) :
    pieces separator text = (text, []) := by
  induction text with
  | nil => rfl
  | cons character rest inductionHypothesis =>
    rw [List.mem_cons, not_or] at absent
    simp [pieces, inductionHypothesis absent.2, Ne.symm absent.1]

/-- Behind its first separator a text is cut like a text of its own. -/
theorem pieces_append_separator
    {separator : Char}
    {before : List Char}
    (absent : separator ∉ before)
    (after : List Char) :
    pieces separator (before ++ separator :: after) =
      (before, (pieces separator after).1 :: (pieces separator after).2) := by
  induction before with
  | nil => simp [pieces]
  | cons character rest inductionHypothesis =>
    rw [List.mem_cons, not_or] at absent
    simp [pieces, inductionHypothesis absent.2, Ne.symm absent.1]

/-- No piece holds a separator. -/
theorem separator_not_mem_pieces (separator : Char) (text : List Char) :
    separator ∉ (pieces separator text).1 ∧
      ∀ piece ∈ (pieces separator text).2, separator ∉ piece := by
  induction text with
  | nil => simp [pieces]
  | cons character rest inductionHypothesis =>
    obtain ⟨first, others⟩ := inductionHypothesis
    by_cases same : character = separator
    · simpa [pieces, same] using ⟨first, others⟩
    · simpa [pieces, same, Ne.symm same] using ⟨first, others⟩

/-- The pieces with a separator before each but the first make up the text. -/
theorem pieces_joined (separator : Char) (text : List Char) :
    (pieces separator text).1 ++ (pieces separator text).2.flatMap (separator :: ·) = text := by
  induction text with
  | nil => rfl
  | cons character rest inductionHypothesis =>
    by_cases same : character = separator
    · simp [pieces, same, inductionHypothesis]
    · simp [pieces, same, inductionHypothesis]

/-- There is one piece behind the first for every separator. -/
theorem length_pieces (separator : Char) (text : List Char) :
    (pieces separator text).2.length = text.count separator := by
  induction text with
  | nil => rfl
  | cons character rest inductionHypothesis =>
    by_cases same : character = separator
    · simp [pieces, same, inductionHypothesis]
    · simp [pieces, same, inductionHypothesis]

end Attachments.Text
