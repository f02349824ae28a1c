/-!
# Cutting a text at a separator

A text is cut at every occurrence of a separator (`pieces`), at the first one (`cutFirst?`) or at
the last one (`cutLast?`). Joining the pieces with the separator gives the text back.
-/

namespace MarkerManifests
namespace Text

/-- The pieces of a text between the occurrences of a separator, of which there is always one. -/
def pieces (separator : Char) : List Char → List (List Char)
  | [] => [[]]
  | character :: rest =>
    if character = separator then
      [] :: pieces separator rest
    else
      match pieces separator rest with
      | [] => [[character]]
      | first :: others => (character :: first) :: others

/-- The text before and after the first occurrence of a separator. -/
def cutFirst? (separator : Char) : List Char → Option (List Char × List Char)
  | [] => none
  | character :: rest =>
    if character = separator then
      some ([], rest)
    else
      (cutFirst? separator rest).map fun (before, after) => (character :: before, after)

/-- The text before and after the last occurrence of a separator. -/
def cutLast? (separator : Char) : List Char → Option (List Char × List Char)
  | [] => none
  | character :: rest =>
    match cutLast? separator rest with
    | some (before, after) => some (character :: before, after)
    | none => if character = separator then some ([], rest) else none

/-- The pieces joined with a separator. -/
def joined (separator : List Char) : List (List Char) → List Char
  | [] => []
  | [only] => only
  | first :: second :: others => first ++ separator ++ joined separator (second :: others)

@[simp] theorem pieces_nil (separator : Char) : pieces separator [] = [[]] := rfl

@[simp] theorem pieces_cons_self (separator : Char) (rest : List Char) :
    pieces separator (separator :: rest) = [] :: pieces separator rest := by
  simp [pieces]

theorem pieces_ne_nil (separator : Char) (text : List Char) : pieces separator text ≠ [] := by
  cases text with
  | nil => simp
  | cons character rest =>
    unfold pieces
    split
    · simp
    · split <;> simp

@[simp] theorem joined_nil (separator : List Char) : joined separator [] = [] := rfl

@[simp] theorem joined_singleton (separator only : List Char) :
    joined separator [only] = only := rfl

@[simp] theorem joined_cons_cons (separator first second : List Char)
    (others : List (List Char)) :
    joined separator (first :: second :: others) =
      first ++ separator ++ joined separator (second :: others) := rfl

/-- Joining the pieces of a text with the separator gives the text back. -/
theorem joined_pieces (separator : Char) (text : List Char) :
    joined [separator] (pieces separator text) = text := by
  induction text with
  | nil => rfl
  | cons character rest step =>
    unfold pieces
    split
    · rename_i same
      subst same
      cases found : pieces character rest with
      | nil => exact absurd found (pieces_ne_nil character rest)
      | cons first others =>
        rw [found] at step
        simp [step]
    · cases found : pieces separator rest with
      | nil => exact absurd found (pieces_ne_nil separator rest)
      | cons first others =>
        rw [found] at step
        cases others with
        | nil => simpa using step
        | cons second more => simpa using step

end Text
end MarkerManifests
