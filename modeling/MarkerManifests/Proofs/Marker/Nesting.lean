import MarkerManifests.Proofs.Marker.Splitting

/-!
# Texts read from the left

A text that is read from the left leads to a spot, which is in quotes or outside them and inside a
number of brackets. Where a character stands is the spot to which the text before it leads. A text
is split at exactly the separators outside quotes and brackets, and a key ends at the first equals
sign outside quotes. A piece begins outside quotes like the whole text, so the two agree on what is
quoted.
-/

namespace MarkerManifests
namespace Quoting

/-! ## Spots -/

/-- The place after one more character. -/
def Place.next (place : Place) (character : Char) : Place :=
  match place with
  | .outside =>
    if character = '"' then .inString else if character = '\x60' then .inRaw else .outside
  | .inString =>
    if character = '\\' then .escaped else if character = '"' then .outside else .inString
  | .escaped => .inString
  | .inRaw => if character = '\x60' then .outside else .inRaw

/-- A place and the number of brackets that are open there. -/
structure Spot where
  place : Place
  depth : Nat

namespace Spot

/-- Where every text begins. -/
def start : Spot := ⟨.outside, 0⟩

/-- The number of open brackets after a character outside quotes. A closing bracket without an
opening one changes nothing. -/
def nextDepth (depth : Nat) (character : Char) : Nat :=
  if character = '{' ∨ character = '[' then depth + 1
  else if character = '}' ∨ character = ']' then depth - 1
  else depth

/-- The spot after one more character. -/
def next (spot : Spot) (character : Char) : Spot where
  place := spot.place.next character
  depth := if spot.place = .outside then nextDepth spot.depth character else spot.depth

/-- The spot after a text. -/
def after (spot : Spot) (text : List Char) : Spot :=
  text.foldl next spot

/-- Outside quotes. -/
def IsUnquoted (spot : Spot) : Prop :=
  spot.place = .outside

/-- Outside quotes and brackets. -/
def IsTop (spot : Spot) : Prop :=
  spot.place = .outside ∧ spot.depth = 0

theorem IsTop.eq_start {spot : Spot} (isTop : spot.IsTop) : spot = start := by
  cases spot
  obtain ⟨rfl, rfl⟩ := isTop
  rfl

theorem after_cons (spot : Spot) (character : Char) (rest : List Char) :
    spot.after (character :: rest) = (spot.next character).after rest := rfl

end Spot

/-! ## Hidden characters -/

/-- Wherever the character occurs in the text, it stands at a spot where it does not count. -/
def Hides (counts : Spot → Prop) (character : Char) (spot : Spot) (text : List Char) : Prop :=
  ∀ before after, text = before ++ character :: after → ¬ counts (spot.after before)

variable {counts : Spot → Prop} {character separator : Char} {spot : Spot}
  {text rest piece key value : List Char} {pieces : List (List Char)}

theorem hides_nil (counts : Spot → Prop) (character : Char) (spot : Spot) :
    Hides counts character spot [] :=
  fun before _ shape => absurd shape.symm (List.append_ne_nil_of_right_ne_nil before nofun)

theorem hides_cons_iff {first : Char} :
    Hides counts character spot (first :: rest) ↔
      ¬ (first = character ∧ counts spot) ∧ Hides counts character (spot.next first) rest := by
  constructor
  · intro hidden
    refine ⟨?_, fun before after shape => ?_⟩
    · rintro ⟨rfl, exposed⟩
      exact hidden [] rest rfl exposed
    · exact hidden (first :: before) after (congrArg _ shape)
  · rintro ⟨notFirst, hidden⟩ before after shape exposed
    cases before with
    | nil => exact notFirst ⟨(List.cons.inj shape).1, exposed⟩
    | cons _ before =>
        obtain ⟨rfl, sameRest⟩ := List.cons.inj shape
        exact hidden before after sameRest exposed

/-- If a character is not hidden, there is a first occurrence that counts. -/
theorem exists_eq_append_of_not_hides (exposed : ¬ Hides counts character spot text) :
    ∃ before after, text = before ++ character :: after ∧ Hides counts character spot before ∧
      counts (spot.after before) := by
  induction text generalizing spot with
  | nil => exact absurd (hides_nil counts character spot) exposed
  | cons first rest inductionHypothesis =>
      by_cases isFirst : first = character ∧ counts spot
      · obtain ⟨rfl, here⟩ := isFirst
        exact ⟨[], rest, rfl, hides_nil counts first spot, here⟩
      · have later : ¬ Hides counts character (spot.next first) rest := fun hidden =>
          exposed (hides_cons_iff.mpr ⟨isFirst, hidden⟩)
        obtain ⟨before, after, rfl, hidden, here⟩ := inductionHypothesis later
        exact ⟨first :: before, after, rfl, hides_cons_iff.mpr ⟨isFirst, hidden⟩, here⟩

/-! ## Splitting -/

/-- A separator that does not count, like any other character, belongs to the first piece. -/
theorem splitFrom_cons_next
    (hidden : ¬ (character = separator ∧ spot.IsTop))
    (rest : List Char) :
    splitFrom separator spot.place spot.depth (character :: rest) =
      (splitFrom separator (spot.next character).place (spot.next character).depth rest).map
        (extend character) := by
  obtain ⟨place, depth⟩ := spot
  cases place with
  | inString => rfl
  | escaped => rfl
  | inRaw => rfl
  | outside =>
      have notBoth : ¬ (character = separator ∧ depth = 0) := fun both =>
        hidden ⟨both.1, rfl, both.2⟩
      rw [splitFrom, Spot.next, Spot.nextDepth, Place.next, if_neg notBoth, if_pos rfl]
      dsimp only
      by_cases quote : character = '"'
      · subst quote
        rfl
      by_cases raw : character = '\x60'
      · subst raw
        rfl
      rw [if_neg quote, if_neg raw, if_neg quote, if_neg raw]
      split
      · rfl
      · split <;> rfl

/-- A text without separators that count is one piece if it ends outside quotes. -/
theorem splitFrom_eq_ok_iff_of_hides (hidden : Hides Spot.IsTop separator spot text) :
    splitFrom separator spot.place spot.depth text = .ok pieces ↔
      (spot.after text).IsUnquoted ∧ pieces = [text] := by
  induction text generalizing spot pieces with
  | nil =>
      obtain ⟨place, depth⟩ := spot
      cases place <;> simp [splitFrom, Spot.after, Spot.IsUnquoted, eq_comm]
  | cons first rest inductionHypothesis =>
      obtain ⟨notFirst, hiddenRest⟩ := hides_cons_iff.mp hidden
      rw [splitFrom_cons_next notFirst, Spot.after_cons]
      constructor
      · intro isSplit
        obtain ⟨later, found, rfl⟩ := Except.exists_of_map_eq_ok isSplit
        obtain ⟨ends, rfl⟩ := (inductionHypothesis hiddenRest).mp found
        exact ⟨ends, rfl⟩
      · rintro ⟨ends, rfl⟩
        rw [(inductionHypothesis hiddenRest).mpr ⟨ends, rfl⟩]
        rfl

/-- A piece ends at the first separator that counts. -/
theorem splitFrom_append_of_hides
    (separates : separator ∉ enclosing)
    (hidden : Hides Spot.IsTop separator spot piece)
    (ends : (spot.after piece).IsTop)
    (rest : List Char) :
    splitFrom separator spot.place spot.depth (piece ++ separator :: rest) =
      (split separator rest).map (piece :: ·) := by
  induction piece generalizing spot with
  | nil =>
      rw [List.nil_append, show spot = .start from ends.eq_start]
      exact splitFrom_outside_separator separates rest
  | cons first piece inductionHypothesis =>
      obtain ⟨notFirst, hiddenRest⟩ := hides_cons_iff.mp hidden
      rw [List.cons_append, splitFrom_cons_next notFirst, inductionHypothesis hiddenRest ends]
      cases split separator rest <;> rfl

/-- A text is split at the separators outside quotes and brackets, and it ends outside quotes. -/
inductive Splits (separator : Char) : List Char → List (List Char) → Prop where
  | last
      {piece : List Char}
      (hidden : Hides Spot.IsTop separator .start piece)
      (ends : (Spot.start.after piece).IsUnquoted) :
      Splits separator piece [piece]
  | cut
      {piece rest : List Char}
      {pieces : List (List Char)}
      (hidden : Hides Spot.IsTop separator .start piece)
      (ends : (Spot.start.after piece).IsTop)
      (splits : Splits separator rest pieces) :
      Splits separator (piece ++ separator :: rest) (piece :: pieces)

/-- A text is only split at separators that count. -/
theorem splits_of_split
    (separates : separator ∉ enclosing)
    (isSplit : split separator text = .ok pieces) :
    Splits separator text pieces := by
  induction pieces generalizing text with
  | nil => exact absurd rfl (splitFrom_ne_nil isSplit)
  | cons first others inductionHypothesis =>
      by_cases hidden : Hides Spot.IsTop separator .start text
      · obtain ⟨ends, single⟩ := (splitFrom_eq_ok_iff_of_hides hidden).mp isSplit
        cases single
        exact .last hidden ends
      · obtain ⟨piece, rest, rfl, hiddenPiece, ends⟩ := exists_eq_append_of_not_hides hidden
        obtain ⟨pieces, found, same⟩ := Except.exists_of_map_eq_ok
          ((splitFrom_append_of_hides separates hiddenPiece ends rest).symm.trans isSplit)
        cases same
        exact .cut hiddenPiece ends (inductionHypothesis found)

/-- A text is split at all separators that count. -/
theorem Splits.split_eq_ok
    (splits : Splits separator text pieces)
    (separates : separator ∉ enclosing) :
    split separator text = .ok pieces := by
  induction splits with
  | last hidden ends => exact (splitFrom_eq_ok_iff_of_hides hidden).mpr ⟨ends, rfl⟩
  | cut hidden ends _ inductionHypothesis =>
      refine (splitFrom_append_of_hides separates hidden ends _).trans ?_
      rw [inductionHypothesis]
      rfl

theorem split_eq_ok_iff (separates : separator ∉ enclosing) :
    split separator text = .ok pieces ↔ Splits separator text pieces :=
  ⟨splits_of_split separates, fun splits => splits.split_eq_ok separates⟩

/-! ## Keys -/

/-- A piece and its key, which ends at the first equals sign outside quotes, with the value after
the sign; a piece without such a sign is a key without a value. -/
inductive HasKey : List Char → List Char → Option (List Char) → Prop where
  | value
      {key : List Char}
      (hidden : Hides Spot.IsUnquoted '=' .start key)
      (ends : (Spot.start.after key).IsUnquoted)
      (value : List Char) :
      HasKey (key ++ '=' :: value) key (some value)
  | alone
      {key : List Char}
      (hidden : Hides Spot.IsUnquoted '=' .start key) :
      HasKey key key none

theorem cutKeyFrom?_cons_next
    (hidden : ¬ (character = '=' ∧ spot.IsUnquoted))
    (rest : List Char) :
    cutKeyFrom? spot.place (character :: rest) =
      (cutKeyFrom? (spot.next character).place rest).map fun (key, value) =>
        (character :: key, value) := by
  obtain ⟨place, depth⟩ := spot
  cases place with
  | inString => rfl
  | escaped => rfl
  | inRaw => rfl
  | outside =>
      rw [cutKeyFrom?, if_neg fun same => hidden ⟨same, rfl⟩]
      rfl

theorem cutKeyFrom?_eq_none_of_hides (hidden : Hides Spot.IsUnquoted '=' spot text) :
    cutKeyFrom? spot.place text = none := by
  induction text generalizing spot with
  | nil => cases spot.place <;> rfl
  | cons first rest inductionHypothesis =>
      obtain ⟨notFirst, hiddenRest⟩ := hides_cons_iff.mp hidden
      rw [cutKeyFrom?_cons_next notFirst, inductionHypothesis hiddenRest]
      rfl

theorem cutKeyFrom?_append_of_hides
    (hidden : Hides Spot.IsUnquoted '=' spot key)
    (ends : (spot.after key).IsUnquoted)
    (value : List Char) :
    cutKeyFrom? spot.place (key ++ '=' :: value) = some (key, value) := by
  induction key generalizing spot with
  | nil =>
      rw [List.nil_append, show spot.place = .outside from ends, cutKeyFrom?, if_pos rfl]
  | cons first key inductionHypothesis =>
      obtain ⟨notFirst, hiddenRest⟩ := hides_cons_iff.mp hidden
      rw [List.cons_append, cutKeyFrom?_cons_next notFirst, inductionHypothesis hiddenRest ends]
      rfl

/-- The reader cuts a piece at exactly the equals sign that ends the key. -/
theorem cutKey?_of_hasKey
    {parts : Option (List Char)}
    (hasKey : HasKey piece key parts) :
    cutKey? piece = parts.map (key, ·) := by
  cases hasKey with
  | value hidden ends value => exact cutKeyFrom?_append_of_hides hidden ends value
  | alone hidden => exact cutKeyFrom?_eq_none_of_hides hidden

/-- Every piece has a key. -/
theorem exists_hasKey (piece : List Char) : ∃ key value, HasKey piece key value := by
  by_cases hidden : Hides Spot.IsUnquoted '=' .start piece
  · exact ⟨piece, none, .alone hidden⟩
  · obtain ⟨key, value, rfl, hiddenKey, ends⟩ := exists_eq_append_of_not_hides hidden
    exact ⟨key, some value, .value hiddenKey ends value⟩

end Quoting
end MarkerManifests
