import MarkerManifests.Marker.FieldPath
import MarkerManifests.Proofs.Text.Cutting
import Mathlib.Data.List.Basic
import Mathlib.Tactic.SplitIfs

/-!
# Paths and their texts

A path has only one text: the one that was read is the one that is written. A list of segments is
read back from its text if and only if it is not empty and every segment closes exactly the
brackets that it opens and has its points and blanks inside brackets.
-/

namespace MarkerManifests
namespace FieldPath

/-- The text of segments. -/
def segmentsText (segments : List (List Char)) : List Char :=
  segments.flatMap ('.' :: ·)

theorem segmentsText_extend
    {character : Char}
    {segments : List (List Char)}
    {text : List Char}
    (follows : segmentsText segments = '.' :: text) :
    segmentsText (extend character segments) = '.' :: character :: text := by
  cases segments with
  | nil => cases follows
  | cons first others =>
      simp only [segmentsText, extend, List.flatMap_cons, List.cons_append,
        List.cons.injEq, true_and] at follows ⊢
      exact follows

theorem readSegments_cons_eq
    (depth : Nat)
    (started : Bool)
    (character : Char)
    (rest : List Char) :
    readSegments depth started (character :: rest) =
      if character = '[' then
        (readSegments (depth + 1) true rest).map (extend character)
      else if character = ']' then
        match depth with
        | 0 => .error .unbalancedClosing
        | depth + 1 => (readSegments depth true rest).map (extend character)
      else if character = '.' ∧ depth = 0 then
        if started then (readSegments 0 false rest).map ([] :: ·) else .error .emptySegment
      else if Text.isBlank character ∧ depth = 0 then
        .error .whitespace
      else
        (readSegments depth true rest).map (extend character) := by
  cases depth <;> cases started <;> rfl

/-- The number of open brackets after one more character. -/
def depthAfter (depth : Nat) (character : Char) : Nat :=
  if character = '[' then depth + 1 else if character = ']' then depth - 1 else depth

/-- Whether a segment can go on with a character: a bracket is closed where one is open, and points
and blanks stand inside brackets. -/
def Fits (depth : Nat) (character : Char) : Prop :=
  character = ']' ∨ character = '.' ∨ Text.isBlank character = true → 0 < depth

theorem readSegments_cons_of_fits
    {depth : Nat}
    {character : Char}
    (fits : Fits depth character)
    (started : Bool)
    (rest : List Char) :
    readSegments depth started (character :: rest) =
      (readSegments (depthAfter depth character) true rest).map (extend character) := by
  have notAtTop : depth = 0 →
      character ≠ ']' ∧ character ≠ '.' ∧ ¬ Text.isBlank character = true := by
    rintro rfl
    exact ⟨fun closes => absurd (fits (Or.inl closes)) (Nat.lt_irrefl 0),
      fun point => absurd (fits (Or.inr (Or.inl point))) (Nat.lt_irrefl 0),
      fun blank => absurd (fits (Or.inr (Or.inr blank))) (Nat.lt_irrefl 0)⟩
  rw [readSegments_cons_eq, depthAfter]
  split_ifs with opens closes point begun blank
  · rfl
  · cases depth with
    | zero => exact absurd closes (notAtTop rfl).1
    | succ depth => rfl
  · exact absurd point.1 (notAtTop point.2).2.1
  · exact absurd point.1 (notAtTop point.2).2.1
  · exact absurd blank.1 (notAtTop blank.2).2.2
  · rfl

/-- A character that fits belongs to the first segment of what follows. Another one can only be the
point behind a segment. -/
theorem readSegments_cons
    {depth : Nat}
    {started : Bool}
    {character : Char}
    {rest : List Char}
    {segments : List (List Char)}
    (isRead : readSegments depth started (character :: rest) = .ok segments) :
    (character = '.' ∧ depth = 0 ∧ started = true ∧
        ∃ later, readSegments 0 false rest = .ok later ∧ [] :: later = segments) ∨
      Fits depth character ∧ ∃ later,
        readSegments (depthAfter depth character) true rest = .ok later ∧
          extend character later = segments := by
  by_cases fits : Fits depth character
  · rw [readSegments_cons_of_fits fits] at isRead
    exact Or.inr ⟨fits, Except.exists_of_map_eq_ok isRead⟩
  · obtain ⟨special, atTop⟩ := Classical.not_imp.mp fits
    obtain rfl : depth = 0 := Nat.eq_zero_of_not_pos atTop
    rw [readSegments_cons_eq] at isRead
    rcases special with rfl | rfl | blank
    · cases isRead
    · cases started with
      | false => cases isRead
      | true => exact Or.inl ⟨rfl, rfl, rfl, Except.exists_of_map_eq_ok isRead⟩
    · split_ifs at isRead with opens closes point begun notBlank
      · subst opens
        exact absurd blank (by decide)
      · obtain ⟨later, found, extended⟩ := Except.exists_of_map_eq_ok isRead
        exact Or.inl ⟨point.1, rfl, begun, later, found, extended⟩
      · exact absurd ⟨blank, rfl⟩ notBlank

/-! ## Reading loses nothing -/

/-- The segments of a text have that text, whatever the depth of the brackets. -/
theorem segmentsText_readSegments
    {depth : Nat}
    {started : Bool}
    {text : List Char}
    {segments : List (List Char)}
    (isRead : readSegments depth started text = .ok segments) :
    segmentsText segments = '.' :: text := by
  induction text generalizing depth started segments with
  | nil =>
      cases depth with
      | zero =>
          cases started with
          | false => cases isRead
          | true =>
              cases isRead
              rfl
      | succ depth => cases isRead
  | cons character rest inductionHypothesis =>
      rcases readSegments_cons isRead with
        ⟨isPoint, -, -, later, found, rfl⟩ | ⟨-, later, found, rfl⟩
      · rw [isPoint, ← inductionHypothesis found]
        rfl
      · exact segmentsText_extend (inductionHypothesis found)

theorem head?_of_read
    {text : List Char}
    {path : FieldPath}
    (isRead : read text = .ok path) :
    text.head? = some '.' := by
  unfold read at isRead
  split at isRead
  · rfl
  · cases isRead

theorem render_eq_segmentsText (path : FieldPath) :
    path.render = segmentsText (path.segments.map String.toList) := by
  rw [render, segmentsText, List.flatMap_map]

/-- The text that was read is the text of the path. -/
theorem render_of_read
    {text : List Char}
    {path : FieldPath}
    (isRead : read text = .ok path) :
    path.render = text := by
  unfold read at isRead
  split at isRead
  · obtain ⟨segments, found, rfl⟩ := Except.exists_of_map_eq_ok isRead
    rw [render_eq_segmentsText, ← segmentsText_readSegments found]
    simp
  · cases isRead

/-! ## Segments -/

/-- A text that closes all brackets, some of which were open before it, and has its points and
blanks inside brackets. -/
structure Closes (depth : Nat) (text : List Char) : Prop where
  /-- Altogether as many brackets are closed as are open before the text or in it. -/
  balanced : text.count ']' = depth + text.count '['
  /-- No prefix closes a bracket that is not open. -/
  opened : ∀ before, before <+: text → before.count ']' ≤ depth + before.count '['
  /-- Where a point or a blank stands, a bracket is open. -/
  enclosed : ∀ before character after, text = before ++ character :: after →
    character = '.' ∨ Text.isBlank character = true → before.count ']' < depth + before.count '['

/-- A text that is a segment: it is not empty, its brackets are balanced, and points and blanks
stand inside them. -/
structure IsSegment (text : List Char) : Prop extends Closes 0 text where
  nonempty : text ≠ []

/-- A path that has a text. -/
structure IsProper (path : FieldPath) : Prop where
  nonempty : path.segments ≠ []
  parts : ∀ segment ∈ path.segments, IsSegment segment.toList

theorem closes_nil_iff {depth : Nat} : Closes depth [] ↔ depth = 0 := by
  constructor
  · intro closes
    exact closes.balanced.symm
  · rintro rfl
    refine ⟨rfl, ?_, ?_⟩
    · intro before isPrefix
      rw [List.prefix_nil.mp isPrefix]
      exact Nat.le_refl 0
    · intro before character after shape
      exact absurd shape.symm (List.append_ne_nil_of_right_ne_nil before nofun)

/-- A character that fits moves one bracket between those that are open before the text and those
of the text. -/
theorem count_add_depthAfter
    {depth : Nat}
    {character : Char}
    (fits : Fits depth character)
    (text : List Char) :
    (character :: text).count ']' + (depthAfter depth character + text.count '[') =
      text.count ']' + (depth + (character :: text).count '[') := by
  unfold depthAfter
  split_ifs with opens closes
  · subst opens
    simp only [List.count_cons_self, List.count_cons_of_ne (by decide : '[' ≠ ']')]
    omega
  · subst closes
    have isOpen : 0 < depth := fits (Or.inl rfl)
    simp only [List.count_cons_self, List.count_cons_of_ne (by decide : ']' ≠ '[')]
    omega
  · rw [List.count_cons_of_ne opens, List.count_cons_of_ne closes]

theorem Closes.fits
    {depth : Nat}
    {character : Char}
    {rest : List Char}
    (closes : Closes depth (character :: rest)) :
    Fits depth character := by
  rintro (closing | special)
  · have opened := closes.opened [character] (List.prefix_append [character] rest)
    subst closing
    simp at opened
    omega
  · exact closes.enclosed [] character rest rfl special

/-- A text closes all brackets exactly if its first character fits and the rest closes those that
are open then. -/
theorem closes_cons_iff
    {depth : Nat}
    {character : Char}
    {rest : List Char} :
    Closes depth (character :: rest) ↔
      Fits depth character ∧ Closes (depthAfter depth character) rest := by
  constructor
  · intro closes
    have balance := count_add_depthAfter closes.fits
    refine ⟨closes.fits, ?_, ?_, ?_⟩
    · have balanced := closes.balanced
      have moved := balance rest
      omega
    · intro before isPrefix
      have opened := closes.opened (character :: before) (List.cons_prefix_cons.mpr ⟨rfl, isPrefix⟩)
      have moved := balance before
      omega
    · intro before other after shape special
      have enclosed := closes.enclosed (character :: before) other after (congrArg _ shape) special
      have moved := balance before
      omega
  · rintro ⟨fits, closes⟩
    have balance := count_add_depthAfter fits
    refine ⟨?_, ?_, ?_⟩
    · have balanced := closes.balanced
      have moved := balance rest
      omega
    · intro before isPrefix
      rcases List.prefix_cons_iff.mp isPrefix with rfl | ⟨later, rfl, inRest⟩
      · exact Nat.zero_le _
      · have opened := closes.opened later inRest
        have moved := balance later
        omega
    · intro before other after shape special
      cases before with
      | nil =>
          cases shape
          exact fits (Or.inr special)
      | cons first before =>
          obtain ⟨rfl, sameRest⟩ := List.cons.inj shape
          have enclosed := closes.enclosed before other after sameRest special
          have moved := balance before
          omega

/-- A segment does not end with a blank, which would stand behind all brackets. -/
theorem IsSegment.endsVisibly {segment : List Char} (isSegment : IsSegment segment) :
    Text.EndsVisibly segment := by
  intro last isLast
  obtain ⟨before, rfl⟩ := List.getLast?_eq_some_iff.mp isLast
  rw [← Bool.not_eq_true]
  intro blank
  have notOpening : last ≠ '[' := fun same => absurd (same ▸ blank) (by decide)
  have notClosing : last ≠ ']' := fun same => absurd (same ▸ blank) (by decide)
  have enclosed := isSegment.enclosed before last [] rfl (Or.inr blank)
  have balanced := isSegment.balanced
  simp [notOpening, notClosing] at balanced
  omega

/-! ## Reading segments -/

theorem foldr_extend
    (text first : List Char)
    (others : List (List Char)) :
    text.foldr extend (first :: others) = (text ++ first) :: others := by
  induction text with
  | nil => rfl
  | cons character text inductionHypothesis =>
      rw [List.foldr_cons, inductionHypothesis]
      rfl

/-- A text that closes all brackets belongs to the first segment. -/
theorem readSegments_append
    {depth : Nat}
    {started : Bool}
    {text : List Char}
    (closes : Closes depth text)
    (begun : started = true ∨ text ≠ [])
    (rest : List Char) :
    readSegments depth started (text ++ rest) =
      (readSegments 0 true rest).map fun segments => text.foldr extend segments := by
  induction text generalizing depth started with
  | nil =>
      obtain rfl := closes_nil_iff.mp closes
      obtain rfl := begun.resolve_right fun nonempty => nonempty rfl
      rw [List.nil_append]
      cases readSegments 0 true rest <;> rfl
  | cons character text inductionHypothesis =>
      obtain ⟨fits, closesRest⟩ := closes_cons_iff.mp closes
      rw [List.cons_append, readSegments_cons_of_fits fits,
        inductionHypothesis closesRest (Or.inl rfl)]
      cases readSegments 0 true rest <;> rfl

/-- Segments are read back from their text. -/
theorem readSegments_segmentsText
    {segment : List Char}
    {others : List (List Char)}
    (isSegment : IsSegment segment)
    (areSegments : ∀ other ∈ others, IsSegment other) :
    readSegments 0 false (segment ++ segmentsText others) = .ok (segment :: others) := by
  induction others generalizing segment with
  | nil =>
      rw [readSegments_append isSegment.toCloses (Or.inr isSegment.nonempty)]
      simp [segmentsText, readSegments, Except.map, foldr_extend]
  | cons second more inductionHypothesis =>
      rw [List.forall_mem_cons] at areSegments
      have shape : segmentsText (second :: more) = '.' :: (second ++ segmentsText more) := rfl
      have atPoint (rest : List Char) :
          readSegments 0 true ('.' :: rest) = (readSegments 0 false rest).map ([] :: ·) := rfl
      rw [readSegments_append isSegment.toCloses (Or.inr isSegment.nonempty), shape, atPoint,
        inductionHypothesis areSegments.1 areSegments.2]
      simp [Except.map, foldr_extend]

/-- What is read are segments, the first of which may have begun before the text. -/
theorem closes_of_readSegments
    {depth : Nat}
    {started : Bool}
    {text : List Char}
    {segments : List (List Char)}
    (isRead : readSegments depth started text = .ok segments) :
    ∃ first others, segments = first :: others ∧ Closes depth first ∧
      (started = false → first ≠ []) ∧ ∀ other ∈ others, IsSegment other := by
  induction text generalizing depth started segments with
  | nil =>
      cases depth with
      | zero =>
          cases started with
          | false => cases isRead
          | true =>
              cases isRead
              exact ⟨[], [], rfl, closes_nil_iff.mpr rfl, nofun, nofun⟩
      | succ depth => cases isRead
  | cons character rest inductionHypothesis =>
      rcases readSegments_cons isRead with
        ⟨-, rfl, rfl, later, found, rfl⟩ | ⟨fits, later, found, rfl⟩
      · obtain ⟨second, more, rfl, closes, nonempty, areSegments⟩ := inductionHypothesis found
        exact ⟨[], second :: more, rfl, closes_nil_iff.mpr rfl, nofun,
          List.forall_mem_cons.mpr ⟨⟨closes, nonempty rfl⟩, areSegments⟩⟩
      · obtain ⟨first, others, rfl, closes, -, areSegments⟩ := inductionHypothesis found
        exact ⟨character :: first, others, rfl, closes_cons_iff.mpr ⟨fits, closes⟩,
          fun _ => List.cons_ne_nil character first, areSegments⟩

/-! ## Reading paths -/

theorem isProper_of_read
    {text : List Char}
    {path : FieldPath}
    (isRead : read text = .ok path) :
    path.IsProper := by
  unfold read at isRead
  split at isRead
  · obtain ⟨segments, found, rfl⟩ := Except.exists_of_map_eq_ok isRead
    obtain ⟨first, others, rfl, closes, nonempty, areSegments⟩ := closes_of_readSegments found
    refine ⟨by simp, List.forall_mem_map.mpr fun segment member => ?_⟩
    rw [String.toList_ofList]
    exact List.forall_mem_cons.mpr ⟨⟨closes, nonempty rfl⟩, areSegments⟩ segment member
  · cases isRead

theorem IsProper.read_render
    {path : FieldPath}
    (proper : path.IsProper) :
    read path.render = .ok path := by
  obtain ⟨segments⟩ := path
  obtain ⟨first, others, rfl⟩ := List.exists_cons_of_ne_nil proper.nonempty
  have parts := List.forall_mem_cons.mp proper.parts
  have isRead := readSegments_segmentsText parts.1 (List.forall_mem_map.mpr parts.2)
  have shape : render ⟨first :: others⟩ =
      '.' :: (first.toList ++ segmentsText (others.map String.toList)) :=
    render_eq_segmentsText ⟨first :: others⟩
  rw [shape, read, isRead]
  simp [Except.map]

/-- The texts that are read are those of the paths that have one. -/
theorem read_eq_ok_iff
    {text : List Char}
    {path : FieldPath} :
    read text = .ok path ↔ path.IsProper ∧ path.render = text := by
  constructor
  · exact fun isRead => ⟨isProper_of_read isRead, render_of_read isRead⟩
  · rintro ⟨proper, rfl⟩
    exact proper.read_render

/-- The text of a path that was read does not end with a blank. -/
theorem endsVisibly_of_read
    {text : List Char}
    {path : FieldPath}
    (isRead : read text = .ok path) :
    Text.EndsVisibly text := by
  obtain ⟨proper, rfl⟩ := read_eq_ok_iff.mp isRead
  obtain ⟨before, last, shape⟩ :=
    (List.eq_nil_or_concat' path.segments).resolve_left proper.nonempty
  have isSegment := proper.parts last (shape ▸ List.mem_append_right before List.mem_cons_self)
  rw [render, shape, List.flatMap_append, List.flatMap_singleton]
  exact (Text.EndsVisibly.cons (by decide) isSegment.endsVisibly).append (List.cons_ne_nil _ _) _

/-- Reading and writing paths are inverse to each other: the text that was read is the one that is
written, and the segments that are read back from their text are those that stand for themselves
between points. -/
theorem render_of_read_and_read_of_render_iff :
    (∀ text path, read text = .ok path → path.render = text) ∧
      ∀ segments : List String, read (render ⟨segments⟩) = .ok ⟨segments⟩ ↔
        segments ≠ [] ∧ ∀ segment ∈ segments, IsSegment segment.toList := by
  refine ⟨fun text path => render_of_read, fun segments => ?_⟩
  rw [read_eq_ok_iff]
  exact ⟨fun ⟨proper, _⟩ => ⟨proper.nonempty, proper.parts⟩,
    fun ⟨nonempty, parts⟩ => ⟨⟨nonempty, parts⟩, rfl⟩⟩

/-- The status of a condition. -/
def readyStatus : FieldPath :=
  ⟨["status", "conditions[?(@.type == \"Ready\")]", "status"]⟩

/-- Points and blanks inside brackets are read, but segments that balance their brackets only
together are read back as a single one. -/
theorem render_readyStatus_and_read_balanced_together :
    read ".status.conditions[?(@.type == \"Ready\")].status".toList = .ok readyStatus ∧
      readyStatus.render = ".status.conditions[?(@.type == \"Ready\")].status".toList ∧
      read (render ⟨["a[", "]"]⟩) ≠ .ok ⟨["a[", "]"]⟩ := by
  have isRead : read ".status.conditions[?(@.type == \"Ready\")].status".toList =
      .ok readyStatus := by decide +kernel
  refine ⟨isRead, render_of_read_and_read_of_render_iff.1 _ _ isRead, fun readTogether => ?_⟩
  have areSegments := (render_of_read_and_read_of_render_iff.2 _).mp readTogether
  have balanced := (areSegments.2 "a[" List.mem_cons_self).balanced
  exact absurd balanced (by decide +kernel)

end FieldPath
end MarkerManifests
