import Mathlib.Data.List.Forall2
import Mathlib.Logic.Relation
import MarkerManifests.Proofs.Marker.Ignored

/-!
# Grouping of lines in comments

A comment is read line by line, and it does not matter which of its lines stand in one entry:
entries can be joined by line ends and split at them, with carriage returns or without. A marker has
the index of its line among all lines. Lines of markers leave no trace in the description, so they
can be deleted.
-/

namespace MarkerManifests
namespace Comment

variable {entries : List String} {ending : List Char}

/-! ## Regrouping -/

/-- The ends of lines. -/
def lineEnds : List (List Char) :=
  [['\n'], ['\r', '\n']]

/-- One entry with the texts of several ones. -/
def joinedEntry (ending : List Char) (group : List String) : String :=
  String.ofList (Text.joined ending (group.map String.toList))

/-- Adjacent entries of a comment are joined to one entry by the ends of lines. -/
inductive Joins : List String → List String → Prop
  | intro
      {group : List String}
      {ending : List Char}
      (nonempty : group ≠ [])
      (isEnding : ending ∈ lineEnds)
      (before after : List String) :
      Joins (before ++ group ++ after) (before ++ joinedEntry ending group :: after)

/-- Comments that differ in how their lines are grouped: entries are joined, or split at line ends,
any number of times. -/
def Regroups : List String → List String → Prop :=
  Relation.EqvGen Joins

/-! ## Lines of joined entries -/

/-- The lines of entries, with the carriage returns at their ends. -/
def rawLines (entries : List String) : List (List Char) :=
  entries.flatMap fun entry => Text.pieces '\n' entry.toList

theorem lines_eq_map_rawLines (entries : List String) :
    lines entries = (rawLines entries).map stripReturn :=
  List.map_flatMap.symm

theorem rawLines_cons (entry : String) (rest : List String) :
    rawLines (entry :: rest) = Text.pieces '\n' entry.toList ++ rawLines rest := rfl

theorem rawLines_append (before after : List String) :
    rawLines (before ++ after) = rawLines before ++ rawLines after :=
  List.flatMap_append

/-- The second line is the first one, or it has a carriage return at its end. -/
def ReturnsAfter (line other : List Char) : Prop :=
  other = line ∨ other = line ++ ['\r']

theorem ReturnsAfter.cons
    {line other : List Char}
    (returns : ReturnsAfter line other)
    (character : Char) :
    ReturnsAfter (character :: line) (character :: other) := by
  rcases returns with rfl | rfl
  · exact .inl rfl
  · exact .inr rfl

theorem ReturnsAfter.stripLeader_eq
    {line other : List Char}
    (returns : ReturnsAfter line other) :
    stripLeader other = stripLeader line := by
  rcases returns with rfl | rfl
  · rfl
  · rw [stripLeader, stripLeader, Text.trim_append_blank line (by decide)]

/-- A carriage return at the end of a text stands at the end of its last line. -/
theorem forall₂_pieces_append_return (text : List Char) :
    List.Forall₂ ReturnsAfter (Text.pieces '\n' text) (Text.pieces '\n' (text ++ ['\r'])) := by
  induction text with
  | nil => exact .cons (.inr rfl) .nil
  | cons character rest inductionHypothesis =>
      rw [List.cons_append, Text.pieces, Text.pieces]
      split
      · exact .cons (.inl rfl) inductionHypothesis
      · generalize Text.pieces '\n' rest = left at *
        generalize Text.pieces '\n' (rest ++ ['\r']) = right at *
        cases inductionHypothesis with
        | nil => exact .cons (.inl rfl) .nil
        | cons first others => exact .cons (first.cons character) others

/-- An entry that others are joined to has their lines, maybe with carriage returns after them. -/
theorem forall₂_rawLines_joined
    {texts : List (List Char)}
    (nonempty : texts ≠ [])
    (isEnding : ending ∈ lineEnds) :
    List.Forall₂ ReturnsAfter (texts.flatMap (Text.pieces '\n'))
      (Text.pieces '\n' (Text.joined ending texts)) := by
  induction texts with
  | nil => exact absurd rfl nonempty
  | cons first others inductionHypothesis =>
      cases others with
      | nil =>
          rw [List.flatMap_singleton, Text.joined_singleton]
          exact List.forall₂_same.mpr fun _ _ => .inl rfl
      | cons second more =>
          have rest := inductionHypothesis (List.cons_ne_nil second more)
          rw [List.flatMap_cons, Text.joined_cons_cons]
          have isCut : ∃ line, List.Forall₂ ReturnsAfter (Text.pieces '\n' first)
                (Text.pieces '\n' line) ∧
              first ++ ending = line ++ ['\n'] := by
            simp only [lineEnds, List.mem_cons, List.not_mem_nil, or_false] at isEnding
            rcases isEnding with rfl | rfl
            · exact ⟨first, List.forall₂_same.mpr fun _ _ => .inl rfl, rfl⟩
            · exact ⟨first ++ ['\r'], forall₂_pieces_append_return first, by simp⟩
          obtain ⟨line, isFirst, shape⟩ := isCut
          rw [shape, List.append_assoc, List.singleton_append, Text.pieces_append]
          exact List.rel_append isFirst rest

/-! ## What the description and the markers depend on -/

/-- Lines that are read alike: they have the same text after the comment leader. -/
def ReadsAlike (line other : List Char) : Prop :=
  stripLeader other = stripLeader line

theorem ReadsAlike.markerBody?_eq
    {line other : List Char}
    (alike : ReadsAlike line other) :
    markerBody? other = markerBody? line := by
  rw [markerBody?, markerBody?, alike]

variable {lines others : List (List Char)}

theorem markersFrom_of_forall₂
    (alike : List.Forall₂ ReadsAlike lines others)
    (index : Nat) :
    markersFrom index others = markersFrom index lines := by
  induction alike generalizing index with
  | nil => rfl
  | cons first _ inductionHypothesis =>
      rw [markersFrom, markersFrom, first.markerBody?_eq, inductionHypothesis]

theorem paragraphs_of_forall₂
    (alike : List.Forall₂ ReadsAlike lines others)
    (current : List (List Char)) :
    paragraphs current others = paragraphs current lines := by
  induction alike generalizing current with
  | nil => rfl
  | cons first _ inductionHypothesis =>
      rw [paragraphs, paragraphs, first.markerBody?_eq, inductionHypothesis]
      split
      · rfl
      · rw [first]
        split <;> rw [inductionHypothesis]

/-- Lines are read alike with and without a carriage return at the end, as trimming removes it. -/
theorem ReturnsAfter.readsAlike
    {line other : List Char}
    (returns : ReturnsAfter line other) :
    ReadsAlike (stripReturn line) (stripReturn other) := by
  have stripped : ∀ text, stripLeader (stripReturn text) = stripLeader text := fun text => by
    rw [stripLeader, stripLeader, trim_stripReturn]
  rw [ReadsAlike, stripped, stripped, returns.stripLeader_eq]

/-- Joined entries are read line by line as the entries were. -/
theorem Joins.forall₂_lines
    {entries others : List String}
    (joins : Joins entries others) :
    List.Forall₂ ReadsAlike (Comment.lines entries) (Comment.lines others) := by
  obtain @⟨group, ending, nonempty, isEnding, before, after⟩ := joins
  have same : ∀ text, List.Forall₂ ReturnsAfter (rawLines text) (rawLines text) := fun _ =>
    List.forall₂_same.mpr fun _ _ => .inl rfl
  have joined : List.Forall₂ ReturnsAfter (rawLines group)
      (Text.pieces '\n' (joinedEntry ending group).toList) := by
    have nonemptyTexts : group.map String.toList ≠ [] := by simpa using nonempty
    have areJoined := forall₂_rawLines_joined nonemptyTexts isEnding
    rwa [List.flatMap_map, ← rawLines, ← String.toList_ofList (l := Text.joined ending _)]
      at areJoined
  have inContext : List.Forall₂ ReturnsAfter (rawLines (before ++ group ++ after))
      (rawLines (before ++ joinedEntry ending group :: after)) := by
    rw [rawLines_append, rawLines_append, rawLines_append, rawLines_cons, List.append_assoc]
    exact List.rel_append (same before) (List.rel_append joined (same after))
  rw [lines_eq_map_rawLines, lines_eq_map_rawLines, List.forall₂_map_left_iff,
    List.forall₂_map_right_iff]
  exact inContext.imp fun _ _ returns => returns.readsAlike

/-- Comments with the same lines have the same markers and the same description. -/
theorem Regroups.markers_eq_and_description?_eq
    {entries others : List String}
    (regroups : Regroups entries others) :
    markers others = markers entries ∧ description? others = description? entries := by
  induction regroups with
  | rel entries others joins =>
      have alike := joins.forall₂_lines
      rw [markers, markers, markersFrom_of_forall₂ alike, description?, description?,
        paragraphs_of_forall₂ alike]
      exact ⟨rfl, rfl⟩
  | refl entries => exact ⟨rfl, rfl⟩
  | symm _ _ _ inductionHypothesis =>
      exact ⟨inductionHypothesis.1.symm, inductionHypothesis.2.symm⟩
  | trans _ _ _ _ _ first second => exact ⟨second.1.trans first.1, second.2.trans first.2⟩

/-! ## Indices of markers -/

/-- The markers of lines are the lines that have one, with their indices. -/
theorem markersFrom_eq_filterMap (start : Nat) (lines : List (List Char)) :
    markersFrom start lines =
      (lines.zipIdx start).filterMap fun entry => (markerBody? entry.1).map (entry.2, ·) := by
  induction lines generalizing start with
  | nil => rfl
  | cons line rest inductionHypothesis =>
      rw [markersFrom, List.zipIdx_cons, List.filterMap_cons, ← inductionHypothesis]
      cases markerBody? line <;> rfl

/-- A line with a marker body gives a marker at its index, and nothing else does. -/
theorem mem_markers_iff
    {index : Nat}
    {body : List Char} :
    (index, body) ∈ markers entries ↔
      ∃ line, (Comment.lines entries)[index]? = some line ∧ markerBody? line = some body := by
  rw [markers, markersFrom_eq_filterMap, List.mem_filterMap]
  constructor
  · rintro ⟨⟨line, place⟩, isLine, isMarker⟩
    obtain ⟨text, isBody, same⟩ := Option.map_eq_some_iff.mp isMarker
    cases same
    exact ⟨line, List.mem_zipIdx_iff_getElem?.mp isLine, isBody⟩
  · rintro ⟨line, isLine, isBody⟩
    exact ⟨(line, index), List.mem_zipIdx_iff_getElem?.mpr isLine, by rw [isBody]; rfl⟩

/-- The indices of markers are among those of the lines, in order. -/
theorem map_fst_markersFrom_sublist (start : Nat) (lines : List (List Char)) :
    ((markersFrom start lines).map Prod.fst).Sublist (List.range' start lines.length) := by
  induction lines generalizing start with
  | nil => exact .slnil
  | cons line rest inductionHypothesis =>
      rw [markersFrom, List.length_cons, List.range'_succ]
      split
      · exact (inductionHypothesis (start + 1)).cons_cons start
      · exact (inductionHypothesis (start + 1)).cons start

/-! ## Comments without markers -/

/-- A line is prose. -/
def isProse (line : List Char) : Bool :=
  (markerBody? line).isNone

/-- The entries of a comment without their lines of markers. Entries without any other line are left
out. -/
def withoutMarkers (entries : List String) : List String :=
  entries.filterMap fun entry =>
    match (Text.pieces '\n' entry.toList).filter isProse with
    | [] => none
    | first :: others => some (String.ofList (Text.joined ['\n'] (first :: others)))

theorem rawLines_withoutMarkers (entries : List String) :
    rawLines (withoutMarkers entries) = (rawLines entries).filter isProse := by
  induction entries with
  | nil => rfl
  | cons entry rest inductionHypothesis =>
      have absent : ∀ line ∈ (Text.pieces '\n' entry.toList).filter isProse, '\n' ∉ line :=
        fun line member => Text.not_mem_of_mem_pieces (List.mem_of_mem_filter member)
      rw [rawLines_cons, List.filter_append, ← inductionHypothesis, withoutMarkers]
      cases kept : (Text.pieces '\n' entry.toList).filter isProse with
      | nil => rw [List.filterMap_cons_none (by simp [kept]), ← withoutMarkers, List.nil_append]
      | cons first others =>
          rw [kept] at absent
          rw [List.filterMap_cons_some (by simp only [kept]; rfl), ← withoutMarkers, rawLines_cons,
            String.toList_ofList, Text.pieces_joined (List.cons_ne_nil first others) absent]

theorem lines_withoutMarkers (entries : List String) :
    Comment.lines (withoutMarkers entries) = (Comment.lines entries).filter isProse := by
  have stripped : isProse ∘ stripReturn = isProse := funext fun line => by
    rw [Function.comp_apply, isProse, isProse, markerBody?_stripReturn]
  rw [lines_eq_map_rawLines, lines_eq_map_rawLines, rawLines_withoutMarkers, List.filter_map,
    stripped]

theorem filterMap_prose?_eq_filter (lines : List (List Char)) :
    lines.filterMap prose? = lines.filter isProse := by
  have sameTest : prose? = Option.guard isProse := funext fun line => by
    cases isBody : markerBody? line <;> simp [prose?, isProse, Option.guard, isBody]
  rw [sameTest, List.filterMap_eq_filter]

/-- How comments are read: line by line, whatever entries the lines stand in. -/
structure ReadsLines (entries : List String) : Prop where
  /-- The grouping of lines changes nothing. -/
  regroups : ∀ others, Regroups entries others →
    markers others = markers entries ∧ description? others = description? entries
  /-- The indices of markers increase strictly. -/
  increasing : ((markers entries).map Prod.fst).Pairwise (· < ·)
  /-- The markers are those of the lines, with the indices of their lines. -/
  located : ∀ index body, (index, body) ∈ markers entries ↔
    ∃ line, (Comment.lines entries)[index]? = some line ∧ markerBody? line = some body
  /-- Without the lines of markers, the lines are the other ones. -/
  remaining : Comment.lines (withoutMarkers entries) = (Comment.lines entries).filter isProse
  /-- Without the lines of markers, the description is the same. -/
  described : description? (withoutMarkers entries) = description? entries

/-- Comments are read line by line, and prose is apart from markers. In every comment entries can be
joined by line feeds, with carriage returns before them or without, and split at them: the markers,
with the indices of their lines, and the description stay the same. The indices increase strictly,
and they are those of the lines with a marker. Without these lines the description is the same. -/
theorem readsLines (entries : List String) : ReadsLines entries where
  regroups := fun _ regroups => regroups.markers_eq_and_description?_eq
  increasing := List.Pairwise.sublist (map_fst_markersFrom_sublist 0 (Comment.lines entries))
    List.pairwise_lt_range'
  located := fun _ _ => mem_markers_iff
  remaining := lines_withoutMarkers entries
  described := by
    rw [description?, description?, lines_withoutMarkers, ← filterMap_prose?_eq_filter,
      paragraphs_prose]

end Comment
end MarkerManifests
