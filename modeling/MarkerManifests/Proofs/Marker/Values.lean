import MarkerManifests.Marker.Arguments
import MarkerManifests.Proofs.Gate.RoundTrip
import MarkerManifests.Proofs.Json.RoundTrip
import MarkerManifests.Proofs.Marker.FieldPath
import MarkerManifests.Proofs.Marker.SubRecord

/-!
# Values and their texts

The canonical text of an argument that was read is read back as the argument, except for
sub-records whose sections do not stand for themselves. Paths and sub-records are written without
quotes around them; the texts of all other arguments that stand between commas hide their commas.
-/

namespace MarkerManifests

/-- A path that has a text. -/
def FieldPath.IsReadable (path : FieldPath) : Prop :=
  read path.render = .ok path

namespace Argument

open Quoting

/-- A double that stands in an argument. -/
def HasDouble (value : Double) : Argument → Prop
  | number own => own = .double value
  | document tree => tree.HasDouble value
  | _ => False

/-- Printing the doubles of the argument and reading them back gives the same doubles. -/
def DoublesReadBack (argument : Argument) : Prop :=
  ∀ value, argument.HasDouble value → value.ReadsBack Json.doubleSpelling

/-- An argument that some text spells. -/
def IsReadable : Argument → Prop
  | number value => value.IsNormal
  | path segments => segments.IsReadable
  | record sections => sections.IsReadable
  | gate expr => expr.HasNames
  | document tree => tree.Fits List.Nodup Json.greatestDepth
  | _ => True

/-- The sections stand for themselves, if the argument is a sub-record. -/
def SectionsStand : Argument → Prop
  | record sections => sections.SectionsStand
  | _ => True

/-- The arguments that are written without quotes around them whatever they contain. -/
def IsUnquoted : Argument → Prop
  | path _ => True
  | record _ => True
  | _ => False

/-! ## What is read -/

theorem readUnquoted_eq_ok_iff
    {Value : Type}
    {text : List Char}
    {readText : List Char → Except ValueFault Value}
    {value : Value} :
    readUnquoted text readText = .ok value ↔
      ∃ content, unquote text = .ok content ∧ readText content = .ok value := by
  unfold readUnquoted
  split
  · rename_i fault found
    simp [found]
  · rename_i content found
    simp [found]

theorem isReadable_path
    {content : List Char}
    {segments : FieldPath}
    (isRead : FieldPath.read content = .ok segments) :
    segments.IsReadable := by
  rwa [FieldPath.IsReadable, FieldPath.render_of_read isRead]

/-- Reading gives arguments of the given kind that have a text. -/
theorem isReadable_of_read
    {kind : ArgumentKind}
    {text : List Char}
    {argument : Argument}
    (isRead : read kind text = .ok argument) :
    argument.IsReadable ∧ argument.kind = kind := by
  cases kind with
  | string =>
      obtain ⟨content, -, same⟩ := readUnquoted_eq_ok_iff.mp isRead
      cases same
      exact ⟨trivial, rfl⟩
  | integer =>
      obtain ⟨content, -, isValue⟩ := readUnquoted_eq_ok_iff.mp isRead
      split at isValue <;> cases isValue
      exact ⟨trivial, rfl⟩
  | number =>
      obtain ⟨content, -, isValue⟩ := readUnquoted_eq_ok_iff.mp isRead
      split at isValue
      · rename_i value found
        cases isValue
        exact ⟨Number.isNormal_of_readPrefix (Number.readPrefix_of_read found), rfl⟩
      · cases isValue
  | boolean =>
      unfold read at isRead
      dsimp only at isRead
      split at isRead
      · cases isRead
        exact ⟨trivial, rfl⟩
      · split at isRead <;> cases isRead
        exact ⟨trivial, rfl⟩
  | list =>
      unfold read at isRead
      dsimp only at isRead
      split at isRead <;> cases isRead
      exact ⟨trivial, rfl⟩
  | path =>
      obtain ⟨content, -, isValue⟩ := readUnquoted_eq_ok_iff.mp isRead
      split at isValue
      · rename_i segments found
        cases isValue
        exact ⟨isReadable_path found, rfl⟩
      · cases isValue
  | record =>
      unfold read at isRead
      dsimp only at isRead
      split at isRead
      · rename_i sections found
        cases isRead
        exact ⟨(SubRecord.forced_render found).1, rfl⟩
      · cases isRead
  | gate =>
      obtain ⟨content, -, isValue⟩ := readUnquoted_eq_ok_iff.mp isRead
      split at isValue
      · rename_i expr found
        cases isValue
        exact ⟨Gate.Expr.hasNames_of_read found, rfl⟩
      · cases isValue
  | document =>
      unfold read at isRead
      dsimp only at isRead
      split at isRead
      · rename_i tree found
        cases isRead
        exact ⟨Json.fits_of_read? found, rfl⟩
      · obtain ⟨content, -, same⟩ := readUnquoted_eq_ok_iff.mp isRead
        cases same
        exact ⟨.string _ _, rfl⟩

/-! ## Lists -/

theorem split_renderStrings
    {items : List String}
    (nonempty : items ≠ []) :
    split ';' (Text.joined [';'] (items.map renderString)) = .ok (items.map renderString) := by
  have neutral : ∀ text ∈ items.map renderString, Neutral ';' text :=
    List.forall_mem_map.mpr fun item _ => neutral_quoteIfNeeded (by decide) _
  rw [split_joined_iff ';' (by simpa using nonempty)]
  exact ⟨fun text member => (neutral text (List.dropLast_subset _ member)).closed (by decide),
    fun text member => (neutral text (List.mem_of_mem_getLast? member)).whole⟩

/-- The text of a string is not empty and does not begin with a brace. -/
theorem renderString_eq_cons (item : String) :
    ∃ first others, renderString item = first :: others ∧ first ≠ '{' := by
  rcases quoteIfNeeded_cases delimiters item.toList with quoted | ⟨plain, nonempty, ordinary⟩
  · exact ⟨'"', _, quoted, by decide⟩
  · obtain ⟨first, others, isCons⟩ := List.exists_cons_of_ne_nil nonempty
    have notEnclosing := (not_mem_enclosing_of_isSpecial
      (ordinary first (isCons ▸ List.mem_cons_self))).1
    refine ⟨first, others, plain.trans isCons, ?_⟩
    rintro rfl
    exact notEnclosing (by decide)

/-- The text of a list does not stand in braces. -/
@[simp] theorem listPieces_renderStrings (items : List String) :
    listPieces (Text.joined [';'] (items.map renderString)) = .ok (items.map renderString) := by
  cases items with
  | nil => rfl
  | cons item rest =>
      have isSplit := split_renderStrings (List.cons_ne_nil item rest)
      obtain ⟨first, others, begins, noBrace⟩ := renderString_eq_cons item
      obtain ⟨following, shape⟩ : ∃ following,
          Text.joined [';'] ((item :: rest).map renderString) = first :: following := by
        cases rest with
        | nil => exact ⟨others, begins⟩
        | cons next more =>
            rw [List.map_cons, List.map_cons, Text.joined_cons_cons, begins]
            exact ⟨_, rfl⟩
      rw [← isSplit, shape]
      exact listPieces.eq_3 _ (List.cons_ne_nil first following) fun rest isBrace =>
        noBrace (List.cons.inj isBrace).1

@[simp] theorem readList_renderStrings (items : List String) :
    readList (Text.joined [';'] (items.map renderString)) = .ok items := by
  have itemsRead : List.Forall₂
      (fun piece item => (unquote piece).map String.ofList = .ok item)
      (items.map renderString) items := by
    rw [List.forall₂_map_left_iff, List.forall₂_same]
    intro item _
    rw [renderString, unquote_quoteIfNeeded, Except.map, String.ofList_toList]
  rw [readList, listPieces_renderStrings]
  exact SubRecord.readAll_eq_ok_iff.mpr itemsRead

/-! ## The characters of plain texts -/

theorem not_mem_enclosing_of_isTextCharacter
    {character : Char}
    (proper : Gate.IsTextCharacter character) :
    character ∉ enclosing ∧ character ≠ ',' := by
  rcases proper with isName | isMark
  · have noName : ∀ mark ∈ ',' :: enclosing, Gate.isNameCharacter mark = false :=
      forall_mem_of_all (by decide)
    have absent : character ∉ ',' :: enclosing := by
      intro member
      rw [noName character member] at isName
      exact Bool.false_ne_true isName
    rw [List.mem_cons, not_or] at absent
    exact absent.symm
  · have all : ∀ mark ∈ ['&', '|', '(', ')'], mark ∉ enclosing ∧ mark ≠ ',' :=
      forall_mem_of_all (by decide)
    exact all character isMark

/-- What sets the characters of a text apart from quotes, brackets, commas and blanks. -/
def IsPlain (text : List Char) : Prop :=
  ∀ character ∈ text,
    (character ∉ enclosing ∧ character ≠ ',') ∧ Text.isBlank character = false

theorem isPlain_of_subset_characters
    {text : List Char}
    (inCharacters : text ⊆ Number.characters) :
    IsPlain text := by
  have all : IsPlain Number.characters := forall_mem_of_all (by decide)
  exact fun character member => all character (inCharacters member)

theorem isPlain_gate
    {expr : Gate.Expr}
    (named : expr.HasNames) :
    IsPlain expr.render := by
  intro character member
  have proper := Gate.Expr.isTextCharacter_of_mem_render named character member
  exact ⟨not_mem_enclosing_of_isTextCharacter proper, Gate.isBlank_of_isTextCharacter proper⟩

theorem IsPlain.unquote
    {text : List Char}
    (plain : IsPlain text) :
    Quoting.unquote text = .ok text :=
  unquote_of_forall fun character member => (plain character member).1.1

theorem IsPlain.neutral
    {text : List Char}
    (plain : IsPlain text) :
    Neutral ',' text :=
  .of_forall fun character member => (plain character member).1

theorem IsPlain.endsVisibly
    {text : List Char}
    (plain : IsPlain text) :
    Text.EndsVisibly text :=
  Text.endsVisibly_of_forall fun character member => (plain character member).2

theorem isPlain_integer (value : Int64) : IsPlain (Integer.render value) :=
  isPlain_of_subset_characters (Number.integer_subset_characters value.toInt)

theorem isPlain_number (value : Number) : IsPlain (value.text Json.doubleSpelling) :=
  isPlain_of_subset_characters (Number.text_subset_characters _ value)

theorem isPlain_boolean (value : Bool) : IsPlain (boolean value).render := by
  cases value <;> exact forall_mem_of_all (by decide)

/-! ## Reading canonical texts -/

theorem unquote_path
    {segments : FieldPath}
    (readable : segments.IsReadable) :
    unquote segments.render = .ok segments.render := by
  have begins := FieldPath.head?_of_read readable
  refine unquote_of_head ?_ ?_ <;>
  · rw [begins]
    decide

/-- The canonical text of an argument reads back as the argument if and only if the sections
stand for themselves. -/
theorem read_render_iff
    {argument : Argument}
    (readable : argument.IsReadable)
    (doubles : argument.DoublesReadBack) :
    read argument.kind argument.render = .ok argument ↔ argument.SectionsStand := by
  cases argument with
  | string text =>
      refine iff_of_true (readUnquoted_eq_ok_iff.mpr ⟨text.toList, ?_, ?_⟩) trivial
      · exact unquote_quoteIfNeeded delimiters text.toList
      · rw [String.ofList_toList]
  | integer value =>
      refine iff_of_true (readUnquoted_eq_ok_iff.mpr ⟨_, (isPlain_integer value).unquote, ?_⟩)
        trivial
      rw [Integer.read_render]
  | number value =>
      refine iff_of_true (readUnquoted_eq_ok_iff.mpr ⟨_, (isPlain_number value).unquote, ?_⟩)
        trivial
      rw [Number.read_text readable fun double member => doubles double ?_]
      cases value <;> cases member
      rfl
  | boolean value => cases value <;> exact iff_of_true rfl trivial
  | list items =>
      refine iff_of_true ?_ trivial
      rw [kind, render, read, readList_renderStrings]
  | path segments =>
      refine iff_of_true (readUnquoted_eq_ok_iff.mpr ⟨_, unquote_path readable, ?_⟩) trivial
      rw [show FieldPath.read segments.render = .ok segments from readable]
  | record sections =>
      rw [SectionsStand, ← SubRecord.read_render_iff readable, kind, render, read]
      cases SubRecord.read sections.render <;> simp
  | gate expr =>
      refine iff_of_true (readUnquoted_eq_ok_iff.mpr ⟨_, (isPlain_gate readable).unquote, ?_⟩)
        trivial
      rw [Gate.Expr.read_render readable]
  | document tree =>
      refine iff_of_true ?_ trivial
      rw [kind, render, read, Json.read?_compact readable doubles]

/-- Canonical texts do not end with a blank. -/
theorem endsVisibly_render
    {argument : Argument}
    (readable : argument.IsReadable) :
    Text.EndsVisibly argument.render := by
  cases argument with
  | string text => exact endsVisibly_quoteIfNeeded delimiters text.toList
  | integer value => exact (isPlain_integer value).endsVisibly
  | number value => exact (isPlain_number value).endsVisibly
  | boolean value => exact (isPlain_boolean value).endsVisibly
  | list items =>
      exact .joined (by decide)
        (List.forall_mem_map.mpr fun item _ => endsVisibly_quoteIfNeeded delimiters item.toList)
  | path segments => exact FieldPath.endsVisibly_of_read readable
  | record sections => exact SubRecord.endsVisibly_render sections
  | gate expr => exact (isPlain_gate readable).endsVisibly
  | document tree => exact Json.endsVisibly_compact tree

/-! ## Canonical texts between commas -/

/-- Documents apart, the arguments that are not written without quotes hide their commas. -/
theorem neutral_render
    {argument : Argument}
    (readable : argument.IsReadable)
    (noDocument : argument.kind ≠ .document)
    (quoted : ¬ argument.IsUnquoted) :
    Neutral ',' argument.render := by
  cases argument with
  | string text => exact neutral_quoteIfNeeded (by decide) text.toList
  | integer value => exact (isPlain_integer value).neutral
  | number value => exact (isPlain_number value).neutral
  | boolean value => exact (isPlain_boolean value).neutral
  | list items =>
      exact .joined (by decide) (by decide)
        (List.forall_mem_map.mpr fun item _ => neutral_quoteIfNeeded (by decide) item.toList)
  | path segments => exact absurd trivial quoted
  | record sections => exact absurd trivial quoted
  | gate expr => exact (isPlain_gate readable).neutral
  | document tree => exact absurd rfl noDocument

/-- A text that is read as a path and begins like the canonical text of the path is that text. -/
theorem forced_path
    {text : List Char}
    {segments : FieldPath}
    (isRead : read .path text = .ok (.path segments)) :
    Forced text segments.render := by
  intro after others noQuoteAfter sameText
  obtain ⟨content, isContent, isValue⟩ := readUnquoted_eq_ok_iff.mp isRead
  split at isValue
  · rename_i found
    cases isValue
    have begins := FieldPath.head?_of_read found
    rw [FieldPath.render_of_read found] at sameText ⊢
    cases content with
    | nil => cases begins
    | cons first more =>
        cases begins
        cases text with
        | nil => cases isContent
        | cons character rest =>
            obtain ⟨rfl, -⟩ := List.cons.inj sameText
            exact Except.ok.inj isContent
  · cases isValue

/-- What is written without quotes is written the way it was read, if it begins like that. -/
theorem forced_render
    {kind : ArgumentKind}
    {text : List Char}
    {argument : Argument}
    (isRead : read kind text = .ok argument)
    (unquoted : argument.IsUnquoted) :
    Forced text argument.render := by
  obtain ⟨-, rfl⟩ := isReadable_of_read isRead
  cases argument with
  | path segments => exact forced_path isRead
  | record sections =>
      unfold read at isRead
      dsimp only [kind] at isRead
      split at isRead
      · rename_i found
        cases isRead
        exact (SubRecord.forced_render found).2
      · cases isRead
  | string text => cases unquoted
  | integer value => cases unquoted
  | number value => cases unquoted
  | boolean value => cases unquoted
  | list items => cases unquoted
  | gate expr => cases unquoted
  | document tree => cases unquoted

end Argument
end MarkerManifests
