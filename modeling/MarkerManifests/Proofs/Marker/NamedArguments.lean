import MarkerManifests.Proofs.Marker.Values

/-!
# Named arguments and their texts

Arguments with keys are written between commas. They are read back if and only if the texts of
paths and sub-records end where they were joined and all sections stand for themselves.
-/

namespace MarkerManifests

/-- A parameter whose key ends at the equals sign after it. -/
structure Parameter.IsKeyed (parameter : Parameter) : Prop where
  nonempty : parameter.name.toList ≠ []
  ordinary : ∀ character ∈ parameter.name.toList,
    character ∉ Quoting.enclosing ∧ character ≠ ',' ∧ character ≠ '=' ∧ character ≠ ':'
  noDocument : parameter.kind ≠ .document

namespace Definition

open Quoting Marker

/-- An argument that the definition takes by name. -/
structure Takes (definition : Definition) (argument : String × Argument) : Prop where
  readable : argument.2.IsReadable
  parameter : ∃ parameter, definition.parameter? argument.1 = some parameter ∧
    parameter.kind = argument.2.kind

/-- The arguments that pieces give after the arguments before them. Empty pieces give none. -/
inductive Gives (definition : Definition) :
    List (String × Argument) → List (List Char) → List (String × Argument) → Prop where
  | done (given : List (String × Argument)) : Gives definition given [] []
  | skip
      {given arguments : List (String × Argument)}
      {pieces : List (List Char)}
      (later : Gives definition given pieces arguments) :
      Gives definition given ([] :: pieces) arguments
  | take
      {given arguments : List (String × Argument)}
      {argument : String × Argument}
      {piece : List Char}
      {pieces : List (List Char)}
      (nonempty : piece ≠ [])
      (isRead : definition.readPiece given piece = .ok argument)
      (later : Gives definition (given ++ [argument]) pieces arguments) :
      Gives definition given (piece :: pieces) (argument :: arguments)

variable {definition : Definition} {given arguments : List (String × Argument)}
  {argument : String × Argument} {piece : List Char} {pieces : List (List Char)}

/-- The pieces are read one after the other. -/
theorem readPieces_eq_ok_iff
    {result : List (String × Argument)} :
    definition.readPieces given pieces = .ok result ↔
      ∃ arguments, definition.Gives given pieces arguments ∧ result = given ++ arguments := by
  induction pieces generalizing given with
  | nil =>
      rw [readPieces]
      constructor
      · intro same
        cases same
        exact ⟨[], .done _, (List.append_nil _).symm⟩
      · rintro ⟨arguments, gives, rfl⟩
        cases gives
        rw [List.append_nil]
  | cons piece rest inductionHypothesis =>
      rw [readPieces]
      by_cases empty : piece = []
      · rw [if_pos empty, inductionHypothesis]
        subst empty
        constructor
        · rintro ⟨arguments, gives, rfl⟩
          exact ⟨arguments, .skip gives, rfl⟩
        · rintro ⟨arguments, gives, rfl⟩
          cases gives with
          | skip later => exact ⟨arguments, later, rfl⟩
          | take nonempty _ _ => exact absurd rfl nonempty
      · rw [if_neg empty]
        constructor
        · intro isRead
          split at isRead
          · cases isRead
          · rename_i argument found
            obtain ⟨arguments, gives, rfl⟩ := inductionHypothesis.mp isRead
            exact ⟨argument :: arguments, .take empty found gives, by simp⟩
        · rintro ⟨arguments, gives, rfl⟩
          cases gives with
          | skip later => exact absurd rfl empty
          | take _ found later =>
              rw [found]
              exact inductionHypothesis.mpr ⟨_, later, by simp⟩

/-! ## Given and missing arguments -/

theorem isGiven_eq_false_iff {key : String} :
    isGiven given key = false ↔ key ∉ given.map (·.1) := by
  simp only [isGiven, ← Bool.not_eq_true, List.any_eq_true, List.mem_map, decide_eq_true_eq]

/-- Every parameter that is not optional has an argument. -/
def IsComplete (definition : Definition) (arguments : List (String × Argument)) : Prop :=
  ∀ parameter ∈ definition.parameters, parameter.optional = false →
    parameter.name ∈ arguments.map (·.1)

theorem missing?_eq_none_iff :
    definition.missing? arguments = none ↔ definition.IsComplete arguments := by
  rw [missing?, List.find?_eq_none, IsComplete]
  refine forall₂_congr fun parameter _ => ?_
  rw [Bool.not_eq_true, Bool.and_eq_false_imp, Bool.not_eq_true', Bool.not_eq_false',
    ← Bool.not_eq_false, isGiven_eq_false_iff, Decidable.not_not]

/-! ## One piece -/

/-- A piece has the key of a parameter that is not given yet, and a value for it. -/
theorem readPiece_eq_ok_iff :
    definition.readPiece given piece = .ok argument ↔
      (pieceParts piece).1 = argument.1.toList ∧ isGiven given argument.1 = false ∧
        ∃ parameter, definition.parameter? argument.1 = some parameter ∧
          readArgument parameter.kind (pieceParts piece).2 = .ok argument.2 := by
  obtain ⟨key, value⟩ := argument
  cases parts : pieceParts piece with
  | mk keyText text =>
      rw [readPiece, parts]
      dsimp only
      constructor
      · intro isRead
        split at isRead
        · cases isRead
        rename_i parameter isParameter
        split at isRead
        · cases isRead
        rename_i isNew
        split at isRead
        · rename_i isValue
          cases isRead
          exact ⟨String.toList_ofList.symm, by simpa using isNew, parameter, isParameter, isValue⟩
        · cases isRead
      · rintro ⟨rfl, isNew, parameter, isParameter, isValue⟩
        rw [String.ofList_toList, isParameter]
        dsimp only
        rw [if_neg (by simp [isNew]), isValue]

theorem isReadable_of_readArgument
    {kind : ArgumentKind}
    {text : Option (List Char)}
    {value : Argument}
    (isRead : readArgument kind text = .ok value) :
    value.IsReadable ∧ value.kind = kind := by
  cases text with
  | some text => exact Argument.isReadable_of_read isRead
  | none =>
      rw [readArgument] at isRead
      split at isRead
      · rename_i isBoolean
        cases isRead
        exact ⟨trivial, isBoolean.symm⟩
      · cases isRead

theorem takes_of_readPiece (isRead : definition.readPiece given piece = .ok argument) :
    definition.Takes argument := by
  obtain ⟨-, -, parameter, isParameter, isValue⟩ := readPiece_eq_ok_iff.mp isRead
  obtain ⟨readable, isKind⟩ := isReadable_of_readArgument isValue
  exact ⟨readable, parameter, isParameter, isKind.symm⟩

/-- What is given was taken. -/
theorem Gives.takes
    (gives : definition.Gives given pieces arguments) :
    ∀ argument ∈ arguments, definition.Takes argument := by
  induction gives with
  | done given => exact fun _ member => (nomatch member)
  | skip _ inductionHypothesis => exact inductionHypothesis
  | take _ isRead _ inductionHypothesis =>
      exact List.forall_mem_cons.mpr ⟨takes_of_readPiece isRead, inductionHypothesis⟩

/-! ## Canonical pieces -/

theorem pieceParts_renderArgument
    (ordinary : ∀ character ∈ argument.1.toList, character ∉ enclosing ∧ character ≠ '=') :
    pieceParts (renderArgument argument) = (argument.1.toList, some argument.2.render) := by
  rw [pieceParts, renderArgument, cutKey?_of_forall ordinary]

theorem Takes.exists_isKeyed
    (takes : definition.Takes argument)
    (keyed : ∀ parameter ∈ definition.parameters, parameter.IsKeyed) :
    ∃ parameter ∈ definition.parameters, parameter.IsKeyed ∧ parameter.name = argument.1 ∧
      parameter.kind = argument.2.kind := by
  obtain ⟨parameter, isParameter, isKind⟩ := takes.parameter
  have sameName : parameter.name = argument.1 := by simpa using List.find?_some isParameter
  have isMember := List.mem_of_find?_eq_some isParameter
  exact ⟨parameter, isMember, keyed parameter isMember, sameName, isKind⟩

theorem Takes.pieceParts_renderArgument
    (takes : definition.Takes argument)
    (keyed : ∀ parameter ∈ definition.parameters, parameter.IsKeyed) :
    pieceParts (renderArgument argument) = (argument.1.toList, some argument.2.render) := by
  obtain ⟨parameter, -, isKeyed, sameName, -⟩ := takes.exists_isKeyed keyed
  apply Definition.pieceParts_renderArgument
  intro character member
  rw [← sameName] at member
  obtain ⟨notEnclosing, -, noEquals, -⟩ := isKeyed.ordinary character member
  exact ⟨notEnclosing, noEquals⟩

/-- The canonical text of an argument begins with a character that is no comma. -/
theorem Takes.renderArgument_eq_cons
    (takes : definition.Takes argument)
    (keyed : ∀ parameter ∈ definition.parameters, parameter.IsKeyed) :
    ∃ first others, renderArgument argument = first :: others ∧ first ≠ ',' := by
  obtain ⟨parameter, -, isKeyed, sameName, -⟩ := takes.exists_isKeyed keyed
  obtain ⟨first, others, isCons⟩ := List.exists_cons_of_ne_nil isKeyed.nonempty
  obtain ⟨-, noComma, -⟩ := isKeyed.ordinary first (isCons ▸ List.mem_cons_self)
  refine ⟨first, others ++ '=' :: argument.2.render, ?_, noComma⟩
  rw [renderArgument, ← sameName, isCons, List.cons_append]

/-- A piece that gives a path or a sub-record and begins like its canonical text is that text. -/
theorem forced_renderArgument
    (isRead : definition.readPiece given piece = .ok argument)
    (unquoted : argument.2.IsUnquoted) :
    Forced piece (renderArgument argument) := by
  obtain ⟨isKey, -, parameter, -, isValue⟩ := readPiece_eq_ok_iff.mp isRead
  unfold pieceParts at isKey isValue
  split at isKey
  · rename_i key value cut
    rw [cut] at isValue
    rw [cutKey?_eq_some cut, renderArgument, ← isKey]
    have forcedKey : Forced key key := fun _ _ _ _ => rfl
    exact forcedKey.append (by decide) (Argument.forced_render isValue unquoted)
  · rename_i noKey
    rw [noKey, readArgument] at isValue
    split at isValue
    · rw [← Except.ok.inj isValue] at unquoted
      cases unquoted
    · cases isValue

/-- Keys and equals signs separate nothing. -/
theorem Takes.neutral_key
    (takes : definition.Takes argument)
    (keyed : ∀ parameter ∈ definition.parameters, parameter.IsKeyed) :
    Neutral ',' (argument.1.toList ++ ['=']) := by
  obtain ⟨parameter, -, isKeyed, sameName, -⟩ := takes.exists_isKeyed keyed
  refine .append (.of_forall fun character member => ?_) 
    (.of_forall (forall_mem_of_all (by decide)))
  rw [← sameName] at member
  obtain ⟨notEnclosing, noComma, -⟩ := isKeyed.ordinary character member
  exact ⟨notEnclosing, noComma⟩

theorem renderArgument_eq_append (argument : String × Argument) :
    renderArgument argument = argument.1.toList ++ ['='] ++ argument.2.render := by
  rw [renderArgument, List.append_assoc, List.singleton_append]

theorem Takes.neutral_renderArgument
    (takes : definition.Takes argument)
    (keyed : ∀ parameter ∈ definition.parameters, parameter.IsKeyed)
    (quoted : ¬ argument.2.IsUnquoted) :
    Neutral ',' (renderArgument argument) := by
  obtain ⟨parameter, -, isKeyed, -, isKind⟩ := takes.exists_isKeyed keyed
  have noDocument : argument.2.kind ≠ .document := isKind ▸ isKeyed.noDocument
  rw [renderArgument_eq_append]
  exact (takes.neutral_key keyed).append
    (Argument.neutral_render takes.readable noDocument quoted)

theorem Takes.closed_renderArgument_iff
    (takes : definition.Takes argument)
    (keyed : ∀ parameter ∈ definition.parameters, parameter.IsKeyed) :
    Closed ',' (renderArgument argument) ↔
      (argument.2.IsUnquoted → Closed ',' argument.2.render) := by
  by_cases unquoted : argument.2.IsUnquoted
  · rw [renderArgument_eq_append, (takes.neutral_key keyed).closed_append_iff]
    exact ⟨fun closed _ => closed, fun closed => closed unquoted⟩
  · have closed := (takes.neutral_renderArgument keyed unquoted).closed (by decide)
    exact iff_of_true closed fun isUnquoted => absurd isUnquoted unquoted

theorem Takes.whole_renderArgument_iff
    (takes : definition.Takes argument)
    (keyed : ∀ parameter ∈ definition.parameters, parameter.IsKeyed) :
    Whole ',' (renderArgument argument) ↔
      (argument.2.IsUnquoted → Whole ',' argument.2.render) := by
  by_cases unquoted : argument.2.IsUnquoted
  · rw [renderArgument_eq_append, (takes.neutral_key keyed).whole_append_iff]
    exact ⟨fun whole _ => whole, fun whole => whole unquoted⟩
  · have whole := (takes.neutral_renderArgument keyed unquoted).whole
    exact iff_of_true whole fun isUnquoted => absurd isUnquoted unquoted

/-- The canonical piece of an argument gives the argument if and only if its sections stand for
themselves. -/
theorem readPiece_renderArgument_iff
    (takes : definition.Takes argument)
    (keyed : ∀ parameter ∈ definition.parameters, parameter.IsKeyed)
    (doubles : argument.2.DoublesReadBack)
    (isNew : isGiven given argument.1 = false) :
    definition.readPiece given (renderArgument argument) = .ok argument ↔
      argument.2.SectionsStand := by
  obtain ⟨parameter, isParameter, isKind⟩ := takes.parameter
  rw [readPiece_eq_ok_iff, takes.pieceParts_renderArgument keyed, isParameter,
    ← Argument.read_render_iff takes.readable doubles, ← isKind]
  constructor
  · rintro ⟨-, -, other, same, isValue⟩
    cases same
    exact isValue
  · intro isValue
    exact ⟨rfl, isNew, parameter, rfl, isValue⟩

/-! ## Canonical pieces in order -/

/-- Canonical pieces give the arguments that other pieces gave. -/
theorem Gives.canonical
    (gives : definition.Gives given pieces arguments)
    (keyed : ∀ parameter ∈ definition.parameters, parameter.IsKeyed)
    (doubles : ∀ argument ∈ arguments, argument.2.DoublesReadBack)
    (stand : ∀ argument ∈ arguments, argument.2.SectionsStand) :
    definition.Gives given (arguments.map renderArgument) arguments := by
  induction gives with
  | done given => exact .done given
  | skip _ inductionHypothesis => exact inductionHypothesis doubles stand
  | take _ isRead _ inductionHypothesis =>
      rw [List.forall_mem_cons] at doubles stand
      have takes := takes_of_readPiece isRead
      have isNew := (readPiece_eq_ok_iff.mp isRead).2.1
      obtain ⟨first, others, begins, -⟩ := takes.renderArgument_eq_cons keyed
      refine .take (begins ▸ List.cons_ne_nil first others) ?_
        (inductionHypothesis doubles.2 stand.2)
      exact (readPiece_renderArgument_iff takes keyed doubles.1 isNew).mpr stand.1

/-- Sections stand for themselves where canonical pieces give the arguments. -/
theorem Gives.sectionsStand
    (gives : definition.Gives given (arguments.map renderArgument) arguments)
    (keyed : ∀ parameter ∈ definition.parameters, parameter.IsKeyed)
    (doubles : ∀ argument ∈ arguments, argument.2.DoublesReadBack) :
    ∀ argument ∈ arguments, argument.2.SectionsStand := by
  induction arguments generalizing given with
  | nil => exact fun _ member => (nomatch member)
  | cons argument rest inductionHypothesis =>
      have takes := gives.takes argument List.mem_cons_self
      obtain ⟨first, others, begins, -⟩ := takes.renderArgument_eq_cons keyed
      rw [List.forall_mem_cons] at doubles ⊢
      rw [List.map_cons] at gives
      generalize shape : renderArgument argument = piece at gives
      cases gives with
      | skip => exact absurd (begins.symm.trans shape) (List.cons_ne_nil first others)
      | take _ isRead later =>
          subst shape
          have isNew := (readPiece_eq_ok_iff.mp isRead).2.1
          refine ⟨?_, inductionHypothesis later doubles.2⟩
          exact (readPiece_renderArgument_iff takes keyed doubles.1 isNew).mp isRead

/-! ## Where canonical pieces end -/

/-- What follows a joined text: nothing, or a separator. -/
theorem exists_joined_cons_eq
    (separator : Char)
    (first : List Char)
    (others : List (List Char)) :
    ∃ after, Text.joined [separator] (first :: others) = first ++ after ∧
      (others = [] ∧ after = [] ∨
        after = separator :: Text.joined [separator] others ∧ others ≠ []) := by
  cases others with
  | nil => exact ⟨[], (List.append_nil first).symm, Or.inl ⟨rfl, rfl⟩⟩
  | cons second more =>
      refine ⟨_, ?_, Or.inr ⟨rfl, List.cons_ne_nil second more⟩⟩
      rw [Text.joined_cons_cons, List.append_assoc, List.singleton_append]

/-- If the first argument is taken from the first piece of joined canonical pieces, the piece is
the canonical one. -/
theorem first_eq_renderArgument
    {rest : List (String × Argument)}
    (takes : definition.Takes argument)
    (keyed : ∀ parameter ∈ definition.parameters, parameter.IsKeyed)
    (isSplit : split ',' (Text.joined [','] ((argument :: rest).map renderArgument)) =
      .ok (piece :: pieces))
    (isRead : definition.readPiece given piece = .ok argument) :
    piece = renderArgument argument := by
  by_cases unquoted : argument.2.IsUnquoted
  · have forced := forced_renderArgument isRead unquoted
    have sameText := joined_split isSplit
    obtain ⟨after, shape, follows⟩ := exists_joined_cons_eq ',' piece pieces
    obtain ⟨others, canonicalShape, -⟩ :=
      exists_joined_cons_eq ',' (renderArgument argument) (rest.map renderArgument)
    rw [shape, List.map_cons, canonicalShape] at sameText
    refine forced after others ?_ sameText
    rcases follows with ⟨-, rfl⟩ | ⟨rfl, -⟩ <;> simp
  · have neutral := takes.neutral_renderArgument keyed unquoted
    cases rest with
    | nil =>
        have whole := neutral.whole
        rw [List.map_singleton, Text.joined_singleton, whole] at isSplit
        exact (List.cons.inj (Except.ok.inj isSplit)).1.symm
    | cons second more =>
        rw [List.map_cons, List.map_cons, Text.joined_cons_cons, List.append_assoc,
          List.singleton_append, (neutral.closed (by decide)).split_append] at isSplit
        obtain ⟨later, -, same⟩ := Except.exists_of_map_eq_ok isSplit
        exact (List.cons.inj same).1.symm

/-- Pieces of joined canonical pieces that give the arguments are the canonical pieces. -/
theorem Gives.eq_canonical
    (gives : definition.Gives given pieces arguments)
    (keyed : ∀ parameter ∈ definition.parameters, parameter.IsKeyed)
    (nonempty : arguments ≠ [])
    (isSplit : split ',' (Text.joined [','] (arguments.map renderArgument)) = .ok pieces) :
    pieces = arguments.map renderArgument := by
  induction arguments generalizing given pieces with
  | nil => exact absurd rfl nonempty
  | cons argument rest inductionHypothesis =>
      have takes := gives.takes argument List.mem_cons_self
      obtain ⟨first, others, begins, noComma⟩ := takes.renderArgument_eq_cons keyed
      obtain ⟨after, canonicalShape, canonicalFollows⟩ :=
        exists_joined_cons_eq ',' (renderArgument argument) (rest.map renderArgument)
      have sameText := joined_split isSplit
      cases gives with
      | @skip _ _ pieces later =>
          -- the text would be empty or begin with a comma
          obtain ⟨following, shape, follows⟩ := exists_joined_cons_eq ',' [] pieces
          rw [shape, List.map_cons, canonicalShape, begins] at sameText
          rcases follows with ⟨-, rfl⟩ | ⟨rfl, -⟩
          · cases sameText
          · exact absurd (List.cons.inj sameText).1.symm noComma
      | @take _ _ _ piece pieces _ isRead later =>
          have sameFirst := first_eq_renderArgument takes keyed isSplit isRead
          subst sameFirst
          obtain ⟨following, shape, follows⟩ :=
            exists_joined_cons_eq ',' (renderArgument argument) pieces
          rw [shape, List.map_cons, canonicalShape] at sameText
          have sameAfter := List.append_cancel_left sameText
          rcases canonicalFollows with ⟨isLast, rfl⟩ | ⟨rfl, hasMore⟩
          · rcases follows with ⟨rfl, -⟩ | ⟨rfl, -⟩
            · rw [List.map_cons, isLast]
            · cases sameAfter
          · rcases follows with ⟨-, rfl⟩ | ⟨rfl, -⟩
            · cases sameAfter
            · rw [List.map_cons, canonicalShape] at isSplit
              have isSplitRest := (closed_of_splitFrom_append isSplit).2
              have someRest : rest ≠ [] := fun none => hasMore (none ▸ rfl)
              rw [List.map_cons, inductionHypothesis later someRest isSplitRest]

/-! ## Reading canonical texts of arguments -/

/-- The texts of paths and sub-records end where commas follow, and all sections stand for
themselves. -/
structure Separable (arguments : List (String × Argument)) : Prop where
  inner : ∀ argument ∈ arguments.dropLast, argument.2.IsUnquoted → Closed ',' argument.2.render
  last : ∀ argument ∈ arguments.getLast?, argument.2.IsUnquoted → Whole ',' argument.2.render
  sections : ∀ argument ∈ arguments, argument.2.SectionsStand

theorem readNamed_eq_ok_iff {text : List Char} :
    definition.readNamed text = .ok arguments ↔
      ∃ pieces, (if text = [] then .ok [] else split ',' text) = .ok pieces ∧
        definition.Gives [] pieces arguments ∧ definition.missing? arguments = none := by
  unfold readNamed
  generalize (if text = [] then .ok [] else split ',' text) = found
  constructor
  · intro isRead
    split at isRead
    · cases isRead
    rename_i pieces
    split at isRead
    · cases isRead
    rename_i result areRead
    obtain ⟨taken, gives, same⟩ := readPieces_eq_ok_iff.mp areRead
    rw [List.nil_append] at same
    subst same
    split at isRead
    · cases isRead
    · rename_i complete
      cases isRead
      exact ⟨pieces, rfl, gives, complete⟩
  · rintro ⟨pieces, rfl, gives, complete⟩
    have areRead : definition.readPieces [] pieces = .ok arguments :=
      readPieces_eq_ok_iff.mpr ⟨arguments, gives, rfl⟩
    simp only [areRead, complete]

/-- Canonical pieces are split where they were joined if and only if the texts of paths and
sub-records end there. -/
theorem split_canonical_iff
    (takes : ∀ argument ∈ arguments, definition.Takes argument)
    (keyed : ∀ parameter ∈ definition.parameters, parameter.IsKeyed)
    (nonempty : arguments ≠ []) :
    split ',' (Text.joined [','] (arguments.map renderArgument)) =
        .ok (arguments.map renderArgument) ↔
      (∀ argument ∈ arguments.dropLast,
          argument.2.IsUnquoted → Closed ',' argument.2.render) ∧
        ∀ argument ∈ arguments.getLast?,
          argument.2.IsUnquoted → Whole ',' argument.2.render := by
  rw [split_joined_iff ',' (by simpa using nonempty), ← List.map_dropLast, List.getLast?_map,
    List.forall_mem_map]
  refine and_congr (forall₂_congr fun argument member => ?_) ?_
  · exact (takes argument (List.dropLast_subset _ member)).closed_renderArgument_iff keyed
  · cases isLast : arguments.getLast? with
    | none => simp
    | some last =>
        have takesLast := takes last (List.mem_of_getLast? isLast)
        simpa using takesLast.whole_renderArgument_iff keyed

theorem joined_renderArgument_ne_nil
    (takes : ∀ argument ∈ arguments, definition.Takes argument)
    (keyed : ∀ parameter ∈ definition.parameters, parameter.IsKeyed)
    (nonempty : arguments ≠ []) :
    Text.joined [','] (arguments.map renderArgument) ≠ [] := by
  obtain ⟨argument, rest, rfl⟩ := List.exists_cons_of_ne_nil nonempty
  obtain ⟨first, others, begins, -⟩ :=
    (takes argument List.mem_cons_self).renderArgument_eq_cons keyed
  obtain ⟨after, shape, -⟩ :=
    exists_joined_cons_eq ',' (renderArgument argument) (rest.map renderArgument)
  rw [List.map_cons, shape, begins]
  exact List.cons_ne_nil first _

/-- Arguments that were read are read back from their canonical text if and only if they are
separable. -/
theorem readNamed_canonical_iff
    {text : List Char}
    (isRead : definition.readNamed text = .ok arguments)
    (keyed : ∀ parameter ∈ definition.parameters, parameter.IsKeyed)
    (doubles : ∀ argument ∈ arguments, argument.2.DoublesReadBack)
    (nonempty : arguments ≠ []) :
    definition.readNamed (Text.joined [','] (arguments.map renderArgument)) = .ok arguments ↔
      Separable arguments := by
  obtain ⟨_, -, gives, complete⟩ := readNamed_eq_ok_iff.mp isRead
  have isText := joined_renderArgument_ne_nil gives.takes keyed nonempty
  have isCanonical := split_canonical_iff gives.takes keyed nonempty
  rw [readNamed_eq_ok_iff, if_neg isText]
  constructor
  · rintro ⟨pieces, isSplit, givesAgain, -⟩
    have samePieces := givesAgain.eq_canonical keyed nonempty isSplit
    subst samePieces
    obtain ⟨inner, last⟩ := isCanonical.mp isSplit
    exact ⟨inner, last, givesAgain.sectionsStand keyed doubles⟩
  · rintro ⟨inner, last, sections⟩
    exact ⟨_, isCanonical.mpr ⟨inner, last⟩, gives.canonical keyed doubles sections, complete⟩

end Definition
end MarkerManifests
