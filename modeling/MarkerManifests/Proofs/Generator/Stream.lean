import MarkerManifests.Generator.Pipeline
import MarkerManifests.Proofs.Yaml.Lines
import Mathlib.Data.List.Basic

/-!
# Documents in a stream

What a reader of a stream finds between the lines of three dashes. Such a line is written between
the documents of one artifact, but not between the last document of an artifact and the first one of
the next, which are read as one document. So the documents are told apart exactly if at most one
artifact is published, unless a document leaves its last line open: then the dashes are no line of
their own.
-/

namespace MarkerManifests
namespace Artifact

open Text (lines EndsLine Undashed)

/-! ## Reading a stream -/

/-- Whether a line, which may be the unended last one, holds three dashes and nothing else. -/
def isSeparator (line : List Char) : Bool :=
  line == separator || line == ['-', '-', '-']

/-- The chunks of a stream between the lines of three dashes; an empty stream has none. -/
def chunks (text : List Char) : List (List Char) :=
  if text.isEmpty then []
  else ((lines text).splitOnP isSeparator).map List.flatten

/-- The number of lines of three dashes. -/
def separators (text : List Char) : Nat :=
  (lines text).countP isSeparator

theorem isSeparator_eq_false
    {line : List Char}
    (isOrdinary : Text.IsOrdinary line) :
    isSeparator line = false := by
  rcases isOrdinary with rfl | ⟨character, member, dash, newline⟩
  · rfl
  · rw [isSeparator, Bool.or_eq_false_iff, beq_eq_false_iff_ne, beq_eq_false_iff_ne]
    constructor
    · rintro rfl
      simp [separator, dash, newline] at member
    · rintro rfl
      simp [dash] at member

theorem isSeparator_append_separator
    {line : List Char}
    (nonempty : line ≠ []) :
    isSeparator (line ++ separator) = false := by
  obtain ⟨first, rest, rfl⟩ := List.exists_cons_of_ne_nil nonempty
  rw [isSeparator, Bool.or_eq_false_iff, beq_eq_false_iff_ne, beq_eq_false_iff_ne]
  constructor <;> intro same <;> simpa [separator] using congrArg List.length same

theorem isSeparator_of_mem_lines
    {text : List Char}
    (undashed : Undashed text) :
    ∀ line ∈ lines text, isSeparator line = false :=
  fun line member => isSeparator_eq_false (undashed line member)

theorem separators_of_undashed
    {text : List Char}
    (undashed : Undashed text) :
    separators text = 0 :=
  List.countP_eq_zero.mpr fun line member => by
    simp [isSeparator_of_mem_lines undashed line member]

theorem length_splitOnP (list : List (List Char)) :
    (list.splitOnP isSeparator).length = list.countP isSeparator + 1 := by
  induction list with
  | nil => rfl
  | cons line rest inductionHypothesis =>
      rw [List.splitOnP_cons_eq_if_modifyHead, List.countP_cons]
      split <;> simp [inductionHypothesis]

theorem length_chunks
    {text : List Char}
    (nonempty : text ≠ []) :
    (chunks text).length = separators text + 1 := by
  rw [chunks, if_neg (by simpa using nonempty), List.length_map, length_splitOnP, separators]

/-! ## Lines of dashes in a stream -/

theorem separators_append_newline
    {line : List Char}
    (absent : '\n' ∉ line)
    (undashed : isSeparator (line ++ ['\n']) = false)
    (rest : List Char) :
    separators (line ++ '\n' :: rest) = separators rest := by
  rw [separators, Text.lines_append_newline absent,
    List.countP_cons_of_neg (by simp [undashed]), separators]

theorem separators_append_of_endsLine
    {text : List Char}
    (undashed : Undashed text)
    (ends : EndsLine text)
    (more : List Char) :
    separators (text ++ more) = separators more := by
  have none := separators_of_undashed undashed
  rw [separators] at none
  rw [separators, ends.lines_append, List.countP_append, none, Nat.zero_add, separators]

/-- A heading starts no line of dashes, also if it stands on the last line of a text. -/
theorem separators_append_heading
    {text : List Char}
    (undashed : Undashed text)
    (more : List Char) :
    separators (text ++ '#' :: more) = separators ('#' :: more) := by
  induction text using Text.lines_induction with
  | unended line absent =>
      obtain ⟨first, others, taken⟩ := Text.exists_lines_cons '#' more
      have heading (before : List Char) : isSeparator (before ++ '#' :: first) = false :=
        isSeparator_eq_false (.inr ⟨'#', by simp, by decide, by decide⟩)
      have alone : isSeparator ('#' :: first) = false := heading []
      rw [separators, separators, Text.lines_append_of_not_mem absent taken, taken,
        List.countP_cons_of_neg (ne_true_of_eq_false (heading line)),
        List.countP_cons_of_neg (ne_true_of_eq_false alone)]
  | ended line rest absent inductionHypothesis =>
      rw [Text.undashed_append_newline_iff absent] at undashed
      rw [List.append_assoc, List.cons_append,
        separators_append_newline absent (isSeparator_eq_false undashed.1),
        inductionHypothesis undashed.2]

/-- The dashes after a text are a line of their own if the last line of the text has ended. -/
theorem separators_append_separator
    {text : List Char}
    (undashed : Undashed text)
    (nonempty : text ≠ [])
    (more : List Char) :
    separators (text ++ separator ++ more) =
      separators more + if EndsLine text then 1 else 0 := by
  induction text using Text.lines_induction with
  | unended line absent =>
      have dashes : line ++ separator ++ more = (line ++ ['-', '-', '-']) ++ '\n' :: more := by
        simp [separator]
      have together : isSeparator (line ++ ['-', '-', '-'] ++ ['\n']) = false := by
        rw [List.append_assoc]
        exact isSeparator_append_separator nonempty
      rw [dashes, separators_append_newline (by simp [absent]) together,
        if_neg (Text.not_endsLine_of_not_mem absent), Nat.add_zero]
  | ended line rest absent inductionHypothesis =>
      rw [Text.undashed_append_newline_iff absent] at undashed
      rw [List.append_assoc, List.append_assoc, List.cons_append, ← List.append_assoc,
        separators_append_newline absent (isSeparator_eq_false undashed.1)]
      cases rest with
      | nil =>
          rw [if_pos (Text.endsLine_append_newline.mpr (.inl rfl))]
          exact List.countP_cons_of_pos rfl
      | cons character others =>
          rw [inductionHypothesis undashed.2 (List.cons_ne_nil character others)]
          simp [Text.endsLine_append_newline]

/-- A text with lines, none of which separates documents. -/
structure IsBody (text : List Char) : Prop where
  undashed : Undashed text
  nonempty : text ≠ []

/-- The lines of dashes in joined texts, of which the last one is followed by nothing or by a
heading. -/
theorem separators_joined
    {texts : List (List Char)}
    (bodies : ∀ text ∈ texts, IsBody text)
    (nonempty : texts ≠ [])
    {following : List Char}
    (heads : following = [] ∨ ∃ more, following = '#' :: more) :
    separators (Text.joined separator texts ++ following) =
      separators following + texts.dropLast.countP (EndsLine ·) := by
  induction texts with
  | nil => exact absurd rfl nonempty
  | cons first others inductionHypothesis =>
      rw [List.forall_mem_cons] at bodies
      cases others with
      | nil =>
          rcases heads with rfl | ⟨more, rfl⟩
          · rw [List.append_nil]
            exact separators_of_undashed bodies.1.undashed
          · exact separators_append_heading bodies.1.undashed more
      | cons second more =>
          rw [Text.joined_cons_cons, List.append_assoc,
            separators_append_separator bodies.1.undashed bodies.1.nonempty,
            inductionHypothesis bodies.2 (List.cons_ne_nil second more),
            List.dropLast_cons_of_ne_nil (List.cons_ne_nil second more), List.countP_cons]
          simp [Nat.add_assoc]

/-- Texts that end their lines are the chunks of what they are joined to. -/
theorem chunks_joined
    {texts : List (List Char)}
    (bodies : ∀ text ∈ texts, IsBody text)
    (ended : ∀ text ∈ texts.dropLast, EndsLine text) :
    chunks (Text.joined separator texts) = texts := by
  induction texts with
  | nil => rfl
  | cons first others inductionHypothesis =>
      rw [List.forall_mem_cons] at bodies
      have undashed := isSeparator_of_mem_lines bodies.1.undashed
      cases others with
      | nil =>
          rw [Text.joined_singleton, chunks, if_neg (by simpa using bodies.1.nonempty),
            List.splitOnP_eq_singleton undashed]
          simp [Text.flatten_lines]
      | cons second more =>
          rw [List.dropLast_cons_of_ne_nil (List.cons_ne_nil second more),
            List.forall_mem_cons] at ended
          have restNonempty : Text.joined separator (second :: more) ≠ [] := by
            have secondNonempty := (bodies.2 second List.mem_cons_self).nonempty
            cases more <;> simp [secondNonempty]
          have separated : lines (first ++ separator ++ Text.joined separator (second :: more)) =
              lines first ++ separator :: lines (Text.joined separator (second :: more)) := by
            have dashes : EndsLine separator := rfl
            rw [List.append_assoc, ended.1.lines_append, dashes.lines_append]
            rfl
          have rest := inductionHypothesis bodies.2 ended.2
          rw [chunks, if_neg (by simpa using restNonempty)] at rest
          rw [Text.joined_cons_cons, chunks, if_neg (by simp [separator]), separated,
            List.splitOnP_append_cons_of_forall_mem undashed separator rfl, List.map_cons, rest,
            Text.flatten_lines]

/-! ## Artifacts in a stream -/

/-- An artifact whose name stays on a line and whose documents are objects. -/
structure IsManifest (artifact : Artifact) : Prop where
  name : '\n' ∉ artifact.name.toList
  objects : ∀ document ∈ artifact.documents, ∃ entries, document = .object entries

/-- The line before the text of an artifact. -/
def heading (artifact : Artifact) : List Char :=
  '#' :: ' ' :: (artifact.fileName .yaml).toList ++ ['\n']

/-- The texts of the documents of an artifact, the first one after the heading. -/
def sections (artifact : Artifact) : List (List Char) :=
  match artifact.documents with
  | [] => []
  | first :: others => (artifact.heading ++ Yaml.render first) :: others.map Yaml.render

/-- What a stream holds of an artifact. -/
def streamed (artifact : Artifact) : List Char :=
  if artifact.documents.isEmpty then [] else artifact.heading ++ yamlText artifact.documents

variable {artifact : Artifact} {artifacts : List Artifact}

theorem sections_of_empty
    (empty : artifact.documents = []) :
    artifact.sections = [] := by
  simp [sections, empty]

theorem streamed_of_empty
    (empty : artifact.documents = []) :
    artifact.streamed = [] := by
  simp [streamed, empty]

theorem joined_sections (artifact : Artifact) :
    Text.joined separator artifact.sections = artifact.streamed := by
  rw [sections, streamed, yamlText]
  cases artifact.documents with
  | nil => rfl
  | cons first others => cases others <;> simp

theorem mem_published : artifact ∈ published artifacts ↔
    artifact ∈ artifacts ∧ artifact.documents ≠ [] := by
  simp [published]

/-- Artifacts without documents add nothing to what is made of the documents. -/
theorem flatMap_published
    {Element : Type}
    {function : Artifact → List Element}
    (empty : ∀ artifact, artifact.documents = [] → function artifact = []) :
    (published artifacts).flatMap function = artifacts.flatMap function := by
  induction artifacts with
  | nil => rfl
  | cons first rest inductionHypothesis =>
      rw [published] at inductionHypothesis
      rw [published, List.flatMap_cons]
      cases documents : first.documents with
      | nil =>
          rw [List.filter_cons_of_neg (by simp [documents]), inductionHypothesis,
            empty first documents, List.nil_append]
      | cons document others =>
          rw [List.filter_cons_of_pos (by simp [documents]), List.flatMap_cons,
            inductionHypothesis]

theorem toList_stream (artifacts : List Artifact) :
    (stream .yaml artifacts).toList = artifacts.flatMap streamed := by
  rw [← flatMap_published fun _ => streamed_of_empty, stream, streamText,
    files, String.toList_join, List.map_map, List.flatMap_map]
  refine List.flatMap_congr fun artifact isPublished => ?_
  have documents := (mem_published.mp isPublished).2
  simp [streamed, documents, heading, render]

/-! ## Separation -/

theorem IsManifest.isBody
    (isManifest : artifact.IsManifest)
    {document : Json}
    (member : document ∈ artifact.documents) :
    IsBody (Yaml.render document) := by
  obtain ⟨entries, rfl⟩ := isManifest.objects document member
  exact ⟨Yaml.undashed_render_object entries, Yaml.render_object_ne_nil entries⟩

theorem isManifest_map
    {Element : Type}
    {name : String}
    {toJson : Element → Json}
    (absent : '\n' ∉ name.toList)
    (objects : ∀ element, ∃ entries, toJson element = .object entries)
    (elements : List Element) :
    IsManifest ⟨name, elements.map toJson⟩ :=
  ⟨absent, List.forall_mem_map.mpr fun element _ => objects element⟩

theorem IsManifest.newline_not_mem_fileName
    (isManifest : artifact.IsManifest) :
    '\n' ∉ (artifact.fileName .yaml).toList := by
  simp [fileName, isManifest.name, OutputFormat.word]

theorem IsManifest.undashed_heading
    (isManifest : artifact.IsManifest) :
    Undashed artifact.heading := by
  refine Text.undashed_append_newline _ ?_ (.inr ⟨'#', by simp, by decide⟩) Text.undashed_nil
  simp [isManifest.newline_not_mem_fileName]

theorem endsLine_heading (artifact : Artifact) : EndsLine artifact.heading := by
  rw [EndsLine, heading, List.getLast?_append_of_ne_nil _ (List.cons_ne_nil _ _)]
  rfl

theorem IsManifest.isBody_of_mem_sections
    (isManifest : artifact.IsManifest) :
    ∀ text ∈ artifact.sections, IsBody text := by
  have bodies : ∀ document ∈ artifact.documents, IsBody (Yaml.render document) :=
    fun document => isManifest.isBody
  rw [sections]
  cases written : artifact.documents with
  | nil => exact fun _ member => absurd member List.not_mem_nil
  | cons first others =>
      rw [written] at bodies
      rw [List.forall_mem_cons, List.forall_mem_map]
      have firstBody := bodies first List.mem_cons_self
      exact ⟨⟨isManifest.undashed_heading.append firstBody.undashed, by simp [firstBody.nonempty]⟩,
        fun document member => bodies document (List.mem_cons_of_mem first member)⟩

/-- The lines of dashes in what a stream holds of an artifact, followed by other artifacts. -/
theorem IsManifest.separators_streamed
    (isManifest : artifact.IsManifest)
    {following : List Char}
    (heads : following = [] ∨ ∃ more, following = '#' :: more) :
    separators (artifact.streamed ++ following) = separators following +
      artifact.documents.dropLast.countP (EndsLine <| Yaml.render ·) := by
  by_cases documents : artifact.documents = []
  · simp [streamed, documents]
  · have bodies : ∀ text ∈ artifact.documents.map Yaml.render, IsBody text :=
      List.forall_mem_map.mpr fun document => isManifest.isBody
    rw [streamed, if_neg (by simpa using documents), List.append_assoc,
      separators_append_of_endsLine isManifest.undashed_heading (endsLine_heading artifact),
      yamlText, separators_joined bodies (by simpa using documents) heads, ← List.map_dropLast,
      List.countP_map]
    rfl

theorem streamed_heads (artifacts : List Artifact) :
    artifacts.flatMap streamed = [] ∨ ∃ more, artifacts.flatMap streamed = '#' :: more := by
  induction artifacts with
  | nil => exact .inl rfl
  | cons first rest inductionHypothesis =>
      rw [List.flatMap_cons, streamed]
      split
      · exact inductionHypothesis
      · exact .inr ⟨_, rfl⟩

/-- The lines of dashes in a stream come after those documents that end their last line and are not
the last ones of their artifacts. -/
theorem separators_stream
    (manifests : ∀ artifact ∈ artifacts, artifact.IsManifest) :
    separators (stream .yaml artifacts).toList =
      (artifacts.flatMap (·.documents.dropLast)).countP (EndsLine <| Yaml.render ·) := by
  rw [toList_stream]
  induction artifacts with
  | nil => rfl
  | cons first rest inductionHypothesis =>
      rw [List.forall_mem_cons] at manifests
      rw [List.flatMap_cons, manifests.1.separators_streamed (streamed_heads rest),
        inductionHypothesis manifests.2, List.flatMap_cons, List.countP_append, Nat.add_comm]

theorem length_documents (artifacts : List Artifact) :
    (artifacts.flatMap documents).length =
      (artifacts.flatMap (·.documents.dropLast)).length + (published artifacts).length := by
  induction artifacts with
  | nil => rfl
  | cons first rest inductionHypothesis =>
      rw [published] at inductionHypothesis
      rw [published, List.filter_cons, List.flatMap_cons, List.flatMap_cons, List.length_append,
        List.length_append, inductionHypothesis, List.length_dropLast]
      cases first.documents with
      | nil => simp
      | cons document others =>
          simp
          omega

/-- Artifacts whose documents a stream keeps apart: at most one artifact is published, and none but
the last of its documents leaves a line open, as a literal block does that ends in a line
separator. -/
structure Separable (artifacts : List Artifact) : Prop where
  alone : (published artifacts).length ≤ 1
  ended : ∀ document ∈ artifacts.flatMap (·.documents.dropLast), EndsLine (Yaml.render document)

theorem length_flatMap_sections (artifacts : List Artifact) :
    (artifacts.flatMap sections).length = (artifacts.flatMap documents).length := by
  rw [List.length_flatMap, List.length_flatMap]
  refine congrArg (fun length => (artifacts.map length).sum) (funext fun artifact => ?_)
  rw [sections]
  cases artifact.documents <;> simp

theorem stream_ne_nil
    (some : published artifacts ≠ []) :
    (stream .yaml artifacts).toList ≠ [] := by
  obtain ⟨artifact, isPublished⟩ := List.exists_mem_of_ne_nil _ some
  obtain ⟨member, documents⟩ := mem_published.mp isPublished
  rw [toList_stream]
  intro empty
  have none := List.flatMap_eq_nil_iff.mp empty artifact member
  simp [streamed, documents, heading] at none

theorem endsLine_of_mem_dropLast_sections
    (ended : ∀ document ∈ artifact.documents.dropLast, EndsLine (Yaml.render document)) :
    ∀ text ∈ artifact.sections.dropLast, EndsLine text := by
  rw [sections]
  cases written : artifact.documents with
  | nil => exact fun _ member => absurd member List.not_mem_nil
  | cons first others =>
      cases others with
      | nil => exact fun _ member => absurd member List.not_mem_nil
      | cons second more =>
          rw [written, List.dropLast_cons_of_ne_nil (List.cons_ne_nil second more),
            List.forall_mem_cons] at ended
          rw [List.dropLast_cons_of_ne_nil (by simp), List.forall_mem_cons, ← List.map_dropLast,
            List.forall_mem_map]
          refine ⟨?_, ended.2⟩
          rw [EndsLine, List.getLast?_append, ended.1, Option.some_or]

/-- Documents that a stream keeps apart are its chunks, in their order. -/
theorem chunks_stream
    (manifests : ∀ artifact ∈ artifacts, artifact.IsManifest)
    (separable : Separable artifacts) :
    chunks (stream .yaml artifacts).toList = artifacts.flatMap sections := by
  rw [toList_stream, ← flatMap_published fun _ => streamed_of_empty,
    ← flatMap_published fun _ => sections_of_empty]
  match isPublished : published artifacts with
  | [] => rfl
  | [only] =>
      obtain ⟨member, -⟩ := mem_published.mp (isPublished ▸ List.mem_singleton_self only)
      rw [List.flatMap_singleton, List.flatMap_singleton, ← joined_sections]
      refine chunks_joined (manifests only member).isBody_of_mem_sections
        (endsLine_of_mem_dropLast_sections fun document isDocument => ?_)
      exact separable.ended document (List.mem_flatMap.mpr ⟨only, member, isDocument⟩)
  | first :: second :: more =>
      have alone := separable.alone
      rw [isPublished] at alone
      exact absurd alone (by simp)

/-- A stream with as many chunks as documents keeps the documents apart: every step from one
artifact to the next, and every document that leaves its last line open, costs a chunk. -/
theorem separable_of_length_chunks
    (manifests : ∀ artifact ∈ artifacts, artifact.IsManifest)
    (asMany : (chunks (stream .yaml artifacts).toList).length =
      (artifacts.flatMap documents).length) :
    Separable artifacts := by
  by_cases empty : published artifacts = []
  · refine ⟨by simp [empty], ?_⟩
    rw [← flatMap_published fun artifact none => by rw [none]; rfl, empty]
    exact fun _ member => absurd member List.not_mem_nil
  · have some : 0 < (published artifacts).length := List.length_pos_of_ne_nil empty
    have atMost : (artifacts.flatMap (·.documents.dropLast)).countP (EndsLine <| Yaml.render ·) ≤
        (artifacts.flatMap (·.documents.dropLast)).length := List.countP_le_length
    rw [length_chunks (stream_ne_nil empty), separators_stream manifests,
      length_documents] at asMany
    refine ⟨by omega, fun document member => ?_⟩
    have all : (artifacts.flatMap (·.documents.dropLast)).countP (EndsLine <| Yaml.render ·) =
        (artifacts.flatMap (·.documents.dropLast)).length := by omega
    exact of_decide_eq_true (List.countP_eq_length.mp all document member)

/-- The lines of three dashes cut a stream into one chunk for each document, in the order of
artifacts and documents, exactly if at most one artifact is published and each of its documents but
the last ends its last line. In all other streams, even the numbers of both differ. -/
theorem chunks_stream_iff
    (manifests : ∀ artifact ∈ artifacts, artifact.IsManifest) :
    (chunks (stream .yaml artifacts).toList = artifacts.flatMap sections ↔ Separable artifacts) ∧
      ((chunks (stream .yaml artifacts).toList).length = (artifacts.flatMap documents).length ↔
        Separable artifacts) := by
  have ofChunks (separated : chunks (stream .yaml artifacts).toList = artifacts.flatMap sections) :
      (chunks (stream .yaml artifacts).toList).length = (artifacts.flatMap documents).length := by
    rw [separated, length_flatMap_sections]
  have ofLength := separable_of_length_chunks manifests
  have ofSeparable := chunks_stream manifests
  exact ⟨⟨fun separated => ofLength (ofChunks separated), ofSeparable⟩,
    ⟨ofLength, fun separable => ofChunks (ofSeparable separable)⟩⟩

/-- Two documents of one artifact, before an artifact that is not published. -/
theorem chunks_stream_of_one_artifact :
    chunks (stream .yaml [
      ⟨"crds", [.object [("kind", .string "A")], .object [("kind", .string "B")]]⟩,
      ⟨"role", []⟩]).toList =
      ["# crds.yaml\nkind: A\n".toList, "kind: B\n".toList] := by
  refine ((chunks_stream_iff ?_).1.mpr ⟨by decide, by decide +kernel⟩).trans (by decide +kernel)
  simp only [List.forall_mem_cons]
  exact ⟨⟨by decide, by simp⟩, ⟨by decide, by simp⟩, fun _ member => nomatch member⟩

/-- The documents of two artifacts are one chunk. -/
theorem exists_merged_documents :
    ∃ artifacts : List Artifact, (∀ artifact ∈ artifacts, artifact.IsManifest) ∧
      (artifacts.flatMap documents).length = 2 ∧
      chunks (stream .yaml artifacts).toList =
        ["# crds.yaml\nkind: A\n# role.yaml\nkind: B\n".toList] := by
  refine ⟨[⟨"crds", [.object [("kind", .string "A")]]⟩,
    ⟨"role", [.object [("kind", .string "B")]]⟩], ?_, rfl, by decide +kernel⟩
  simp only [List.forall_mem_cons]
  exact ⟨⟨by decide, by simp⟩, ⟨by decide, by simp⟩, fun _ member => nomatch member⟩

end Artifact

/-- Every artifact of a run has its name on one line and objects for documents. -/
theorem Generated.isManifest_artifacts (generated : Generated) :
    ∀ artifact ∈ generated.artifacts, artifact.IsManifest := by
  simp only [Generated.artifacts, List.forall_mem_cons]
  exact ⟨Artifact.isManifest_map (by decide) (fun _ => ⟨_, rfl⟩) _,
    Artifact.isManifest_map (by decide) (fun _ => ⟨_, rfl⟩) _,
    Artifact.isManifest_map (by decide) (fun _ => ⟨_, rfl⟩) _,
    Artifact.isManifest_map (by decide) (fun _ => ⟨_, rfl⟩) _, fun _ member => nomatch member⟩

end MarkerManifests
