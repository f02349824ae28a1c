import MarkerManifests.Marker.SubRecord
import MarkerManifests.Proofs.Marker.Quoting

/-!
# Sub-records and their texts

Keys and values of a sub-record are quoted where they have to be, but the names of sections are
written as they are. So the canonical text of a sub-record that was read is read back if and only
if the sections stand for themselves between ampersands, as they do if no name of a section has a
quote, a bracket or an ampersand.
-/

namespace MarkerManifests

/-- A section that has a text: its name is not empty and ends before the tilde, and it has an
entry. -/
structure Section.IsReadable (part : Section) : Prop where
  named : part.name.toList ≠ []
  noTilde : '~' ∉ part.name.toList
  nonempty : part.entries ≠ []

/-- A section whose name can be written as it is: it has none of the characters that begin or end
quotes and brackets or that end names and sections. -/
structure Section.IsWritable (part : Section) : Prop where
  named : part.name ≠ ""
  ordinary : ∀ character ∈ part.name.toList,
    character ∉ Quoting.enclosing ∧ character ≠ '&' ∧ character ≠ '~'
  nonempty : part.entries ≠ []

/-- A sub-record that has a text. -/
structure SubRecord.IsReadable (record : SubRecord) : Prop where
  nonempty : record.sections ≠ []
  parts : ∀ part ∈ record.sections, part.IsReadable

/-- In the canonical text, the sections stand for themselves between ampersands. -/
structure SubRecord.SectionsStand (record : SubRecord) : Prop where
  inner : ∀ part ∈ record.sections.dropLast, Quoting.Closed '&' (SubRecord.renderSection part)
  last : ∀ part ∈ record.sections.getLast?, Quoting.Whole '&' (SubRecord.renderSection part)

namespace SubRecord

open Quoting

theorem readAll_eq_ok_iff
    {Input Output Error : Type}
    {readOne : Input → Except Error Output}
    {inputs : List Input}
    {outputs : List Output} :
    readAll readOne inputs = .ok outputs ↔
      List.Forall₂ (fun input output => readOne input = .ok output) inputs outputs := by
  induction inputs generalizing outputs with
  | nil =>
      rw [List.forall₂_nil_left_iff, readAll]
      exact ⟨fun same => (Except.ok.inj same).symm, fun same => same ▸ rfl⟩
  | cons first rest inductionHypothesis =>
      rw [readAll, List.forall₂_cons_left_iff]
      cases isRead : readOne first with
      | error error => simp
      | ok output =>
          constructor
          · intro mapped
            obtain ⟨others, found, rfl⟩ := Except.exists_of_map_eq_ok mapped
            exact ⟨output, others, rfl, inductionHypothesis.mp found, rfl⟩
          · rintro ⟨other, others, same, found, rfl⟩
            cases same
            rw [inductionHypothesis.mpr found]
            rfl

/-! ## Entries -/

/-- What forces quotes around the keys of entries. -/
def keyDelimiters : List Char :=
  ['.', '=', '&', '~']

/-- What forces quotes around the values of entries. -/
def valueDelimiters : List Char :=
  ['.', '=', '&', '~', ',']

theorem neutral_renderEntry
    {separator : Char}
    (delimits : separator ∈ keyDelimiters)
    (notEquals : separator ≠ '=')
    (entry : String × String) :
    Neutral separator (renderEntry entry) := by
  have delimitsValue : separator ∈ valueDelimiters := List.mem_append_left [','] delimits
  exact (neutral_quoteIfNeeded delimits _).append
    (.cons (by decide) (Ne.symm notEquals) (neutral_quoteIfNeeded delimitsValue _))

@[simp] theorem readEntry_renderEntry (name : List Char) (entry : String × String) :
    readEntry name (renderEntry entry) = .ok entry := by
  rw [readEntry, renderEntry, cutKey?_quoteIfNeeded (by decide)]
  simp only [unquote_quoteIfNeeded, String.ofList_toList]

theorem forced_renderEntry
    {name raw : List Char}
    {entry : String × String}
    (isRead : readEntry name raw = .ok entry) :
    Forced raw (renderEntry entry) := by
  unfold readEntry at isRead
  split at isRead
  · cases isRead
  rename_i key value cut
  split at isRead
  · cases isRead
  rename_i keyContent readKey
  split at isRead
  · cases isRead
  rename_i valueContent readValue
  cases isRead
  rw [cutKey?_eq_some cut, renderEntry, String.toList_ofList, String.toList_ofList]
  exact (forced_of_unquote _ readKey).append (by decide) (forced_of_unquote _ readValue)

/-! ## Sections -/

theorem split_renderEntries
    {entries : List (String × String)}
    (nonempty : entries ≠ []) :
    split '.' (Text.joined ['.'] (entries.map renderEntry)) =
      .ok (entries.map renderEntry) := by
  have neutral : ∀ text ∈ entries.map renderEntry, Neutral '.' text := by
    intro text member
    obtain ⟨entry, -, rfl⟩ := List.mem_map.mp member
    exact neutral_renderEntry (by decide) (by decide) entry
  rw [split_joined_iff '.' (by simpa using nonempty)]
  exact ⟨fun text member => (neutral text (List.dropLast_subset _ member)).closed (by decide),
    fun text member => (neutral text (List.mem_of_mem_getLast? member)).whole⟩

theorem readSection_renderSection
    {part : Section}
    (readable : part.IsReadable) :
    readSection (renderSection part) = .ok part := by
  obtain ⟨first, rest, isCons⟩ := List.exists_cons_of_ne_nil readable.named
  have entriesRead : List.Forall₂
      (fun raw entry => readEntry part.name.toList raw = .ok entry)
      (part.entries.map renderEntry) part.entries := by
    rw [List.forall₂_map_left_iff, List.forall₂_same]
    exact fun entry _ => readEntry_renderEntry _ entry
  rw [readSection, renderSection, Text.cutFirst?_append readable.noTilde]
  rw [isCons] at entriesRead ⊢
  simp only [split_renderEntries readable.nonempty, readAll_eq_ok_iff.mpr entriesRead]
  rw [← isCons, String.ofList_toList]
  rfl

/-- What was read as a section has a readable name and entries, and it begins like the canonical
text of the section only if it is that text. -/
theorem forced_renderSection
    {raw : List Char}
    {part : Section}
    (isRead : readSection raw = .ok part) :
    part.IsReadable ∧ Forced raw (renderSection part) := by
  unfold readSection at isRead
  split at isRead
  · cases isRead
  · cases isRead
  rename_i name body named cut
  split at isRead
  · cases isRead
  rename_i pieces isSplit
  obtain ⟨entries, found, rfl⟩ := Except.exists_of_map_eq_ok isRead
  have entriesRead := readAll_eq_ok_iff.mp found
  obtain ⟨shape, noTilde⟩ := Text.cutFirst?_eq_some cut
  refine ⟨⟨?_, ?_, ?_⟩, ?_⟩
  · rw [String.toList_ofList]
    rintro rfl
    exact named rfl
  · rw [String.toList_ofList]
    exact noTilde
  · rintro rfl
    rw [List.forall₂_nil_right_iff.mp entriesRead] at isSplit
    exact splitFrom_ne_nil isSplit rfl
  · have forced : List.Forall₂ Forced pieces (entries.map renderEntry) := by
      rw [List.forall₂_map_right_iff]
      exact entriesRead.imp fun raw entry readOne => forced_renderEntry readOne
    have forcedBody := Forced.joined (by decide : '.' ≠ '"') forced
    rw [joined_split isSplit] at forcedBody
    rw [shape, renderSection, String.toList_ofList]
    have forcedName : Forced name name := fun _ _ _ _ => rfl
    exact forcedName.append (by decide) forcedBody

/-! ## Sub-records -/

theorem forced_render
    {raw : List Char}
    {record : SubRecord}
    (isRead : read raw = .ok record) :
    record.IsReadable ∧ Forced raw record.render := by
  unfold read at isRead
  split at isRead
  · cases isRead
  split at isRead
  · cases isRead
  rename_i parts isSplit
  obtain ⟨sections, found, rfl⟩ := Except.exists_of_map_eq_ok isRead
  have partsRead := readAll_eq_ok_iff.mp found
  refine ⟨⟨?_, ?_⟩, ?_⟩
  · rintro rfl
    rw [List.forall₂_nil_right_iff.mp partsRead] at isSplit
    exact splitFrom_ne_nil isSplit rfl
  · intro part member
    obtain ⟨text, readOne⟩ : ∃ text, readSection text = .ok part := by
      clear found isSplit isRead
      induction partsRead with
      | nil => cases member
      | cons readFirst _ inductionHypothesis =>
          rcases List.mem_cons.mp member with rfl | later
          · exact ⟨_, readFirst⟩
          · exact inductionHypothesis later
    exact (forced_renderSection readOne).1
  · have forced : List.Forall₂ Forced parts (sections.map renderSection) := by
      rw [List.forall₂_map_right_iff]
      exact partsRead.imp fun raw part readOne => (forced_renderSection readOne).2
    have forcedText := Forced.joined (by decide : '&' ≠ '"') forced
    rw [joined_split isSplit] at forcedText
    exact forcedText

theorem render_ne_nil
    {record : SubRecord}
    (readable : record.IsReadable) :
    record.render ≠ [] := by
  obtain ⟨first, others, isCons⟩ := List.exists_cons_of_ne_nil readable.nonempty
  have named := (readable.parts first (isCons ▸ List.mem_cons_self)).named
  rw [render, isCons]
  cases others with
  | nil => simp [renderSection]
  | cons second more => simp [renderSection]

theorem sectionsStand_iff
    {record : SubRecord}
    (nonempty : record.sections ≠ []) :
    record.SectionsStand ↔
      split '&' record.render = .ok (record.sections.map renderSection) := by
  rw [render, split_joined_iff '&' (by simpa using nonempty), ← List.map_dropLast,
    List.getLast?_map]
  constructor
  · rintro ⟨inner, last⟩
    refine ⟨List.forall_mem_map.mpr inner, fun text member => ?_⟩
    obtain ⟨part, isLast, rfl⟩ := Option.map_eq_some_iff.mp member
    exact last part isLast
  · rintro ⟨inner, last⟩
    exact ⟨List.forall_mem_map.mp inner,
      fun part isLast => last _ (Option.mem_map_of_mem _ isLast)⟩

/-- The canonical text of a sub-record is read back if and only if its sections stand for
themselves. -/
theorem read_render_iff
    {record : SubRecord}
    (readable : record.IsReadable) :
    read record.render = .ok record ↔ record.SectionsStand := by
  rw [sectionsStand_iff readable.nonempty]
  constructor
  · intro isRead
    unfold read at isRead
    rw [if_neg (render_ne_nil readable)] at isRead
    split at isRead
    · cases isRead
    rename_i parts isSplit
    obtain ⟨sections, found, same⟩ := Except.exists_of_map_eq_ok isRead
    have partsRead := readAll_eq_ok_iff.mp found
    have forced : List.Forall₂ Forced parts (sections.map renderSection) := by
      rw [List.forall₂_map_right_iff]
      exact partsRead.imp fun raw part readOne => (forced_renderSection readOne).2
    have sameText : Text.joined ['&'] parts ++ [] =
        Text.joined ['&'] (sections.map renderSection) ++ [] := by
      rw [joined_split isSplit, ← same]
      rfl
    have sameParts := eq_of_joined_append (by decide) forced (by simp) sameText
    rw [isSplit, sameParts, ← same]
  · intro isSplit
    have partsRead : List.Forall₂ (fun raw part => readSection raw = .ok part)
        (record.sections.map renderSection) record.sections := by
      rw [List.forall₂_map_left_iff, List.forall₂_same]
      exact fun part member => readSection_renderSection (readable.parts part member)
    rw [read, if_neg (render_ne_nil readable)]
    simp only [isSplit, readAll_eq_ok_iff.mpr partsRead]
    rfl

theorem isReadable_of_isWritable
    {part : Section}
    (writable : part.IsWritable) :
    part.IsReadable where
  named := fun isEmpty => writable.named (String.toList_eq_nil_iff.mp isEmpty)
  noTilde := fun member => (writable.ordinary '~' member).2.2 rfl
  nonempty := writable.nonempty

/-- Nothing in the text of a section divides sections: neither its name, where the characters that
could do so are excluded, nor its keys and values, where they are quoted. -/
theorem neutral_renderSection
    {part : Section}
    (writable : part.IsWritable) :
    Neutral '&' (renderSection part) := by
  have name : Neutral '&' part.name.toList := .of_forall fun character member =>
    ⟨(writable.ordinary character member).1, (writable.ordinary character member).2.1⟩
  have entries : ∀ text ∈ part.entries.map renderEntry, Neutral '&' text :=
    List.forall_mem_map.mpr fun entry _ => neutral_renderEntry (by decide) (by decide) entry
  exact name.append (.cons (by decide) (by decide) (.joined (by decide) (by decide) entries))

/-- A sub-record with writable sections is read back from its text, whatever its keys and values
are. -/
theorem read_render_of_isWritable
    {record : SubRecord}
    (nonempty : record.sections ≠ [])
    (writable : ∀ part ∈ record.sections, part.IsWritable) :
    read record.render = .ok record := by
  have readable : record.IsReadable :=
    ⟨nonempty, fun part member => isReadable_of_isWritable (writable part member)⟩
  refine (read_render_iff readable).mpr ⟨fun part member => ?_, fun part member => ?_⟩
  · exact (neutral_renderSection (writable part (List.dropLast_subset _ member))).closed (by decide)
  · exact (neutral_renderSection (writable part (List.mem_of_mem_getLast? member))).whole

/-- A sub-record with a repeated name and a repeated key, whose keys and values have delimiters,
quotes, brackets, backslashes and blanks. -/
def awkwardRecord : SubRecord :=
  ⟨[⟨"match labels", [("app.kubernetes.io/name", "a\\b\"c\x60d"), ("", "~&=.,")]⟩,
    ⟨"x=y.z", [("[\x7b", "]\x7d\n\t"), ("k", "\\"), ("k", "v")]⟩,
    ⟨"match labels", [("k", "")]⟩]⟩

theorem read_render_awkwardRecord :
    awkwardRecord.sections ≠ [] ∧ (∀ part ∈ awkwardRecord.sections, part.IsWritable) ∧
      read awkwardRecord.render = .ok awkwardRecord := by
  have nonempty : awkwardRecord.sections ≠ [] := List.cons_ne_nil _ _
  have writable : ∀ part ∈ awkwardRecord.sections, part.IsWritable := by
    have names : ∀ part ∈ awkwardRecord.sections, part.name ≠ "" ∧
        (∀ character ∈ part.name.toList, character ∉ enclosing ∧ character ≠ '&' ∧
          character ≠ '~') ∧ part.entries ≠ [] := by simp [awkwardRecord, enclosing]
    intro part member
    obtain ⟨named, ordinary, nonempty⟩ := names part member
    exact ⟨named, ordinary, nonempty⟩
  exact ⟨nonempty, writable, read_render_of_isWritable nonempty writable⟩

theorem endsVisibly_render (record : SubRecord) : Text.EndsVisibly record.render := by
  have entriesEnd : ∀ entry, Text.EndsVisibly (renderEntry entry) := by
    intro entry
    rw [renderEntry]
    exact (Text.EndsVisibly.cons (by decide) (endsVisibly_quoteIfNeeded _ _)).append
      (List.cons_ne_nil _ _) _
  have sectionsEnd : ∀ part, Text.EndsVisibly (renderSection part) := by
    intro part
    have entryTexts : ∀ text ∈ part.entries.map renderEntry, Text.EndsVisibly text :=
      List.forall_mem_map.mpr fun entry _ => entriesEnd entry
    rw [renderSection]
    exact (Text.EndsVisibly.cons (by decide) (.joined (by decide) entryTexts)).append
      (List.cons_ne_nil _ _) _
  exact .joined (by decide) (List.forall_mem_map.mpr fun part _ => sectionsEnd part)

end SubRecord
end MarkerManifests
