import MarkerManifests.Json.Printer
import MarkerManifests.Json.Reader
import MarkerManifests.Proofs.Number.Reading
import MarkerManifests.Proofs.Ordered.Entries

/-!
# Reading written documents

The compact text of a document reads back as the document, if every object has distinct keys, the
brackets are not nested too deeply, numbers are kept the way they are read and doubles read back.
The documents that the reader gives are like that, except for the doubles.
-/

namespace MarkerManifests
namespace Json

/-! ## Strings -/

theorem readString_cons_of_ne
    {character : Char}
    (noQuote : character ≠ '"')
    (noBackslash : character ≠ '\\')
    (printable : ¬ character.toNat < 0x20)
    (rest : List Char) :
    readString (character :: rest) =
      (readString rest).map fun (text, rest) => (character :: text, rest) := by
  rw [readString.eq_def]
  split
  · rename_i empty
    cases empty
  · rename_i isQuote
    exact absurd (List.cons.inj isQuote).1 noQuote
  · rename_i isUnit
    exact absurd (List.cons.inj isUnit).1 noBackslash
  · rename_i isEscape
    exact absurd (List.cons.inj isEscape).1 noBackslash
  · rename_i same
    obtain ⟨rfl, rfl⟩ := List.cons.inj same
    rw [if_neg (not_or.mpr ⟨noBackslash, printable⟩)]

/-- A control character is escaped by its code. -/
theorem readString_unit
    {code : Nat}
    (control : code < 0x20)
    (rest : List Char) :
    readString ('\\' :: 'u' :: '0' :: '0' :: hexDigit (code / 16) :: hexDigit (code % 16) :: rest) =
      (readString rest).map fun (text, rest) => (Char.ofNat code :: text, rest) := by
  have isUnit : unit? '0' '0' (hexDigit (code / 16)) (hexDigit (code % 16)) = some code := by
    have all : ∀ code < 0x20,
        unit? '0' '0' (hexDigit (code / 16)) (hexDigit (code % 16)) = some code := by decide
    exact all code control
  rw [readString, isUnit]
  dsimp only
  rw [if_neg (by omega), if_neg (by omega)]

theorem readString_append_escaped
    (character : Char)
    (rest : List Char) :
    readString (escaped character ++ rest) =
      (readString rest).map fun (text, rest) => (character :: text, rest) := by
  unfold escaped
  split
  · rename_i same
    rw [same]
    rfl
  split
  · rename_i same
    rw [same]
    rfl
  split
  · rename_i same
    rw [same]
    rfl
  split
  · rename_i same
    rw [same]
    rfl
  split
  · rename_i same
    rw [same]
    rfl
  split
  · rename_i same
    rw [same]
    rfl
  split
  · rename_i same
    rw [same]
    rfl
  split
  · rename_i control
    have read := readString_unit control rest
    rwa [Char.ofNat_toNat] at read
  · rename_i noQuote noBackslash _ _ _ _ _ printable
    exact readString_cons_of_ne noQuote noBackslash printable rest

/-- The text of a string reads back as the string. -/
@[simp] theorem readString_escaped (text rest : List Char) :
    readString (text.flatMap escaped ++ '"' :: rest) = some (text, rest) := by
  induction text with
  | nil => rfl
  | cons character text inductionHypothesis =>
      rw [List.flatMap_cons, List.append_assoc, readString_append_escaped,
        inductionHypothesis]
      rfl

/-! ## Documents that can be read -/

/-- A document in which the keys of objects are allowed, arrays and objects are nested at most as
deep as given, and numbers are kept the way they are read. -/
inductive Fits (keys : List String → Prop) : Nat → Json → Prop where
  | null (depth : Nat) : Fits keys depth null
  | bool (depth : Nat) (value : Bool) : Fits keys depth (bool value)
  | number {value : Number} (depth : Nat) (normal : value.IsNormal) :
      Fits keys depth (number value)
  | string (depth : Nat) (value : String) : Fits keys depth (string value)
  | array
      {depth : Nat}
      {items : List Json}
      (fit : ∀ item ∈ items, Fits keys depth item) :
      Fits keys (depth + 1) (array items)
  | object
      {depth : Nat}
      {entries : List (String × Json)}
      (allowed : keys (entries.map (·.1)))
      (fit : ∀ entry ∈ entries, Fits keys depth entry.2) :
      Fits keys (depth + 1) (object entries)

/-- A double that stands in a document. -/
inductive HasDouble (value : Double) : Json → Prop where
  | number : HasDouble value (number (.double value))
  | item
      {items : List Json}
      {item : Json}
      (member : item ∈ items)
      (inside : HasDouble value item) :
      HasDouble value (array items)
  | entry
      {entries : List (String × Json)}
      {entry : String × Json}
      (member : entry ∈ entries)
      (inside : HasDouble value entry.2) :
      HasDouble value (object entries)

/-! ## Normal documents -/

theorem normalItems_eq_map (items : List Json) : normalItems items = items.map normal := by
  induction items with
  | nil => rfl
  | cons item rest inductionHypothesis => rw [normalItems, inductionHypothesis, List.map_cons]

/-- Putting entries under their keys leaves distinct keys. -/
theorem fits_normalEntries
    {depth : Nat}
    (before : List (String × Json))
    {entries : List (String × Json)}
    (distinct : (before.map (·.1)).Nodup)
    (fitBefore : ∀ entry ∈ before, Fits List.Nodup depth entry.2)
    (fit : ∀ entry ∈ entries, Fits List.Nodup depth (normal entry.2)) :
    ((normalEntries before entries).map (·.1)).Nodup ∧
      ∀ entry ∈ normalEntries before entries, Fits List.Nodup depth entry.2 := by
  induction entries generalizing before with
  | nil => exact ⟨distinct, fitBefore⟩
  | cons entry rest inductionHypothesis =>
      obtain ⟨key, value⟩ := entry
      rw [List.forall_mem_cons] at fit
      refine inductionHypothesis _ (Entries.nodup_put distinct) (fun entry member => ?_) fit.2
      rcases Entries.mem_put member with rfl | inBefore
      · exact fit.1
      · exact fitBefore entry inBefore

/-- Normal documents have distinct keys. -/
theorem fits_normal
    {depth : Nat}
    {tree : Json}
    (fits : Fits (fun _ => True) depth tree) :
    Fits List.Nodup depth (normal tree) := by
  induction fits with
  | null depth => exact .null depth
  | bool depth value => exact .bool depth value
  | number depth isNormal => exact .number depth isNormal
  | string depth value => exact .string depth value
  | array _ fitNormal =>
      rw [normal, normalItems_eq_map]
      exact .array (List.forall_mem_map.mpr fitNormal)
  | @object depth _ _ _ fitNormal =>
      rw [normal]
      have nothing : ∀ entry ∈ ([] : List (String × Json)), Fits List.Nodup depth entry.2 :=
        fun _ member => (nomatch member)
      obtain ⟨distinct, fit⟩ := fits_normalEntries [] List.nodup_nil nothing fitNormal
      exact .object distinct fit

theorem normalEntries_of_fits
    (before : List (String × Json))
    {entries : List (String × Json)}
    (distinct : ((before ++ entries).map (·.1)).Nodup)
    (fixed : ∀ entry ∈ entries, normal entry.2 = entry.2) :
    normalEntries before entries = before ++ entries := by
  induction entries generalizing before with
  | nil => rw [normalEntries, List.append_nil]
  | cons entry rest inductionHypothesis =>
      obtain ⟨key, value⟩ := entry
      rw [List.forall_mem_cons] at fixed
      have absent : key ∉ before.map (·.1) := by
        intro inBefore
        rw [List.map_append, List.nodup_append] at distinct
        exact distinct.2.2 key inBefore key List.mem_cons_self rfl
      have shape : before ++ (key, value) :: rest = before ++ [(key, value)] ++ rest := by simp
      rw [shape] at distinct ⊢
      rw [normalEntries, fixed.1, Entries.put_of_not_mem absent]
      exact inductionHypothesis _ distinct fixed.2

/-- Documents with distinct keys are normal. -/
theorem normal_of_fits
    {depth : Nat}
    {tree : Json}
    (fits : Fits List.Nodup depth tree) :
    normal tree = tree := by
  induction fits with
  | null depth => rfl
  | bool depth value => rfl
  | number depth isNormal => rfl
  | string depth value => rfl
  | array _ fixed =>
      rw [normal, normalItems_eq_map, List.map_congr_left fixed, List.map_id']
  | object distinct _ fixed =>
      rw [normal, normalEntries_of_fits [] distinct fixed, List.nil_append]

/-! ## Documents that are read -/

theorem forall_of_readItems
    {readOne : List Char → Option (Json × List Char)}
    {property : Json → Prop}
    (holds : ∀ {text tree rest}, readOne text = some (tree, rest) → property tree)
    {bound : Nat}
    {text rest : List Char}
    {items : List Json}
    (isRead : readItems readOne bound text = some (items, rest)) :
    ∀ item ∈ items, property item := by
  induction bound generalizing text items with
  | zero => cases isRead
  | succ bound inductionHypothesis =>
      rw [readItems] at isRead
      obtain ⟨⟨item, after⟩, isItem, isRead⟩ := Option.bind_eq_some_iff.mp isRead
      dsimp only at isRead
      split at isRead
      · obtain ⟨⟨others, left⟩, areItems, isRead⟩ := Option.bind_eq_some_iff.mp isRead
        cases isRead
        exact List.forall_mem_cons.mpr ⟨holds isItem, inductionHypothesis areItems⟩
      · cases isRead
        exact List.forall_mem_singleton.mpr (holds isItem)
      · cases isRead

theorem forall_of_readEntries
    {readOne : List Char → Option (Json × List Char)}
    {property : Json → Prop}
    (holds : ∀ {text tree rest}, readOne text = some (tree, rest) → property tree)
    {bound : Nat}
    {text rest : List Char}
    {entries : List (String × Json)}
    (isRead : readEntries readOne bound text = some (entries, rest)) :
    ∀ entry ∈ entries, property entry.2 := by
  induction bound generalizing text entries with
  | zero => cases isRead
  | succ bound inductionHypothesis =>
      rw [readEntries] at isRead
      split at isRead
      · obtain ⟨⟨key, afterKey⟩, -, isRead⟩ := Option.bind_eq_some_iff.mp isRead
        dsimp only at isRead
        split at isRead
        · obtain ⟨⟨value, after⟩, isValue, isRead⟩ := Option.bind_eq_some_iff.mp isRead
          dsimp only at isRead
          split at isRead
          · obtain ⟨⟨others, left⟩, areEntries, isRead⟩ := Option.bind_eq_some_iff.mp isRead
            cases isRead
            exact List.forall_mem_cons.mpr ⟨holds isValue, inductionHypothesis areEntries⟩
          · cases isRead
            exact List.forall_mem_singleton.mpr (holds isValue)
          · cases isRead
        · cases isRead
      · cases isRead

/-- A document that was read is nested no deeper than was allowed. -/
theorem fits_of_readValue
    {depth : Nat}
    {text rest : List Char}
    {tree : Json}
    (isRead : readValue depth text = some (tree, rest)) :
    Fits (fun _ => True) depth tree := by
  induction depth using Nat.strongRecOn generalizing text tree rest with
  | ind depth inductionHypothesis =>
      rw [readValue.eq_def] at isRead
      dsimp only at isRead
      split at isRead
      · cases isRead
        exact .null _
      · cases isRead
        exact .bool _ true
      · cases isRead
        exact .bool _ false
      · obtain ⟨⟨content, left⟩, -, same⟩ := Option.map_eq_some_iff.mp isRead
        cases same
        exact .string _ (String.ofList content)
      · rename_i deeper _
        have inside := @inductionHypothesis deeper (Nat.lt_succ_self deeper)
        split at isRead
        · cases isRead
          exact .array fun _ member => (nomatch member)
        · obtain ⟨⟨items, left⟩, areItems, same⟩ := Option.map_eq_some_iff.mp isRead
          cases same
          exact .array (forall_of_readItems inside areItems)
      · rename_i deeper _
        have inside := @inductionHypothesis deeper (Nat.lt_succ_self deeper)
        split at isRead
        · cases isRead
          exact .object trivial fun _ member => (nomatch member)
        · obtain ⟨⟨entries, left⟩, areEntries, same⟩ := Option.map_eq_some_iff.mp isRead
          cases same
          exact .object trivial (forall_of_readEntries inside areEntries)
      · cases isRead
      · cases isRead
      · split at isRead
        · rename_i value left isNumber
          cases isRead
          exact .number _ (Number.isNormal_of_readPrefix isNumber)
        · cases isRead

/-! ## Reading compact texts -/

/-- The characters with which compact texts begin. -/
def openings : List Char :=
  ['n', 't', 'f', '"', '[', '{'] ++ Number.characters

theorem skipBlanks_of_mem_openings
    {first : Char}
    (opens : first ∈ openings)
    (rest : List Char) :
    skipBlanks (first :: rest) = first :: rest := by
  have visible : ∀ first ∈ openings,
      (first == ' ' || first == '\n' || first == '\t' || first == '\r') = false :=
    forall_mem_of_all (by decide)
  rw [skipBlanks, List.dropWhile_cons_of_neg]
  rw [visible first opens]
  exact Bool.false_ne_true

theorem readValue_of_readPrefix
    {first : Char}
    {others rest : List Char}
    {value : Number}
    (depth : Nat)
    (isCharacter : first ∈ Number.characters)
    (isRead : Number.readPrefix (first :: others) = .ok (value, rest)) :
    readValue depth (first :: others) = some (number value, rest) := by
  have isOther : ∀ first ∈ Number.characters, first ∉ ['n', 't', 'f', '"', '[', '{'] :=
    forall_mem_of_all (by decide)
  have opens : first ∈ openings := List.mem_append_right _ isCharacter
  rw [readValue.eq_def]
  dsimp only
  rw [skipBlanks_of_mem_openings opens]
  split
  all_goals first
    | rename_i same
      obtain ⟨rfl, -⟩ := List.cons.inj same
      exact absurd (by decide) (isOther _ isCharacter)
    | rw [isRead]

theorem ends_of_closing
    {mark : Char}
    (closes : mark ∈ [',', ']', '}'])
    (rest : List Char) :
    Number.Ends (mark :: rest) := by
  intro first isFirst
  cases isFirst
  have all : ∀ mark ∈ [',', ']', '}'], Decimal.digit? mark = none ∧ mark ≠ '.' ∧ mark ≠ 'e' ∧
      mark ≠ 'E' := forall_mem_of_all (by decide)
  exact all mark closes

/-- The compact text is not empty and reads back as the document before whatever ends it. -/
structure CompactReadsBack (depth : Nat) (tree : Json) : Prop where
  begins : ∃ first others, compact tree = first :: others ∧ first ∈ openings
  reads : ∀ rest, Number.Ends rest → readValue depth (compact tree ++ rest) = some (tree, rest)

theorem readItems_compactItems
    {depth : Nat}
    {items : List Json}
    (readBack : ∀ item ∈ items, CompactReadsBack depth item)
    (nonempty : items ≠ [])
    {bound : Nat}
    (bounded : items.length ≤ bound)
    (rest : List Char) :
    readItems (readValue depth) bound (compactItems items ++ ']' :: rest) =
      some (items, rest) := by
  induction items generalizing bound with
  | nil => exact absurd rfl nonempty
  | cons item others inductionHypothesis =>
      rw [List.forall_mem_cons] at readBack
      cases bound with
      | zero => cases bounded
      | succ bound =>
          cases others with
          | nil =>
              rw [compactItems, readItems, readBack.1.reads _ (ends_of_closing (by decide) rest)]
              rfl
          | cons next more =>
              have later := inductionHypothesis readBack.2 (List.cons_ne_nil next more)
                (Nat.le_of_succ_le_succ bounded)
              rw [compactItems, List.append_assoc, List.cons_append, readItems,
                readBack.1.reads _ (ends_of_closing (by decide) _)]
              exact congrArg (·.bind fun found => some (item :: found.1, found.2)) later

theorem readEntries_quoted
    (readOne : List Char → Option (Json × List Char))
    (bound : Nat)
    (key : String)
    (text : List Char) :
    readEntries readOne (bound + 1) (quoted key.toList ++ ':' :: text) =
      (readOne text).bind fun (value, rest) =>
        match skipBlanks rest with
        | ',' :: rest =>
          (readEntries readOne bound rest).bind fun (entries, rest) =>
            some ((key, value) :: entries, rest)
        | '}' :: rest => some ([(key, value)], rest)
        | _ => none := by
  have shape : quoted key.toList ++ ':' :: text =
      '"' :: (key.toList.flatMap escaped ++ '"' :: ':' :: text) := by
    simp [quoted]
  rw [shape, readEntries, skipBlanks_of_mem_openings (by decide)]
  simp only [readString_escaped, Option.bind_eq_bind, Option.bind_some]
  rw [skipBlanks, List.dropWhile_cons_of_neg (by decide)]
  simp only [String.ofList_toList]
  rfl

theorem readEntries_compactEntries
    {depth : Nat}
    {entries : List (String × Json)}
    (readBack : ∀ entry ∈ entries, CompactReadsBack depth entry.2)
    (nonempty : entries ≠ [])
    {bound : Nat}
    (bounded : entries.length ≤ bound)
    (rest : List Char) :
    readEntries (readValue depth) bound (compactEntries entries ++ '}' :: rest) =
      some (entries, rest) := by
  induction entries generalizing bound with
  | nil => exact absurd rfl nonempty
  | cons entry others inductionHypothesis =>
      obtain ⟨key, value⟩ := entry
      rw [List.forall_mem_cons] at readBack
      cases bound with
      | zero => cases bounded
      | succ bound =>
          cases others with
          | nil =>
              rw [compactEntries, List.append_assoc, List.cons_append, readEntries_quoted,
                readBack.1.reads _ (ends_of_closing (by decide) rest)]
              rfl
          | cons next more =>
              have later := inductionHypothesis readBack.2 (List.cons_ne_nil next more)
                (Nat.le_of_succ_le_succ bounded)
              have shape : compactEntries ((key, value) :: next :: more) ++ '}' :: rest =
                  quoted key.toList ++ ':' :: (compact value ++
                    ',' :: (compactEntries (next :: more) ++ '}' :: rest)) := by
                simp [compactEntries]
              rw [shape, readEntries_quoted, readBack.1.reads _ (ends_of_closing (by decide) _)]
              exact congrArg (·.bind fun found => some ((key, value) :: found.1, found.2)) later

theorem length_le_length_compactItems (items : List Json) :
    items.length ≤ (compactItems items).length + 1 := by
  induction items with
  | nil => exact Nat.zero_le 1
  | cons item others inductionHypothesis =>
      cases others with
      | nil => exact Nat.succ_le_succ (Nat.zero_le _)
      | cons next more =>
          simp only [compactItems, List.length_append, List.length_cons] at inductionHypothesis ⊢
          omega

theorem length_le_length_compactEntries (entries : List (String × Json)) :
    entries.length ≤ (compactEntries entries).length + 1 := by
  induction entries with
  | nil => exact Nat.zero_le 1
  | cons entry others inductionHypothesis =>
      cases others with
      | nil => exact Nat.succ_le_succ (Nat.zero_le _)
      | cons next more =>
          obtain ⟨key, value⟩ := entry
          simp only [compactEntries, List.length_append, List.length_cons] at inductionHypothesis ⊢
          omega

theorem compactItems_append_eq_cons
    {first : Char}
    {item : Json}
    {others : List Char}
    (begins : compact item = first :: others)
    (more : List Json)
    (rest : List Char) :
    ∃ following, compactItems (item :: more) ++ rest = first :: following := by
  cases more with
  | nil => exact ⟨_, by rw [compactItems, begins, List.cons_append]⟩
  | cons next more => exact ⟨_, by rw [compactItems, begins, List.cons_append, List.cons_append]⟩

theorem compactEntries_append_eq_cons
    (entry : String × Json)
    (more : List (String × Json))
    (rest : List Char) :
    ∃ following, compactEntries (entry :: more) ++ rest = '"' :: following := by
  obtain ⟨key, value⟩ := entry
  cases more with
  | nil => exact ⟨_, rfl⟩
  | cons next more => exact ⟨_, rfl⟩

/-- Reads what follows an opening bracket. -/
def readArray (depth : Nat) (text : List Char) : Option (Json × List Char) :=
  match skipBlanks text with
  | ']' :: rest => some (array [], rest)
  | _ =>
    (readItems (readValue depth) text.length text).map fun (items, rest) => (array items, rest)

theorem readValue_bracket (depth : Nat) (text : List Char) :
    readValue (depth + 1) ('[' :: text) = readArray depth text := rfl

theorem readValue_array
    {text : List Char}
    {first : Char}
    (depth : Nat)
    (opens : first ∈ openings)
    (begins : ∃ following, text = first :: following) :
    readValue (depth + 1) ('[' :: text) =
      (readItems (readValue depth) text.length text).map fun (items, rest) =>
        (array items, rest) := by
  obtain ⟨following, rfl⟩ := begins
  have notClosing : ∀ first ∈ openings, first ≠ ']' := forall_mem_of_all (by decide)
  rw [readValue_bracket, readArray, skipBlanks_of_mem_openings opens]
  split
  · rename_i same
    exact absurd (List.cons.inj same).1 (notClosing first opens)
  · rfl

theorem readValue_object
    {text : List Char}
    (depth : Nat)
    (begins : ∃ following, text = '"' :: following) :
    readValue (depth + 1) ('{' :: text) =
      (readEntries (readValue depth) text.length text).map fun (entries, rest) =>
        (object entries, rest) := by
  obtain ⟨following, rfl⟩ := begins
  rfl

theorem compactReadsBack_number
    {value : Number}
    (depth : Nat)
    (normal : value.IsNormal)
    (doubles : ∀ double ∈ value.double?, double.ReadsBack doubleSpelling) :
    CompactReadsBack depth (number value) := by
  have isRead := Number.readPrefix_text normal doubles
  have inCharacters := Number.text_subset_characters doubleSpelling value
  cases shape : value.text doubleSpelling with
  | nil =>
      rw [shape] at isRead
      cases isRead
  | cons first others =>
      rw [shape] at isRead inCharacters
      have isCharacter := inCharacters List.mem_cons_self
      refine ⟨⟨first, others, shape, List.mem_append_right _ isCharacter⟩, ?_⟩
      intro rest ends
      rw [compact, shape]
      exact readValue_of_readPrefix depth isCharacter (Number.prefixed_readPrefix isRead ends)

theorem compactReadsBack_string
    (depth : Nat)
    (value : String) :
    CompactReadsBack depth (string value) := by
  refine ⟨⟨'"', _, rfl, by decide⟩, fun rest _ => ?_⟩
  have shape : compact (string value) ++ rest =
      '"' :: (value.toList.flatMap escaped ++ '"' :: rest) := by
    simp [compact, quoted]
  rw [shape, readValue.eq_def]
  dsimp only
  rw [skipBlanks_of_mem_openings (by decide)]
  simp only [readString_escaped, Option.map_some, String.ofList_toList]

theorem compactReadsBack_array
    {depth : Nat}
    {items : List Json}
    (readBack : ∀ item ∈ items, CompactReadsBack depth item) :
    CompactReadsBack (depth + 1) (array items) := by
  refine ⟨⟨'[', _, rfl, by decide⟩, fun rest _ => ?_⟩
  have shape : compact (array items) ++ rest = '[' :: (compactItems items ++ ']' :: rest) := by
    simp [compact]
  rw [shape]
  cases items with
  | nil => rfl
  | cons item more =>
      obtain ⟨first, others, begins, opens⟩ := (readBack item List.mem_cons_self).begins
      have bounded : (item :: more).length ≤
          (compactItems (item :: more) ++ ']' :: rest).length := by
        have bound := length_le_length_compactItems (item :: more)
        simp only [List.length_append, List.length_cons] at bound ⊢
        omega
      rw [readValue_array depth opens (compactItems_append_eq_cons begins more _),
        readItems_compactItems readBack (List.cons_ne_nil item more) bounded]
      rfl

theorem compactReadsBack_object
    {depth : Nat}
    {entries : List (String × Json)}
    (readBack : ∀ entry ∈ entries, CompactReadsBack depth entry.2) :
    CompactReadsBack (depth + 1) (object entries) := by
  refine ⟨⟨'{', _, rfl, by decide⟩, fun rest _ => ?_⟩
  have shape : compact (object entries) ++ rest =
      '{' :: (compactEntries entries ++ '}' :: rest) := by
    simp [compact]
  rw [shape]
  cases entries with
  | nil => rfl
  | cons entry more =>
      have bounded : (entry :: more).length ≤
          (compactEntries (entry :: more) ++ '}' :: rest).length := by
        have bound := length_le_length_compactEntries (entry :: more)
        simp only [List.length_append, List.length_cons] at bound ⊢
        omega
      rw [readValue_object depth (compactEntries_append_eq_cons entry more _),
        readEntries_compactEntries readBack (List.cons_ne_nil entry more) bounded]
      rfl

/-- The compact text of a document reads back as the document, if its doubles do. -/
theorem compactReadsBack
    {keys : List String → Prop}
    {depth : Nat}
    {tree : Json}
    (fits : Fits keys depth tree)
    (doubles : ∀ value, HasDouble value tree → value.ReadsBack doubleSpelling) :
    CompactReadsBack depth tree := by
  induction fits with
  | null depth => exact ⟨⟨'n', _, rfl, by decide⟩, fun rest _ => by cases depth <;> rfl⟩
  | bool depth value =>
      cases value with
      | true => exact ⟨⟨'t', _, rfl, by decide⟩, fun rest _ => by cases depth <;> rfl⟩
      | false => exact ⟨⟨'f', _, rfl, by decide⟩, fun rest _ => by cases depth <;> rfl⟩
  | @number value depth normal =>
      apply compactReadsBack_number depth normal
      intro double isDouble
      cases value with
      | double own =>
          cases isDouble
          exact doubles _ .number
      | natural own => cases isDouble
      | negative own => cases isDouble
  | string depth value => exact compactReadsBack_string depth value
  | array _ readBack =>
      apply compactReadsBack_array
      intro item member
      exact readBack item member fun value inside => doubles value (.item member inside)
  | object _ _ readBack =>
      apply compactReadsBack_object
      intro entry member
      exact readBack entry member fun value inside => doubles value (.entry member inside)

/-! ## Whole texts -/

theorem fits_of_read?
    {text : List Char}
    {tree : Json}
    (isRead : read? text = some tree) :
    Fits List.Nodup greatestDepth tree := by
  obtain ⟨raw, isRaw, rfl⟩ := Option.map_eq_some_iff.mp isRead
  unfold readRaw? at isRaw
  split at isRaw
  · rename_i found
    split at isRaw
    · cases isRaw
      exact fits_normal (fits_of_readValue found)
    · cases isRaw
  · cases isRaw

/-- Documents with distinct keys that are not nested too deeply read back as themselves, if their
doubles do. -/
theorem read?_compact
    {tree : Json}
    (fits : Fits List.Nodup greatestDepth tree)
    (doubles : ∀ value, HasDouble value tree → value.ReadsBack doubleSpelling) :
    read? (compact tree) = some tree := by
  have found := (compactReadsBack fits doubles).reads [] Number.ends_nil
  rw [List.append_nil] at found
  rw [read?, readRaw?, found]
  exact congrArg some (normal_of_fits fits)

theorem endsVisibly_compact (tree : Json) : Text.EndsVisibly (compact tree) := by
  have closing : ∀ (before : List Char) {last : Char}, Text.isBlank last = false →
      Text.EndsVisibly (before ++ [last]) := by
    intro before last visible
    exact (Text.endsVisibly_of_forall (by simpa using visible)).append (List.cons_ne_nil last [])
      before
  cases tree with
  | null => exact Text.endsVisibly_of_forall (forall_mem_of_all (by decide))
  | bool value =>
      cases value <;> exact Text.endsVisibly_of_forall (forall_mem_of_all (by decide))
  | number value =>
      have visible : ∀ character ∈ Number.characters, Text.isBlank character = false :=
        forall_mem_of_all (by decide)
      exact Text.endsVisibly_of_forall fun character member =>
        visible character (Number.text_subset_characters doubleSpelling value member)
  | string value => exact closing ('"' :: value.toList.flatMap escaped) (by decide)
  | array items => exact closing ('[' :: compactItems items) (by decide)
  | object entries => exact closing ('{' :: compactEntries entries) (by decide)

end Json
end MarkerManifests
