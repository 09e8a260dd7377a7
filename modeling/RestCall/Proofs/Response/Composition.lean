import RestCall.Proofs.Response.Records
/-!
# RestCall — records over a blank line

A blank line ends the record that has been begun and leaves nothing behind, so
what follows is read as from the beginning (`recordsFrom_append_blank`). The
records of a text are therefore its paragraphs, the lines between blank ones
(`records_eq_paragraphs`). Two line feeds make a blank line wherever they stand:
the first ends a line that was left open, the second one that is empty. A
character cut off in front of them ends there too, since they are ASCII. So a
body is the records on one side of two line feeds, then those on the other
(`keyValuesList_composed`), and each record is one that could have been written.
-/

namespace RestCall

namespace Parser

variable {line : List Char} {f : String × String} {current fields : Fields}

/-! ## Records that can be written -/

/-- What has been read of a record: fields that keep to their lines, each
under a key of its own. -/
structure Begun (current : Fields) : Prop where
  keys : (current.map Prod.fst).Nodup
  lined : ∀ f ∈ current, Lined f

/-- **A record**: it has been begun and has a field. -/
structure Recorded (fields : Fields) : Prop extends Begun fields where
  filled : fields ≠ []

theorem begun_nil : Begun [] := ⟨List.nodup_nil, fun _ hf => absurd hf List.not_mem_nil⟩

/-- **A line is a field.** Its key ends at the first blank, which is not the
first character, and its value has been trimmed. -/
theorem lined_keyValue (hne : line ≠ []) (htight : Text.Tight line) (hsingle : '\n' ∉ line) :
    Lined (keyValue line) := by
  unfold keyValue
  split
  · rename_i key value hsplit
    obtain ⟨mark, hmark, rfl, hkey⟩ := Text.splitFirst_eq_some hsplit
    refine ⟨fun hnil => ?_, ?_, fun hmem => ?_, ?_⟩
    · obtain rfl : key = [] := String.ofList_eq_empty_iff.1 hnil
      rw [htight.head mark rfl] at hmark
      cases hmark
    · rwa [String.toList_ofList]
    · rw [String.toList_ofList] at hmem
      refine hsingle (List.mem_append_right _ (List.mem_cons_of_mem _ ?_))
      exact Text.mem_of_mem_trim hmem
    · rw [String.toList_ofList]
      exact Text.tight_trim value
  · rename_i hsplit
    refine ⟨fun hnil => hne (String.ofList_eq_empty_iff.1 hnil), ?_, List.not_mem_nil, ?_⟩
    · rw [String.toList_ofList]
      exact Text.splitFirst_eq_none_iff.1 hsplit
    · exact Text.tight_of_not_blank fun c hc => absurd hc List.not_mem_nil

/-- **A field that is put in** leaves every key in one place. -/
theorem Begun.insert (h : Begun current) (hf : Lined f) :
    Begun (Json.insert f.1 f.2 current) := by
  refine ⟨?_, fun g hg => ?_⟩
  · rw [Json.keys_insert]
    split
    · exact h.keys
    · rename_i hnew
      refine List.nodup_append.2 ⟨h.keys, List.pairwise_singleton _ _, fun key hkey new hsame => ?_⟩
      obtain rfl := List.mem_singleton.1 hsame
      exact fun heq => hnew (heq ▸ hkey)
  · rcases Json.mem_insert hg with rfl | hmem
    · exact hf
    · exact h.lined g hmem

theorem recorded_of_mem_finished (h : Begun current) (hfields : fields ∈ finished current) :
    Recorded fields := by
  unfold finished at hfields
  split at hfields
  · exact absurd hfields List.not_mem_nil
  · rename_i hempty
    obtain rfl := List.mem_singleton.1 hfields
    exact ⟨h, by simpa using hempty⟩

/-- **All that is read is records**, whatever has been begun before. -/
theorem recorded_of_mem_recordsFrom {lines : List (List Char)} (h : Begun current)
    (hlines : ∀ line ∈ lines, Text.Tight line ∧ '\n' ∉ line)
    (hfields : fields ∈ recordsFrom current lines) : Recorded fields := by
  induction lines generalizing current with
  | nil => exact recorded_of_mem_finished h hfields
  | cons line lines ih =>
    obtain ⟨⟨htight, hsingle⟩, hrest⟩ := List.forall_mem_cons.1 hlines
    by_cases hne : line = []
    · obtain rfl := hne
      rcases List.mem_append.1 hfields with hended | hlater
      · exact recorded_of_mem_finished h hended
      · exact ih begun_nil hrest hlater
    · rw [recordsFrom_cons hne] at hfields
      exact ih (h.insert (lined_keyValue hne htight hsingle)) hrest hfields

/-! ## Blank lines -/

/-- **A blank line ends a record** and leaves nothing of it behind. -/
theorem recordsFrom_append_blank {front rest : List (List Char)} :
    recordsFrom current (front ++ [] :: rest) =
      recordsFrom current front ++ recordsFrom [] rest := by
  induction front generalizing current with
  | nil => rfl
  | cons line front ih =>
    by_cases hne : line = []
    · obtain rfl := hne
      have hended : recordsFrom current ([] :: front ++ [] :: rest) =
          finished current ++ recordsFrom [] (front ++ [] :: rest) := rfl
      rw [hended, ih, ← List.append_assoc]
      rfl
    · rw [List.cons_append, recordsFrom_cons hne, recordsFrom_cons hne, ih]

/-- The records of a text are those of the pieces between its line feeds. -/
theorem records_eq (cs : List Char) : records cs = recordsFrom [] (Text.trimmedPieces cs) := by
  rw [Text.trimmedPieces_eq]
  unfold records
  by_cases hlast : (Text.splitOn '\n' cs).getLast? = some []
  · -- the empty piece behind the last line feed ends nothing that has no end
    rw [Text.splitOn_map_trim hlast, recordsFrom_append_blank]
    exact (List.append_nil _).symm
  · rw [Text.lines_map_trim hlast]

theorem recorded_of_mem_records {cs : List Char} (h : fields ∈ records cs) : Recorded fields := by
  rw [records_eq] at h
  exact recorded_of_mem_recordsFrom begun_nil (fun _ => Text.of_mem_trimmedPieces) h

/-- **Two line feeds divide records**: those in front of them come first, then
those behind. -/
theorem records_append (cs ds : List Char) :
    records (cs ++ '\n' :: '\n' :: ds) = records cs ++ records ds := by
  rw [records_eq, records_eq, records_eq, Text.trimmedPieces_append]
  exact recordsFrom_append_blank

/-! ## Paragraphs -/

/-- The field that a line stands for: the characters up to its first blank, and
those from there on without the blanks around them. -/
def fieldOf (line : List Char) : String × String :=
  (String.ofList (line.takeWhile fun c => !Text.isBlank c),
    String.ofList (Text.trim (line.dropWhile fun c => !Text.isBlank c)))

/-- The paragraphs of a text: its trimmed lines between those that are blank. -/
def paragraphs (cs : List Char) : List (List (List Char)) :=
  ((Text.trimmedPieces cs).splitOn []).filter fun lines => !lines.isEmpty

/-- The object that a paragraph stands for: the fields of its lines, put in one
after another. -/
def paragraphObject (lines : List (List Char)) : Json :=
  .object ((Json.collect (lines.map fieldOf)).map fun f => (f.1, .string f.2))

theorem keyValue_eq_fieldOf (line : List Char) : keyValue line = fieldOf line := by
  unfold keyValue fieldOf
  split
  · rename_i key value hsplit
    obtain ⟨mark, hmark, rfl, hkey⟩ := Text.splitFirst_eq_some hsplit
    have hfront : ∀ c ∈ key, (!Text.isBlank c) = true := fun c hc => by rw [hkey c hc]; rfl
    have hkept : (key ++ mark :: value).takeWhile (fun c => !Text.isBlank c) = key := by
      rw [List.takeWhile_append_of_pos hfront, List.takeWhile_cons, hmark]
      exact List.append_nil key
    have hleft : (key ++ mark :: value).dropWhile (fun c => !Text.isBlank c) = mark :: value := by
      rw [List.dropWhile_append_of_pos hfront, List.dropWhile_cons, hmark]
      rfl
    rw [hkept, hleft, Text.trim_cons hmark]
  · rename_i hsplit
    have hall : ∀ c ∈ line, (!Text.isBlank c) = true := fun c hc => by
      rw [Text.splitFirst_eq_none_iff.1 hsplit c hc]; rfl
    rw [List.takeWhile_eq_self_iff.2 hall, List.dropWhile_eq_nil_iff.2 hall]
    rfl

/-- What has been begun with some lines ends as a record of them, if there are
any. -/
theorem finished_collect (front : List (List Char)) :
    finished (Json.collect (front.map fieldOf)) =
      ([front].filter fun lines => !lines.isEmpty).map
        fun lines => Json.collect (lines.map fieldOf) := by
  cases front with
  | nil => rfl
  | cons line front =>
    have hbegun : Json.collect ((line :: front).map fieldOf) ≠ [] :=
      Json.collect_ne_nil (List.cons_ne_nil _ _)
    unfold finished
    rw [if_neg (mt List.isEmpty_iff.1 hbegun)]
    rfl

/-- **Lines read after the first of a paragraph** are read as the paragraphs
that begin with these. -/
theorem recordsFrom_collect {front lines : List (List Char)} (h : [] ∉ front) :
    recordsFrom (Json.collect (front.map fieldOf)) lines =
      (((front ++ lines).splitOn []).filter fun lines => !lines.isEmpty).map
        fun lines => Json.collect (lines.map fieldOf) := by
  induction lines generalizing front with
  | nil =>
    have hsingle : front.splitOn [] = [front] := List.splitOnP_eq_singleton fun line hline =>
      beq_eq_false_iff_ne.2 (ne_of_mem_of_not_mem hline h)
    rw [List.append_nil, hsingle]
    exact finished_collect front
  | cons line lines ih =>
    by_cases hne : line = []
    · -- a blank line ends the paragraph, and the next one begins with nothing
      obtain rfl := hne
      have hended : recordsFrom (Json.collect (front.map fieldOf)) ([] :: lines) =
          finished (Json.collect (front.map fieldOf)) ++ recordsFrom [] lines := rfl
      have hsplit : (front ++ [] :: lines).splitOn [] = [front] ++ lines.splitOn [] :=
        List.splitOn_append_cons_self_of_not_mem h lines
      rw [hended, finished_collect, hsplit, List.filter_append, List.map_append]
      exact congrArg _ (@ih [] List.not_mem_nil)
    · have hfront : [] ∉ front ++ [line] := by simpa [h] using Ne.symm hne
      have hnext := ih hfront
      rw [recordsFrom_cons hne, keyValue_eq_fieldOf, ← Json.collect_append_singleton]
      rwa [List.map_append, ← List.append_cons] at hnext

/-- **Records are paragraphs.** -/
theorem records_eq_paragraphs (cs : List Char) :
    records cs = (paragraphs cs).map fun lines => Json.collect (lines.map fieldOf) :=
  (records_eq cs).trans (recordsFrom_collect List.not_mem_nil)

/-! ## Bodies -/

theorem lenient_append_newlines (a b : Bytes) :
    Utf8.lenient (a ++ 0x0A :: 0x0A :: b) =
      Utf8.lenient a ++ '\n' :: '\n' :: Utf8.lenient b := by
  rw [Utf8.lenient_append_ascii a (by decide), ← List.nil_append (0x0A :: b),
    Utf8.lenient_append_ascii [] (by decide)]
  rfl

/-- **What a body is read as**: an object for each of its records, with the fields
of the record for members and nothing else, and the first of them when only one
is asked for. The records are the paragraphs of the text that the body holds, and
of the text that stands for it when it is ill-formed. -/
structure ReadAs (r : Response) (items : List Json) : Prop where
  list : keyValuesList.parse r = .ok (.value (.array items))
  first : keyValues.parse r = .ok ((items.head?.map .value).getD .absent)
  recorded : ∀ item ∈ items, ∃ fields, Recorded fields ∧
    item = .object (fields.map fun f => (f.1, .string f.2))
  lenient : items = (paragraphs (Utf8.lenient r.body)).map paragraphObject
  text : ∀ text : String, r.body = Utf8.ofString text →
    items = (paragraphs text.toList).map paragraphObject

/-- The objects of the records are the objects of the paragraphs. -/
theorem map_objectOf_records (cs : List Char) :
    (records cs).map objectOf = (paragraphs cs).map paragraphObject := by
  rw [records_eq_paragraphs, List.map_map]
  rfl

theorem readAs_records (r : Response) :
    ReadAs r ((records (Utf8.lenient r.body)).map objectOf) := by
  refine ⟨rfl, ?_, fun item hitem => ?_, map_objectOf_records _, fun text htext => ?_⟩
  · unfold keyValues Response.characters
    dsimp only
    cases records (Utf8.lenient r.body) <;> rfl
  · obtain ⟨fields, hfields, rfl⟩ := List.mem_map.1 hitem
    exact ⟨fields, recorded_of_mem_records hfields, rfl⟩
  · rw [htext, Utf8.ofString, Utf8.lenient_encode, map_objectOf_records]

/-- **Records compose over blank lines.** The records of two bodies with two
line feeds between them are those of the first, then those of the second, even
if a character is cut off on either side. Every record has a field, keys that
differ and hold no blank, and values without blanks at their ends; and the first
record of a body is what it is read as when only one is asked for. -/
theorem keyValuesList_composed (r : Response) (a b : Bytes) : ∃ front back : List Json,
    ReadAs { r with body := a } front ∧ ReadAs { r with body := b } back ∧
      ReadAs { r with body := a ++ 0x0A :: 0x0A :: b } (front ++ back) := by
  refine ⟨_, _, readAs_records _, readAs_records _, ?_⟩
  rw [← List.map_append, ← records_append, ← lenient_append_newlines]
  exact readAs_records _

/-- A record in which a key is given twice, behind a blank line of its own. -/
def foo : String := "\nname old\nuse  production candy \r\nname foo"

/-- A record with a value that is empty, and a blank at the end of its line. -/
def bar : String := "name bar\r\nstatus \n"

theorem keyValuesList_composed_foo_bar :
    keyValuesList.parse ⟨200, Utf8.ofString foo ++ 0x0A :: 0x0A :: Utf8.ofString bar, .empty⟩ =
        .ok (.value (.array [
          .object [("name", .string "foo"), ("use", .string "production candy")],
          .object [("name", .string "bar"), ("status", .string "")]])) ∧
      keyValues.parse ⟨200, Utf8.ofString foo ++ 0x0A :: 0x0A :: Utf8.ofString bar, .empty⟩ =
        .ok (.value (.object [("name", .string "foo"), ("use", .string "production candy")])) := by
  obtain ⟨front, back, hfront, hback, hboth⟩ :=
    keyValuesList_composed ⟨200, [], .empty⟩ (Utf8.ofString foo) (Utf8.ofString bar)
  obtain rfl := hfront.text foo rfl
  obtain rfl := hback.text bar rfl
  exact ⟨hboth.list, hboth.first⟩

/-- A character cut off in front of the line feeds, its last byte behind them:
each half is ill-formed, and neither touches the other's record. -/
example : records (Utf8.lenient ([0x61, 0x20, 0xE2, 0x82] ++ 0x0A :: 0x0A :: [0xAC, 0x0D, 0x0A])) =
    [[("a", "\uFFFD")], [("\uFFFD", "")]] := by decide

end Parser

end RestCall
