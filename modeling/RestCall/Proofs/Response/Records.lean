import RestCall.Payload.Serializer
import RestCall.Proofs.Json.Members
import RestCall.Proofs.Text.Lines
import RestCall.Proofs.Text.Splitting
import RestCall.Proofs.Text.Utf8
import RestCall.Response.Parser
/-!
# RestCall — fields that are written and read back

Fields are written a line each, and records are read from lines, by two
modules that share no rule. A field survives when its key is there and holds
no blank, and its value keeps to one line and has no blank at either end;
inside it anything may stand. An empty value leaves a blank at the end of
its line, which trimming takes away with the mark between key and value.
Written fields are one record (`keyValues_read`): no line is blank, so no
line ends it.
-/

namespace RestCall

namespace Parser

variable {f : String × String} {fields : Entries} {current : Fields}

/-- **A field that keeps to its line.** -/
structure Lined (f : String × String) : Prop where
  named : f.1 ≠ ""
  key : ∀ c ∈ f.1.toList, Text.isBlank c = false
  single : '\n' ∉ f.2.toList
  value : Text.Tight f.2.toList

/-- The line of a field. -/
def lineOf (f : String × String) : String := f.1 ++ " " ++ f.2

theorem toList_lineOf : (lineOf f).toList = f.1.toList ++ ' ' :: f.2.toList := by
  unfold lineOf
  rw [String.toList_append, String.toList_append, List.append_assoc]
  rfl

/-! ## One line -/

/-- What is left of a line when it is trimmed: the key alone, if the value
is empty. -/
theorem trim_lineOf (h : Lined f) : Text.trim (lineOf f).toList =
    if f.2 = "" then f.1.toList else (lineOf f).toList := by
  rw [toList_lineOf]
  split
  · rename_i hempty
    rw [hempty]
    exact (Text.trim_concat (by decide)).trans (Text.tight_of_not_blank h.key).trim_eq
  · rename_i hvalue
    have hvalue : f.2.toList ≠ [] := fun hnil => hvalue (String.toList_eq_nil_iff.1 hnil)
    have hkey : f.1.toList ≠ [] := fun hnil => h.named (String.toList_eq_nil_iff.1 hnil)
    refine Text.Tight.trim_eq ⟨fun c hc => h.key c ?_, fun c hc => h.value.last c ?_⟩
    · rw [List.head?_append_of_ne_nil _ hkey] at hc
      exact List.mem_of_head? hc
    · rwa [List.getLast?_append_of_ne_nil _ (List.cons_ne_nil _ _),
        List.getLast?_cons_of_ne_nil hvalue] at hc

/-- **A line is read as its field.** -/
theorem keyValue_trim_lineOf (h : Lined f) : keyValue (Text.trim (lineOf f).toList) = f := by
  obtain ⟨k, v⟩ := f
  rw [trim_lineOf h]
  split
  · rename_i hempty
    obtain rfl : v = "" := hempty
    unfold keyValue
    rw [Text.splitFirst_eq_none_iff.2 h.key, String.ofList_toList]
  · unfold keyValue
    rw [toList_lineOf, Text.splitFirst_append h.key (by decide)]
    dsimp only
    rw [h.value.trim_eq, String.ofList_toList, String.ofList_toList]

theorem trim_lineOf_ne_nil (h : Lined f) : Text.trim (lineOf f).toList ≠ [] := by
  have hkey : f.1.toList ≠ [] := fun hnil => h.named (String.toList_eq_nil_iff.1 hnil)
  rw [trim_lineOf h]
  split
  · exact hkey
  · rw [toList_lineOf]
    exact List.append_ne_nil_of_left_ne_nil hkey _

/-! ## All lines -/

/-- A line that is not blank is put into the record that has been begun. -/
theorem recordsFrom_cons {line : List Char} {rest : List (List Char)} (h : line ≠ []) :
    recordsFrom current (line :: rest) =
      recordsFrom (Json.insert (keyValue line).1 (keyValue line).2 current) rest := by
  cases line with
  | nil => exact absurd rfl h
  | cons c cs => rfl

/-- **Lines of fields go on with the record** that has been begun. -/
theorem recordsFrom_lines (h : ∀ f ∈ fields, Lined f) :
    recordsFrom current (fields.map fun f => Text.trim (lineOf f).toList) =
      finished (fields.foldl (fun acc f => Json.insert f.1 f.2 acc) current) := by
  induction fields generalizing current with
  | nil => rfl
  | cons f fields ih =>
    rw [List.forall_mem_cons] at h
    rw [List.map_cons, recordsFrom_cons (trim_lineOf_ne_nil h.1), keyValue_trim_lineOf h.1,
      ih h.2, List.foldl_cons]

/-- A line feed in the line of a field is one of its key or of its value. -/
theorem newline_mem_lineOf_iff :
    '\n' ∈ (lineOf f).toList ↔ '\n' ∈ f.1.toList ∨ '\n' ∈ f.2.toList := by
  have hmark : '\n' ≠ ' ' := by decide
  rw [toList_lineOf, List.mem_append, List.mem_cons, or_iff_right hmark]

theorem newline_not_mem_lineOf (h : Lined f) : '\n' ∉ (lineOf f).toList := by
  rw [newline_mem_lineOf_iff, not_or]
  exact ⟨fun hkey => absurd (h.key '\n' hkey) (by decide), h.single⟩

/-- **The trimmed lines of written fields** are those of the fields. -/
theorem trimmed_lines (h : ∀ f ∈ fields, Lined f) :
    (Text.lines (Serializer.keyValueLines fields).toList).map Text.trim =
      fields.map fun f => Text.trim (lineOf f).toList := by
  have hlines : ∀ piece ∈ fields.map lineOf, piece ≠ "" ∧ '\n' ∉ piece.toList := by
    intro piece hpiece
    obtain ⟨f, hf, rfl⟩ := List.mem_map.1 hpiece
    refine ⟨fun hempty => trim_lineOf_ne_nil (h f hf) ?_, newline_not_mem_lineOf (h f hf)⟩
    rw [hempty]
    rfl
  exact (Text.lines_join_map_trim hlines).trans List.map_map

/-- **Written fields are one record**; no fields are none. -/
theorem records_written (h : ∀ f ∈ fields, Lined f) :
    records (Serializer.keyValueLines fields).toList =
      if fields = [] then [] else [Json.collect fields] := by
  split
  · rename_i hnil
    rw [hnil]
    rfl
  · rename_i hne
    unfold records
    rw [trimmed_lines h, recordsFrom_lines h]
    change finished (Json.collect fields) = _
    unfold finished
    rw [if_neg (by simpa using Json.collect_ne_nil hne)]

/-- **What is written as lines is read as a record.** The fields are put in
one after another: keys stand where they first occurred, each with the value
that it was given last. Without fields there is no record. -/
theorem keyValues_read (fields : Entries) (h : ∀ f ∈ fields, Lined f) :
    ∃ data, Serializer.keyValues.fields fields = .ok data ∧
      ((Json.collect fields).map Prod.fst = (fields.map Prod.fst).eraseDups ∧
        ∀ key, Json.find? key (Json.collect fields) = Json.find? key fields.reverse) ∧
      ∀ r : Response, r.body = data →
        (fields ≠ [] →
          keyValues.parse r = .ok (.value (objectOf (Json.collect fields))) ∧
          keyValuesList.parse r = .ok (.value (.array [objectOf (Json.collect fields)]))) ∧
        (fields = [] →
          keyValues.parse r = .ok .absent ∧ keyValuesList.parse r = .ok (.value (.array []))) := by
  refine ⟨_, rfl, ⟨Json.keys_collect fields, Json.find?_collect fields⟩, fun r hr => ?_⟩
  have hrecords : records r.characters = if fields = [] then [] else [Json.collect fields] := by
    unfold Response.characters
    rw [hr, Utf8.ofString, Utf8.lenient_encode, records_written h]
  unfold keyValues keyValuesList
  dsimp only
  rw [hrecords]
  refine ⟨fun hne => ?_, fun hnil => ?_⟩
  · rw [if_neg hne]
    exact ⟨rfl, rfl⟩
  · rw [if_pos hnil]
    exact ⟨rfl, rfl⟩

/-- Fields of which one is empty, and one is written twice; a carriage
return, a tab and a line separator stand inside the last value. -/
def disk : Entries := [("name", "old"), ("use", ""), ("name", "a\r\tb\u2028c")]

theorem keyValues_read_disk :
    (∀ f ∈ disk, Lined f) ∧ ∃ data, Serializer.keyValues.fields disk = .ok data ∧
      keyValues.parse ⟨200, data, .empty⟩ =
        .ok (.value (.object [("name", .string "a\r\tb\u2028c"), ("use", .string "")])) := by
  have hkey : ∀ f ∈ disk, f.1.toList.all (fun c => !Text.isBlank c) = true := by decide
  have hnamed : ∀ f ∈ disk, f.1 ≠ "" ∧ '\n' ∉ f.2.toList := by decide
  have hvalue : ∀ f ∈ disk, Text.Tight f.2.toList := by
    refine List.forall_mem_cons.2 ⟨?_, List.forall_mem_cons.2 ⟨?_, List.forall_mem_singleton.2 ?_⟩⟩
    · exact ⟨fun c hc => (by cases hc; decide), fun c hc => (by cases hc; decide)⟩
    · exact ⟨fun c hc => (by cases hc), fun c hc => (by cases hc)⟩
    · exact ⟨fun c hc => (by cases hc; decide), fun c hc => (by cases hc; decide)⟩
  have hdisk : ∀ f ∈ disk, Lined f := fun f hf =>
    ⟨(hnamed f hf).1, by simpa using hkey f hf, (hnamed f hf).2, hvalue f hf⟩
  obtain ⟨data, hdata, -, hread⟩ := keyValues_read disk hdisk
  have hparse := (hread ⟨200, data, .empty⟩ rfl).1 (List.cons_ne_nil _ _)
  exact ⟨hdisk, data, hdata, hparse.1⟩

end Parser

end RestCall
