import Mathlib.Data.List.Forall2
import RestCall.Proofs.Json.Printable
import RestCall.Proofs.Response.Records
/-!
# RestCall — which fields keep to their lines

Fields are written a line each, without escapes, so a line feed inside a key
or a value begins a further line. The lines of a payload are those of its
fields, one field after another (`lines_fields`), and there is one more for
every line feed. So every field has a line of its own exactly when no key and
no value holds a line feed (`lineEach_fields_iff`). Of the members of an
object those that are null have no line. What the others are written as holds
a line feed only where a string does that is the value itself or an item of
it: numbers, words and the text of objects inside have none
(`newline_mem_lineValue?_iff`). The two are put together in
`keyValues_lineEach_iff`; and a value that does hold a line feed can pass for
another field (`keyValues_forged`).
-/

namespace RestCall

namespace Serializer

open RestCall.Parser (lineOf toList_lineOf newline_mem_lineOf_iff)

variable {fields : Entries} {members : List (String × Json)} {a : Argument}

/-- The lines of a payload: its text, cut at line feeds. -/
def lines (data : Bytes) : List (List Char) := Text.splitOn '\n' (Utf8.lenient data)

/-- **Every key has a line of its own**: there are as many lines as keys, and
each begins with its key and a blank. -/
def LineEach (keys : List String) (lines : List (List Char)) : Prop :=
  List.Forall₂ (fun key line => key.toList ++ [' '] <+: line) keys lines

/-! ## Fields -/

/-- What a field holds: the characters of its key, then those of its value. -/
def held (f : String × String) : List Char := f.1.toList ++ f.2.toList

theorem count_lineOf (f : String × String) :
    (lineOf f).toList.count '\n' = (held f).count '\n' := by
  rw [toList_lineOf, List.count_append, List.count_cons_of_ne (by decide), held,
    List.count_append]

theorem count_held_eq_zero_iff : (fields.flatMap held).count '\n' = 0 ↔
    ∀ f ∈ fields, '\n' ∉ f.1.toList ∧ '\n' ∉ f.2.toList := by
  simp only [List.count_eq_zero, List.mem_flatMap, held, List.mem_append, not_exists, not_and,
    not_or]

/-- **The lines of fields** are those of one field after another. -/
theorem lines_fields (hne : fields ≠ []) : lines (Utf8.ofString (keyValueLines fields)) =
    fields.flatMap fun f => Text.splitOn '\n' (lineOf f).toList := by
  have hpieces : fields.map lineOf ≠ [] := by simpa using hne
  have hsplit : Text.splitOn '\n' (keyValueLines fields).toList =
      (fields.map lineOf).flatMap fun line => Text.splitOn '\n' line.toList :=
    Text.splitOn_join_flatMap hpieces
  rw [lines, Utf8.ofString, Utf8.lenient_encode, hsplit, List.flatMap_map]

/-- There is a line for every field, and one more for every line feed. -/
theorem length_lines_fields (hne : fields ≠ []) :
    (lines (Utf8.ofString (keyValueLines fields))).length =
      fields.length + (fields.flatMap held).count '\n' := by
  have hcount : ∀ fields : Entries,
      (fields.flatMap fun f => Text.splitOn '\n' (lineOf f).toList).length =
        fields.length + (fields.flatMap held).count '\n' := by
    intro fields
    induction fields with
    | nil => rfl
    | cons f fields ih =>
      rw [List.flatMap_cons, List.length_append, ih, Text.length_splitOn, count_lineOf,
        List.length_cons, List.flatMap_cons, List.count_append]
      omega
  rw [lines_fields hne, hcount]

/-- **Every field has a line of its own** when no key and no value holds a line
feed, and only then. -/
theorem lineEach_fields_iff (hne : fields ≠ []) :
    LineEach (fields.map Prod.fst) (lines (Utf8.ofString (keyValueLines fields))) ↔
      ∀ f ∈ fields, '\n' ∉ f.1.toList ∧ '\n' ∉ f.2.toList := by
  constructor
  · intro h
    have hlength := List.Forall₂.length_eq h
    rw [List.length_map, length_lines_fields hne] at hlength
    exact count_held_eq_zero_iff.1 (by omega)
  · intro h
    have hsingle : ∀ f ∈ fields, Text.splitOn '\n' (lineOf f).toList = [(lineOf f).toList] := by
      intro f hf
      refine Text.splitOn_of_not_mem ?_
      rw [newline_mem_lineOf_iff, not_or]
      exact h f hf
    have hlines : lines (Utf8.ofString (keyValueLines fields)) =
        fields.map fun f => (lineOf f).toList := by
      rw [lines_fields hne, List.flatMap_def, List.map_congr_left hsingle, ← List.flatMap_def,
        List.map_eq_flatMap]
    rw [hlines, LineEach, List.forall₂_map_left_iff, List.forall₂_map_right_iff, List.forall₂_same]
    intro f _
    rw [toList_lineOf]
    exact ⟨f.2.toList, by rw [List.append_assoc, List.singleton_append]⟩

/-! ## Values -/

/-- **A value that breaks its line**: a string that holds a line feed, or a list
one of whose items does so. -/
inductive Breaks : Json → Prop
  | string {s : String} (h : '\n' ∈ s.toList) : Breaks (.string s)
  | item {v : Json} {items : List Json} (hv : v ∈ items) (h : Breaks v) : Breaks (.array items)

theorem lineValue?_eq_none_iff {v : Json} : lineValue? v = none ↔ v.isNull = true := by
  cases v <;> simp [lineValue?, Json.isNull]

theorem newline_not_mem_text (v : Json) : '\n' ∉ v.text.toList := by
  rw [Json.text, String.toList_ofList]
  exact (Json.printable_chars v).newline_not_mem

mutual

/-- **Line feeds of a value** are those of the strings that it consists of. -/
theorem newline_mem_lineValue?_iff : ∀ {v : Json} {text : String}, lineValue? v = some text →
    ('\n' ∈ text.toList ↔ Breaks v)
  | .null, _, h => by cases h
  | .string s, _, h => by
    cases h
    refine ⟨.string, fun hbreaks => ?_⟩
    cases hbreaks with
    | string hs => exact hs
  | .array items, _, h => by
    cases h
    rw [Text.mem_toList_join_iff (by decide), newline_mem_lineValues_iff items]
    constructor
    · rintro ⟨v, hv, hbreaks⟩
      exact .item hv hbreaks
    · intro hbreaks
      cases hbreaks with
      | item hv hbreaks => exact ⟨_, hv, hbreaks⟩
  | .bool b, _, h => by
    cases h
    exact iff_of_false (newline_not_mem_text _) fun hbreaks => by cases hbreaks
  | .number n, _, h => by
    cases h
    exact iff_of_false (newline_not_mem_text _) fun hbreaks => by cases hbreaks
  | .object members, _, h => by
    cases h
    exact iff_of_false (newline_not_mem_text _) fun hbreaks => by cases hbreaks

theorem newline_mem_lineValues_iff : ∀ items : List Json,
    (∃ text ∈ lineValues items, '\n' ∈ text.toList) ↔ ∃ v ∈ items, Breaks v
  | [] => iff_of_false (fun ⟨_, h, _⟩ => List.not_mem_nil h) fun ⟨_, h, _⟩ => List.not_mem_nil h
  | v :: rest => by
    have hrest := newline_mem_lineValues_iff rest
    cases hv : lineValue? v with
    | none =>
      -- what is null has no text, and breaks no line
      have hnull : ¬ Breaks v := by
        intro hbreaks
        cases hbreaks <;> cases hv
      rw [lineValues, hv]
      simp only [List.mem_cons, exists_eq_or_imp, hnull, false_or]
      exact hrest
    | some text =>
      have hfirst := newline_mem_lineValue?_iff hv
      rw [lineValues, hv]
      simp only [List.mem_cons, exists_eq_or_imp, hfirst, hrest]

end

/-! ## Objects -/

/-- The members that have a line: those that are not null. -/
def given (members : List (String × Json)) : List (String × Json) :=
  members.filter fun m => !m.2.isNull

/-- **The fields of an object** are its members that are not null, in order. -/
theorem keys_lineFields (members : List (String × Json)) :
    (lineFields members).map Prod.fst = (given members).map Prod.fst := by
  induction members with
  | nil => rfl
  | cons m rest ih =>
    obtain ⟨key, v⟩ := m
    cases hv : lineValue? v with
    | none =>
      have hnull : v.isNull = true := lineValue?_eq_none_iff.1 hv
      have hskip : lineFields ((key, v) :: rest) = lineFields rest := by simp [lineFields, hv]
      rw [hskip, ih, given, given, List.filter_cons_of_neg (by simp [hnull])]
    | some text =>
      have hgiven : v.isNull = false := by
        rw [← Bool.not_eq_true, ← lineValue?_eq_none_iff, hv]
        exact Option.some_ne_none text
      have hkeep : lineFields ((key, v) :: rest) = (key, text) :: lineFields rest := by
        simp [lineFields, hv]
      rw [hkeep, List.map_cons, ih, given, given, List.filter_cons_of_pos (by simp [hgiven]),
        List.map_cons]

/-- A field of an object is one of its members with the text of its value. -/
theorem mem_lineFields_iff {f : String × String} :
    f ∈ lineFields members ↔ ∃ v, (f.1, v) ∈ members ∧ lineValue? v = some f.2 := by
  obtain ⟨key, text⟩ := f
  simp only [lineFields, List.mem_filterMap, Option.map_eq_some_iff, Prod.mk.injEq]
  constructor
  · rintro ⟨⟨key, v⟩, hm, text, htext, rfl, rfl⟩
    exact ⟨v, hm, htext⟩
  · rintro ⟨v, hm, htext⟩
    exact ⟨(key, v), hm, text, htext, rfl, rfl⟩

theorem lineFields_ne_nil (h : given members ≠ []) : lineFields members ≠ [] := by
  intro hnil
  have hkeys := keys_lineFields members
  rw [hnil, List.map_nil] at hkeys
  exact h (List.map_eq_nil_iff.1 hkeys.symm)

theorem forall_lineFields_iff :
    (∀ f ∈ lineFields members, '\n' ∉ f.1.toList ∧ '\n' ∉ f.2.toList) ↔
      ∀ m ∈ given members, '\n' ∉ m.1.toList ∧ ¬ Breaks m.2 := by
  constructor
  · intro h m hm
    obtain ⟨hmem, hgiven⟩ := List.mem_filter.1 hm
    obtain ⟨text, htext⟩ : ∃ text, lineValue? m.2 = some text := by
      rw [← Option.ne_none_iff_exists', ne_eq, lineValue?_eq_none_iff]
      simpa using hgiven
    have hfield := h (m.1, text) (mem_lineFields_iff.2 ⟨m.2, hmem, htext⟩)
    exact ⟨hfield.1, fun hbreaks => hfield.2 ((newline_mem_lineValue?_iff htext).2 hbreaks)⟩
  · intro h f hf
    obtain ⟨v, hmem, htext⟩ := mem_lineFields_iff.1 hf
    have hgiven : (f.1, v) ∈ given members := by
      refine List.mem_filter.2 ⟨hmem, ?_⟩
      have hsome : v.isNull ≠ true := by
        rw [ne_eq, ← lineValue?_eq_none_iff, htext]
        exact Option.some_ne_none f.2
      simpa using hsome
    obtain ⟨hkey, hvalue⟩ := h (f.1, v) hgiven
    exact ⟨hkey, fun hbreaks => hvalue ((newline_mem_lineValue?_iff htext).1 hbreaks)⟩

/-! ## Lines -/

/-- **When a field cannot pass for another.** Fields are always taken, and each
has a line of its own exactly when no key and no value holds a line feed. Of
an argument that is an object the members that are not null are the fields;
each has a line of its own exactly when no key holds a line feed and no value
is a string that does, or a list with such a string in it. An argument that is
no object is refused with a binding fault. -/
theorem keyValues_lineEach_iff (fields : Entries) (a : Argument) :
    (fields ≠ [] → ∃ data, keyValues.fields fields = .ok data ∧
      (LineEach (fields.map Prod.fst) (lines data) ↔
        ∀ f ∈ fields, '\n' ∉ f.1.toList ∧ '\n' ∉ f.2.toList)) ∧
    (∀ members, a.toJson = .object members → given members ≠ [] →
      ∃ data, keyValues.argument a = .ok data ∧
        (LineEach ((given members).map Prod.fst) (lines data) ↔
          ∀ m ∈ given members, '\n' ∉ m.1.toList ∧ ¬ Breaks m.2)) ∧
    ((∀ members, a.toJson ≠ .object members) →
      ∃ message context, keyValues.argument a = .error (.binding message context)) := by
  refine ⟨fun hne => ⟨_, rfl, lineEach_fields_iff hne⟩, ?_, ?_⟩
  · intro members hobject hgiven
    refine ⟨Utf8.ofString (keyValueLines (lineFields members)), ?_, ?_⟩
    · rw [keyValues]
      dsimp only
      rw [hobject]
    · rw [← keys_lineFields, lineEach_fields_iff (lineFields_ne_nil hgiven), forall_lineFields_iff]
  · intro hother
    rw [keyValues]
    dsimp only
    split
    · rename_i members hobject
      exact absurd hobject (hother members)
    · exact ⟨_, _, rfl⟩

/-- An object with a list inside a list, a member that is null, and a line feed
in an object inside. -/
def drive : List (String × Json) :=
  [("name", .string "foo"), ("readers", .null),
    ("use", .array [.string "a", .null, .array [.string "b", .bool true]]),
    ("meta", .object [("note", .string "x\ny")])]

theorem keyValues_lineEach_iff_drive :
    (∃ data, keyValues.fields Parser.disk = .ok data ∧
      LineEach ["name", "use", "name"] (lines data)) ∧
    (given drive ≠ [] ∧ (∀ m ∈ given drive, '\n' ∉ m.1.toList ∧ ¬ Breaks m.2) ∧
      ∃ data, keyValues.argument (.json (.object drive)) = .ok data ∧
        data = Utf8.ofString
          "name foo\nuse a b true\nmeta \x7b\"note\":\"x\\ny\"\x7d" ∧
        LineEach ["name", "use", "meta"] (lines data)) ∧
    ∃ message context, keyValues.argument (.json (.string "name foo")) =
      .error (.binding message context) := by
  obtain ⟨hfields, hobject, -⟩ := keyValues_lineEach_iff Parser.disk (.json (.object drive))
  have hrefused := (keyValues_lineEach_iff [] (.json (.string "name foo"))).2.2
  obtain ⟨data, hdata, hiff⟩ := hfields (List.cons_ne_nil _ _)
  have hgiven : given drive ≠ [] := List.cons_ne_nil _ _
  have hwhole : ∀ m ∈ given drive, '\n' ∉ m.1.toList ∧ ¬ Breaks m.2 :=
    forall_lineFields_iff.1 (by decide)
  obtain ⟨data', hdata', hiff'⟩ := hobject drive rfl hgiven
  exact ⟨⟨data, hdata, hiff.2 (by decide)⟩,
    ⟨hgiven, hwhole, data', hdata', (Except.ok.inj hdata').symm, hiff'.2 hwhole⟩,
    hrefused fun members h => by cases h⟩

/-- **A value with a line feed passes for two fields.** It is taken, and what is
sent cannot be told from what is sent for the two; a string of a list does the
same. -/
theorem keyValues_forged :
    ∃ data, keyValues.fields [("name", "a\nsize 9")] = .ok data ∧
      keyValues.fields [("name", "a"), ("size", "9")] = .ok data ∧
      keyValues.argument (.json (.object [("name", .array [.string "a\nsize", .string "9"])])) =
        .ok data ∧
      ¬ LineEach ["name"] (lines data) ∧ LineEach ["name", "size"] (lines data) := by
  have hone : ([("name", "a\nsize 9")] : Entries) ≠ [] := List.cons_ne_nil _ _
  have htwo : ([("name", "a"), ("size", "9")] : Entries) ≠ [] := List.cons_ne_nil _ _
  refine ⟨_, rfl, rfl, rfl, fun heach => ?_, ?_⟩
  · exact absurd ((lineEach_fields_iff hone).1 heach) (by decide)
  · exact (lineEach_fields_iff htwo).2 (by decide)

end Serializer

end RestCall
