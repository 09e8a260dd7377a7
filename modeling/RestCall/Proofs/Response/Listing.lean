import RestCall.Proofs.Collection.Distinct
import RestCall.Proofs.Text.Lines
import RestCall.Proofs.Text.Utf8
import RestCall.Response.Parser
/-!
# RestCall — bodies that list one item a line

Of the pieces of a text between its line feeds those count that are not blank,
trimmed, and each where it first occurs. Such a list is in a normal form,
`Listed`: its items differ, keep to a line each and have no blank at an end.
Written out again, a list in that form is its own lines, carriage returns inside
them and all, so reading it changes nothing (`filledLines_join`), and the list
that any body is read as is one that is read back (`splitNewlines_listed`).
-/

namespace RestCall

open Collection (FirstsOf distinct)

namespace Parser

/-- **The normal form of a list of lines.** -/
structure Listed (items : List String) : Prop where
  distinct : items.Nodup
  filled : ∀ item ∈ items, item ≠ ""
  tight : ∀ item ∈ items, Text.Tight item.toList
  single : ∀ item ∈ items, '\n' ∉ item.toList

/-- The pieces of a text between its line feeds that are not blank, trimmed. -/
def filledLines (cs : List Char) : List String :=
  ((Text.trimmedPieces cs).filter fun line => !line.isEmpty).map String.ofList

/-! ## Lines -/

theorem ofList_injective : Function.Injective String.ofList := fun _ _ => String.ofList_inj.1

/-- The lines of a body, without repetitions. -/
theorem map_distinctLines (cs : List Char) :
    (distinctLines cs).map String.ofList = distinct (filledLines cs) := by
  rw [filledLines, ← Text.filter_lines_map_trim]
  exact (Collection.distinct_map ofList_injective _).symm

theorem mem_filledLines_iff {cs : List Char} {item : String} :
    item ∈ filledLines cs ↔ item ≠ "" ∧ item.toList ∈ Text.trimmedPieces cs := by
  constructor
  · intro h
    obtain ⟨line, hline, rfl⟩ := List.mem_map.1 h
    obtain ⟨hmem, hfilled⟩ := List.mem_filter.1 hline
    rw [String.toList_ofList]
    exact ⟨by simpa using hfilled, hmem⟩
  · rintro ⟨hne, hmem⟩
    refine List.mem_map.2 ⟨item.toList, List.mem_filter.2 ⟨hmem, ?_⟩, String.ofList_toList⟩
    simpa using hne

/-- **What a body is read as** is in normal form. -/
theorem listed_distinct_filledLines (cs : List Char) : Listed (distinct (filledLines cs)) := by
  have hline : ∀ item ∈ distinct (filledLines cs),
      item ≠ "" ∧ Text.Tight item.toList ∧ '\n' ∉ item.toList := by
    intro item hitem
    obtain ⟨hne, hpiece⟩ := mem_filledLines_iff.1 (Collection.mem_distinct_iff.1 hitem)
    exact ⟨hne, Text.of_mem_trimmedPieces hpiece⟩
  exact ⟨(Collection.firstsOf_distinct _).nodup, fun item hitem => (hline item hitem).1,
    fun item hitem => (hline item hitem).2.1, fun item hitem => (hline item hitem).2.2⟩

/-- **A list in normal form** is the lines that it is written as. -/
theorem filledLines_join {items : List String} (h : Listed items) :
    filledLines (Text.join "\n" items).toList = items := by
  have hlines : (Text.lines (Text.join "\n" items).toList).map Text.trim =
      items.map String.toList := by
    rw [Text.lines_join_map_trim fun item hitem => ⟨h.filled item hitem, h.single item hitem⟩]
    exact List.map_congr_left fun item hitem => (h.tight item hitem).trim_eq
  have hfilled : ∀ line ∈ items.map String.toList, (!line.isEmpty) = true := by
    intro line hline
    obtain ⟨item, hitem, rfl⟩ := List.mem_map.1 hline
    simpa using h.filled item hitem
  rw [filledLines, ← Text.filter_lines_map_trim, hlines, List.filter_eq_self.2 hfilled,
    List.map_map]
  exact List.map_id'' (fun _ => String.ofList_toList) items

/-! ## Bodies -/

theorem parse_splitNewlines (r : Response) : splitNewlines.parse r =
    .ok (.value (.array ((distinct (filledLines (Utf8.lenient r.body))).map .string))) := by
  rw [← map_distinctLines, List.map_map]
  rfl

/-- **Bodies are read as lists in normal form.** The items of the list differ,
none is empty or has a blank at an end, and they are the trimmed lines of the
text that are not blank, in the order in which these first occur. The text is
the one that the body holds, or that stands for it when it is ill-formed. Joined
by line feeds, the items are read as the same list. -/
theorem splitNewlines_listed (r : Response) : ∃ items : List String,
    splitNewlines.parse r = .ok (.value (.array (items.map .string))) ∧
      Listed items ∧ FirstsOf (filledLines (Utf8.lenient r.body)) items ∧
      (∀ text : String, r.body = Utf8.ofString text → FirstsOf (filledLines text.toList) items) ∧
      ∀ r' : Response,
        splitNewlines.parse { r' with body := Utf8.ofString (Text.join "\n" items) } =
          .ok (.value (.array (items.map .string))) := by
  have hlisted := listed_distinct_filledLines (Utf8.lenient r.body)
  have hfirsts := Collection.firstsOf_distinct (filledLines (Utf8.lenient r.body))
  refine ⟨_, parse_splitNewlines r, hlisted, hfirsts, fun text htext => ?_, fun r' => ?_⟩
  · rwa [htext, Utf8.ofString, Utf8.lenient_encode] at hfirsts ⊢
  · rw [parse_splitNewlines, Utf8.ofString, Utf8.lenient_encode, filledLines_join hlisted,
      Collection.distinct_of_nodup hlisted.distinct]

/-- A body with blank lines, and a line that comes again. A carriage return
stands inside a line, and one at the end of another. -/
def uuids : String := " b\rc \n\r\nuuid1\t\r\n\nb\rc\nuuid2"

theorem splitNewlines_listed_uuids :
    splitNewlines.parse ⟨200, Utf8.ofString uuids, .empty⟩ =
      .ok (.value (.array [.string "b\rc", .string "uuid1", .string "uuid2"])) := by
  obtain ⟨items, hparse, -, -, htext, -⟩ :=
    splitNewlines_listed ⟨200, Utf8.ofString uuids, .empty⟩
  have hlines : distinct (filledLines uuids.toList) = ["b\rc", "uuid1", "uuid2"] := by decide
  have hitems : items = ["b\rc", "uuid1", "uuid2"] :=
    ((htext uuids rfl).unique (Collection.firstsOf_distinct _)).trans hlines
  rw [hparse, hitems]
  rfl

end Parser

end RestCall
