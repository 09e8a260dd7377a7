import Mathlib.Data.List.Basic
import Mathlib.Data.List.DropRight
import Mathlib.Data.List.TakeWhile
import RestCall.Proofs.Text.Splitting
import RestCall.Text.Lines
/-!
# RestCall — lines that are trimmed

A text whose ends are not blank is its own trimmed form, and what is trimmed
has such ends, so trimming once is enough. A blank at the end does not outlive
trimming. So it does not matter to trimmed lines whether a line lost a carriage
return to its end: they are the trimmed pieces between the line feeds.
-/

namespace RestCall

namespace Text

variable {p : Char → Bool} {c : Char} {cs before rest : List Char}

/-! ## Trimming one end -/

theorem trimEndOf_eq_rdropWhile (p : Char → Bool) (cs : List Char) :
    trimEndOf p cs = cs.rdropWhile p := rfl

theorem trimEndOf_isPrefix (p : Char → Bool) (cs : List Char) : trimEndOf p cs <+: cs :=
  List.rdropWhile_prefix p cs

/-- **What an end loses** is of the class. -/
theorem exists_trimEndOf_append (p : Char → Bool) (cs : List Char) :
    ∃ tail, trimEndOf p cs ++ tail = cs ∧ ∀ c ∈ tail, p c = true := by
  refine ⟨cs.rtakeWhile p, ?_, fun c hc => List.mem_rtakeWhile_imp hc⟩
  rw [trimEndOf_eq_rdropWhile, List.rdropWhile_append_rtakeWhile]

theorem mem_dropWhile (h : c ∈ cs) (hp : p c = false) : c ∈ cs.dropWhile p := by
  rw [← List.takeWhile_append_dropWhile (p := p) (l := cs)] at h
  refine (List.mem_append.1 h).resolve_left fun htaken => ?_
  exact absurd (List.mem_takeWhile_imp htaken) (by rw [hp]; exact Bool.false_ne_true)

theorem not_of_head?_dropWhile (h : (cs.dropWhile p).head? = some c) : p c = false := by
  have hnot := List.head?_dropWhile_not p cs
  rw [h] at hnot
  exact hnot

theorem not_of_getLast?_trimEndOf (h : (trimEndOf p cs).getLast? = some c) : p c = false := by
  rw [trimEndOf, List.getLast?_reverse] at h
  exact not_of_head?_dropWhile h

theorem mem_trimEndOf (h : c ∈ cs) (hp : p c = false) : c ∈ trimEndOf p cs :=
  List.mem_reverse.2 (mem_dropWhile (List.mem_reverse.2 h) hp)

/-- **Trimming an end stops** at a character that is kept. -/
theorem trimEndOf_append_cons (h : p c = false) :
    trimEndOf p (before ++ c :: rest) = before ++ c :: trimEndOf p rest := by
  simp only [trimEndOf, List.reverse_append, List.reverse_cons, List.append_assoc,
    List.singleton_append, List.dropWhile_append]
  split
  · rename_i hnone
    rw [List.isEmpty_iff.1 hnone, List.dropWhile_cons_of_neg (by rw [h]; exact Bool.false_ne_true)]
    simp
  · simp

/-! ## Trimming -/

/-- Whether a text neither begins nor ends with a blank. -/
structure Tight (cs : List Char) : Prop where
  head : ∀ c, cs.head? = some c → isBlank c = false
  last : ∀ c, cs.getLast? = some c → isBlank c = false

theorem dropWhile_eq_self (h : ∀ c, cs.head? = some c → p c = false) :
    cs.dropWhile p = cs := by
  cases cs with
  | nil => rfl
  | cons c cs =>
    have hc : p c = false := h c rfl
    rw [List.dropWhile_cons_of_neg (by simp [hc])]

/-- **A tight text is trimmed.** -/
theorem Tight.trim_eq (h : Tight cs) : trim cs = cs := by
  unfold trim trimEnd trimEndOf trimStart
  rw [dropWhile_eq_self h.head, dropWhile_eq_self fun c hc => h.last c ?_, List.reverse_reverse]
  rwa [List.head?_reverse] at hc

theorem tight_of_not_blank (h : ∀ c ∈ cs, isBlank c = false) : Tight cs :=
  ⟨fun c hc => h c (List.mem_of_head? hc), fun c hc => h c (List.mem_of_getLast? hc)⟩

/-- Tight texts stay tight with a character between them that is not blank. -/
theorem Tight.append_cons (h : Tight cs) (hc : isBlank c = false) (hrest : Tight rest) :
    Tight (cs ++ c :: rest) := by
  constructor
  · intro d hd
    cases cs with
    | nil => exact Option.some.inj hd ▸ hc
    | cons first cs => exact h.head d hd
  · intro d hd
    rw [List.getLast?_append_of_ne_nil _ (List.cons_ne_nil c rest)] at hd
    cases rest with
    | nil => exact Option.some.inj hd ▸ hc
    | cons first rest => exact hrest.last d hd

theorem mem_of_mem_trim (h : c ∈ trim cs) : c ∈ cs :=
  (List.dropWhile_suffix isBlank).subset ((trimEndOf_isPrefix isBlank _).subset h)

/-- **What is trimmed is tight.** -/
theorem tight_trim (cs : List Char) : Tight (trim cs) := by
  constructor
  · intro c hc
    -- what the end leaves begins as the text did
    obtain ⟨rest, hrest⟩ := trimEndOf_isPrefix isBlank (trimStart cs)
    have hend : (trimEndOf isBlank (trimStart cs)).head? = some c := hc
    have hstart : (trimStart cs).head? = some c := by
      rw [← hrest, List.head?_append, hend, Option.some_or]
    exact not_of_head?_dropWhile hstart
  · intro c hc
    exact not_of_getLast?_trimEndOf hc

theorem trim_trim (cs : List Char) : trim (trim cs) = trim cs := (tight_trim cs).trim_eq

/-- **A blank in front** goes with trimming. -/
theorem trim_cons (h : isBlank c = true) : trim (c :: cs) = trim cs := by
  unfold trim trimStart
  rw [List.dropWhile_cons_of_pos h]

/-- **A blank at the end** goes with trimming. -/
theorem trim_concat (h : isBlank c = true) : trim (cs ++ [c]) = trim cs := by
  unfold trim trimStart
  rw [List.dropWhile_append]
  split
  · -- a text of blanks only
    rename_i hempty
    rw [List.isEmpty_iff.1 hempty, List.dropWhile_cons_of_pos h, List.dropWhile_nil]
  · unfold trimEnd trimEndOf
    rw [List.reverse_append, List.reverse_singleton, List.singleton_append,
      List.dropWhile_cons_of_pos h]

theorem trim_dropReturn (line : List Char) : trim (dropReturn line) = trim line := by
  unfold dropReturn
  split
  · rename_i rest hrest
    have hline : line = rest.reverse ++ ['\r'] := by
      rw [← List.reverse_reverse line, hrest, List.reverse_cons]
    rw [hline, trim_concat (by decide)]
  · rfl

/-! ## Lines -/

theorem map_trim_map_dropReturn (pieces : List (List Char)) :
    (pieces.map dropReturn).map trim = pieces.map trim := by
  rw [List.map_map]
  exact List.map_congr_left fun line _ => trim_dropReturn line

/-- **Trimmed lines** are the trimmed pieces between the line feeds, unless
nothing follows the last one. -/
theorem lines_map_trim (h : (splitOn '\n' cs).getLast? ≠ some []) :
    (lines cs).map trim = (splitOn '\n' cs).map trim := by
  unfold lines
  cases hlast : (splitOn '\n' cs).getLast? with
  | none =>
    rw [List.getLast?_eq_none_iff] at hlast
    rw [hlast]
    rfl
  | some last =>
    rw [hlast] at h
    obtain ⟨front, hpieces⟩ := List.getLast?_eq_some_iff.1 hlast
    cases last with
    | nil => exact absurd rfl h
    | cons c last =>
      simp only [hpieces, List.dropLast_concat, List.getLast?_concat, List.map_append,
        map_trim_map_dropReturn]

/-- When nothing follows the last line feed, there is a piece more than there
are lines, and it is empty. -/
theorem splitOn_map_trim (h : (splitOn '\n' cs).getLast? = some []) :
    (splitOn '\n' cs).map trim = (lines cs).map trim ++ [[]] := by
  obtain ⟨front, hpieces⟩ := List.getLast?_eq_some_iff.1 h
  have hlines : lines cs = front.map dropReturn := by
    simp only [lines, hpieces, List.dropLast_concat, List.getLast?_concat]
  rw [hpieces, hlines, map_trim_map_dropReturn, List.map_append]
  rfl

/-- The pieces of a text between its line feeds, trimmed. -/
def trimmedPieces (cs : List Char) : List (List Char) := (cs.splitOn '\n').map trim

theorem trimmedPieces_eq (cs : List Char) : trimmedPieces cs = (splitOn '\n' cs).map trim := by
  rw [splitOn_eq]
  rfl

/-- **Lines that are not blank** are pieces that are not blank: a piece behind
the last line feed that is no line is empty. -/
theorem filter_lines_map_trim (cs : List Char) :
    ((lines cs).map trim).filter (fun line => !line.isEmpty) =
      (trimmedPieces cs).filter fun line => !line.isEmpty := by
  rw [trimmedPieces_eq]
  by_cases hlast : (splitOn '\n' cs).getLast? = some []
  · rw [splitOn_map_trim hlast, List.filter_append]
    exact (List.append_nil _).symm
  · rw [lines_map_trim hlast]

/-- **A trimmed piece** has no blank at an end, and no line feed. -/
theorem of_mem_trimmedPieces {line : List Char} (h : line ∈ trimmedPieces cs) :
    Tight line ∧ '\n' ∉ line := by
  rw [trimmedPieces_eq] at h
  obtain ⟨piece, hpiece, rfl⟩ := List.mem_map.1 h
  exact ⟨tight_trim piece, fun hmem => not_mem_of_mem_splitOn hpiece (mem_of_mem_trim hmem)⟩

/-- **A blank line between texts** is an empty piece between theirs. -/
theorem trimmedPieces_append (cs ds : List Char) :
    trimmedPieces (cs ++ '\n' :: '\n' :: ds) = trimmedPieces cs ++ [] :: trimmedPieces ds := by
  rw [trimmedPieces_eq, trimmedPieces_eq, trimmedPieces_eq, splitOn_append_cons, splitOn_cons_self,
    List.map_append, List.map_cons]
  rfl

/-- **Lines that are joined** are found again, trimmed: each keeps to its line,
and the last one is there. -/
theorem lines_join_map_trim {pieces : List String}
    (h : ∀ piece ∈ pieces, piece ≠ "" ∧ '\n' ∉ piece.toList) :
    (lines (join "\n" pieces).toList).map trim = pieces.map fun piece => trim piece.toList := by
  by_cases hne : pieces = []
  · rw [hne]
    rfl
  · have hsplit : splitOn '\n' (join "\n" pieces).toList = pieces.map String.toList :=
      splitOn_join hne fun piece hpiece => (h piece hpiece).2
    have hlast : (splitOn '\n' (join "\n" pieces).toList).getLast? ≠ some [] := by
      rw [hsplit]
      intro hlast
      obtain ⟨piece, hpiece, hnil⟩ := List.mem_map.1 (List.mem_of_getLast? hlast)
      exact (h piece hpiece).1 (String.toList_eq_nil_iff.1 hnil)
    rw [lines_map_trim hlast, hsplit, List.map_map]
    rfl

end Text

end RestCall
