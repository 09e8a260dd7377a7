import RestCall.Json.Printer
import RestCall.Proofs.Text.Numeral
/-!
# RestCall — the compact text of a value is one line

Strings escape every control character of ASCII and the rest of a text
consists of marks, words and numerals, so no control character occurs in the
text of a value: it has no line feed, and no carriage return either. This is
shown for every part that is printed, numbers in any layout included
(`printable_chars`).
-/

namespace RestCall

namespace Text

variable {c : Char} {cs ds : List Char}

/-- A text without control characters of ASCII. -/
def Printable (cs : List Char) : Prop := ∀ c ∈ cs, 0x20 ≤ c.toNat

instance : Decidable (Printable cs) := List.decidableBAll _ cs

theorem printable_nil : Printable [] := fun _ h => absurd h List.not_mem_nil

@[simp] theorem printable_cons : Printable (c :: cs) ↔ 0x20 ≤ c.toNat ∧ Printable cs :=
  List.forall_mem_cons

@[simp] theorem printable_append : Printable (cs ++ ds) ↔ Printable cs ∧ Printable ds :=
  List.forall_mem_append

theorem Printable.mono (h : Printable cs) (hsub : ds ⊆ cs) : Printable ds :=
  fun c hc => h c (hsub hc)

theorem printable_replicate (n : Nat) (h : 0x20 ≤ c.toNat) : Printable (List.replicate n c) := by
  intro d hd
  rwa [List.eq_of_mem_replicate hd]

/-- **A printable text has no line feed.** -/
theorem Printable.newline_not_mem (h : Printable cs) : '\n' ∉ cs :=
  fun hmem => absurd (h '\n' hmem) (by decide)

theorem printable_decimal (n : Nat) : Printable (toString n).toList := fun _ hc =>
  Nat.le_trans (by decide) (Numeral.toNat_of_mem_toString hc).1

end Text

open Text

/-! ## Numbers -/

namespace Decimal

variable {digits : List Char}

theorem printable_positionally (h : Printable digits) (exponent : Int) (keepsPoint : Bool) :
    Printable (positionally digits exponent keepsPoint) := by
  unfold positionally
  split
  · have hpoint : Printable (if keepsPoint then ['.', '0'] else []) := by
      cases keepsPoint <;> decide
    exact printable_append.2 ⟨printable_append.2 ⟨h, printable_replicate _ (by decide)⟩, hpoint⟩
  · dsimp only
    split
    · exact printable_append.2 ⟨h.mono (List.take_subset ..),
        printable_cons.2 ⟨by decide, h.mono (List.drop_subset ..)⟩⟩
    · exact printable_append.2 ⟨printable_append.2 ⟨by decide, printable_replicate _ (by decide)⟩, h⟩

theorem printable_scientifically (h : Printable digits) (lead : Int) :
    Printable (scientifically digits lead) := by
  unfold scientifically
  refine printable_append.2 ⟨?_, printable_cons.2 ⟨by decide, printable_cons.2 ⟨?_, ?_⟩⟩⟩
  · split
    · exact printable_nil
    · exact h
    · rw [printable_cons] at h
      exact printable_cons.2 ⟨h.1, printable_cons.2 ⟨by decide, h.2⟩⟩
  · split <;> decide
  · exact printable_decimal _

theorem Number.printable_render (l : Layout) (n : Number) : Printable (n.render l) := by
  have hdigits : Printable (digitsOf n.digits) := printable_decimal _
  have hlaid : ∀ fits : Bool, Printable (if fits then positionally (digitsOf n.digits) n.exponent
      l.keepsPoint else scientifically (digitsOf n.digits)
        (n.exponent + (digitsOf n.digits).length - 1)) := by
    intro fits
    cases fits with
    | true => exact printable_positionally hdigits _ _
    | false => exact printable_scientifically hdigits _
  exact hlaid _

/-- **A double is printable** in every layout. -/
theorem printable_render (l : Layout) (x : Float) : Printable (render l x).toList := by
  unfold render
  split
  · decide
  · split <;> decide
  · rw [String.toList_ofList]
    split
    · exact printable_cons.2 ⟨by decide, Number.printable_render l _⟩
    · exact Number.printable_render l _

end Decimal

namespace Json

theorem printable_integer (n : Int) : Printable (toString n).toList := by
  cases n with
  | ofNat n => exact printable_decimal n
  | negSucc n =>
    have htext : toString (Int.negSucc n) = "-" ++ toString (n + 1) := rfl
    rw [htext, String.toList_append]
    exact printable_append.2 ⟨by decide, printable_decimal _⟩

theorem printable_number (n : Number) : Printable n.text.toList := by
  cases n with
  | integer n => exact printable_integer n
  | float x => exact Decimal.printable_render _ x

/-! ## Strings -/

theorem printable_escape (c : Char) : Printable (escape c) := by
  have hnumbered : ∀ n < 0x20, Printable (['\\', 'u'] ++ Numeral.hexPadded 4 n) := by decide
  unfold escape
  split <;> try decide
  split
  · rename_i h
    exact hnumbered _ h
  · rename_i h
    exact printable_cons.2 ⟨Nat.not_lt.1 h, printable_nil⟩

theorem printable_quote (s : String) : Printable (quote s) := by
  have hescaped : Printable (s.toList.flatMap escape) := by
    intro d hd
    obtain ⟨c, -, hc⟩ := List.mem_flatMap.1 hd
    exact printable_escape c d hc
  exact printable_append.2 ⟨printable_append.2 ⟨by decide, hescaped⟩, by decide⟩

/-! ## Values -/

mutual

/-- **The text of a value is printable.** -/
theorem printable_chars : ∀ v : Json, Printable v.chars
  | .null => by decide
  | .bool true => by decide
  | .bool false => by decide
  | .number n => printable_number n
  | .string s => printable_quote s
  | .array items => by
    rw [chars]
    exact printable_append.2
      ⟨printable_cons.2 ⟨by decide, printable_itemChars items⟩, by decide⟩
  | .object members => by
    rw [chars]
    exact printable_append.2
      ⟨printable_cons.2 ⟨by decide, printable_memberChars members⟩, by decide⟩

theorem printable_itemChars : ∀ items : List Json, Printable (itemChars items)
  | [] => printable_nil
  | [v] => printable_chars v
  | v :: next :: rest => by
    rw [itemChars]
    · exact printable_append.2 ⟨printable_chars v,
        printable_cons.2 ⟨by decide, printable_itemChars (next :: rest)⟩⟩
    · exact List.cons_ne_nil _ _

theorem printable_memberChars : ∀ members : List (String × Json), Printable (memberChars members)
  | [] => printable_nil
  | [(k, v)] => printable_append.2 ⟨printable_quote k,
      printable_cons.2 ⟨by decide, printable_chars v⟩⟩
  | (k, v) :: next :: rest => by
    rw [memberChars]
    · exact printable_append.2 ⟨printable_append.2 ⟨printable_quote k,
        printable_cons.2 ⟨by decide, printable_chars v⟩⟩,
        printable_cons.2 ⟨by decide, printable_memberChars (next :: rest)⟩⟩
    · exact List.cons_ne_nil _ _

end

end Json

end RestCall
