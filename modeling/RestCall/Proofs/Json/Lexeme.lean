import RestCall.Json.Lexeme
import RestCall.Json.Printer
import RestCall.Proofs.Json.Passage
import RestCall.Proofs.Text.Numeral
import RestCall.Proofs.Text.Utf8
/-!
# RestCall — words, strings and numbers read back

The parts of a text that hold no others are read back from what is written
for them. A character of a string is written as itself or escaped by a letter
or by its number, and read back byte by byte (`leads_stringBytes`); a natural
number of 64 bits is written in decimal and read up to the first byte that is
no part of a number (`leads_number`), so it has to be followed by what may
follow a value.
-/

namespace RestCall

namespace Json

namespace Reader

variable {q : Spot} {rest read bytes value all : Bytes} {depth size count n : Nat}
variable {c : Char} {cs : List Char}

/-! ## Words -/

theorem leads_word (h : ∀ c ∈ cs, c.toNat < 0x80) :
    Leads (word cs) ⟨Utf8.encode cs ++ rest, depth, size⟩ () ⟨rest, depth, size⟩ := by
  induction cs with
  | nil => exact leads_pure _ _
  | cons c cs ih =>
    rw [List.forall_mem_cons] at h
    have hsame : ((UInt8.ofNat c.toNat).toNat == c.toNat) = true := by
      rw [Utf8.toNat_ofNat (by omega)]
      exact beq_self_eq_true _
    rw [Utf8.encode_cons_of_ascii h.1, List.cons_append, word]
    refine leads_take.bind ?_
    dsimp only
    rw [if_pos hsame]
    exact ih h.2

/-! ## Strings -/

/-- A byte that stands for itself inside a string. -/
def IsPlain (b : UInt8) : Prop := b ≠ 0x22 ∧ b ≠ 0x5C ∧ ¬ b < 0x20

/-- **How a character is written** inside a string: escaped by a letter,
escaped by its number, or as itself. -/
inductive Escaped (c : Char) : List Char → Prop
  | letter (l : Char) (hc : c.toNat < 0x80) (hl : l.toNat < 0x80)
      (h : letterEscape? (UInt8.ofNat l.toNat) = some (UInt8.ofNat c.toNat)) : Escaped c ['\\', l]
  | numbered (hc : c.toNat < 0x20) : Escaped c ('\\' :: 'u' :: Numeral.hexPadded 4 c.toNat)
  | plain (hcontrol : 0x20 ≤ c.toNat) (hquote : c.toNat ≠ 0x22) (hbackslash : c.toNat ≠ 0x5C) :
    Escaped c [c]

theorem escaped_escape (c : Char) : Escaped c (escape c) := by
  unfold escape
  split
  · rename_i h
    exact .letter 'b' (by omega) (by decide) (by rw [h]; decide)
  · rename_i h
    exact .letter 't' (by omega) (by decide) (by rw [h]; decide)
  · rename_i h
    exact .letter 'n' (by omega) (by decide) (by rw [h]; decide)
  · rename_i h
    exact .letter 'f' (by omega) (by decide) (by rw [h]; decide)
  · rename_i h
    exact .letter 'r' (by omega) (by decide) (by rw [h]; decide)
  · rename_i h
    exact .letter '\x22' (by omega) (by decide) (by rw [h]; decide)
  · rename_i h
    exact .letter '\\' (by omega) (by decide) (by rw [h]; decide)
  · rename_i hquote hbackslash
    split
    · rename_i h
      exact .numbered h
    · rename_i h
      exact .plain (Nat.not_lt.1 h) hquote hbackslash

theorem isPlain_of_mem_utf8EncodeChar {b : UInt8} (hcontrol : 0x20 ≤ c.toNat)
    (hquote : c.toNat ≠ 0x22) (hbackslash : c.toNat ≠ 0x5C) (hb : b ∈ String.utf8EncodeChar c) :
    IsPlain b := by
  have hnat : 0x20 ≤ b.toNat ∧ b.toNat ≠ 0x22 ∧ b.toNat ≠ 0x5C := by
    rcases Nat.lt_or_ge c.toNat 0x80 with hascii | hother
    · rw [Utf8.utf8EncodeChar_of_ascii hascii, List.mem_singleton] at hb
      rw [hb, Utf8.toNat_ofNat (by omega)]
      exact ⟨hcontrol, hquote, hbackslash⟩
    · have hle := Utf8.le_of_mem_utf8EncodeChar hother hb
      omega
  refine ⟨fun h => hnat.2.1 ?_, fun h => hnat.2.2 ?_, fun h => ?_⟩
  · rw [h]; rfl
  · rw [h]; rfl
  · have hlt := UInt8.lt_iff_toNat_lt.1 h
    have hspace : (0x20 : UInt8).toNat = 0x20 := rfl
    omega

/-- **Plain bytes are taken over** one by one. -/
theorem leads_stringBytes_plain (hplain : ∀ b ∈ bytes, IsPlain b)
    (h : Leads (stringBytes count (bytes.reverse ++ read)) ⟨rest, depth, size⟩ value q) :
    Leads (stringBytes (bytes.length + count) read) ⟨bytes ++ rest, depth, size⟩ value q := by
  induction bytes generalizing read with
  | nil => simpa using h
  | cons b bytes ih =>
    rw [List.forall_mem_cons] at hplain
    obtain ⟨hquote, hbackslash, hcontrol⟩ := hplain.1
    have hcount : (b :: bytes).length + count = bytes.length + count + 1 := by
      rw [List.length_cons]
      omega
    rw [hcount, stringBytes]
    refine (leads_peek _).bind (leads_advance.bind ?_)
    rw [if_neg (by simpa using hquote), if_neg (by simpa using hbackslash), if_neg hcontrol]
    refine ih hplain.2 ?_
    rwa [List.reverse_cons, List.append_assoc] at h

theorem fourDigits?_hexPadded : ∀ n < 0x20,
    (Utf8.encode (Numeral.hexPadded 4 n)).length = 4 ∧
      fourDigits? (Utf8.encode (Numeral.hexPadded 4 n)) = some n := by decide

theorem leads_hexEscape (hlength : bytes.length = 4) (hn : fourDigits? bytes = some n) :
    Leads hexEscape ⟨bytes ++ rest, depth, size⟩ n ⟨rest, depth, size⟩ := by
  refine leads_get fun c hc => ?_
  have htake : c.rest.take 4 = bytes := by
    rw [(Cursor.spot_eq_iff.1 hc).1, ← hlength, List.take_left]
  dsimp only
  rw [htake]
  refine (leads_skip hc).bind ?_
  rw [if_neg (by omega), hn]
  exact leads_pure _ _

/-- **A control character is read** from its number. -/
theorem leads_numberedEscape (h : c.toNat < 0x20) :
    Leads numberedEscape ⟨Utf8.encode (Numeral.hexPadded 4 c.toNat) ++ rest, depth, size⟩
      (String.utf8EncodeChar c) ⟨rest, depth, size⟩ := by
  obtain ⟨hlength, hdigits⟩ := fourDigits?_hexPadded c.toNat h
  refine (leads_hexEscape hlength hdigits).bind ?_
  have hlow : ¬ (decide (0xDC00 ≤ c.toNat) && decide (c.toNat ≤ 0xDFFF)) = true := by
    simp
    omega
  have hother : (decide (c.toNat < 0xD800) || decide (0xDBFF < c.toNat)) = true := by
    simp
    omega
  rw [if_neg hlow, if_pos hother, Char.ofNat_toNat]
  exact leads_pure _ _

theorem leads_escaped_letter {b : UInt8} (h : letterEscape? b = some (UInt8.ofNat n)) :
    Leads escaped ⟨b :: rest, depth, size⟩ [UInt8.ofNat n] ⟨rest, depth, size⟩ := by
  refine leads_take.bind ?_
  dsimp only
  rw [h]
  exact leads_pure _ _

/-- **What stands escaped** takes one step of its own. -/
theorem leads_stringBytes_escaped
    (hescaped : Leads escaped ⟨bytes, depth, size⟩ value ⟨rest, depth, size⟩)
    (h : Leads (stringBytes count (value.reverse ++ read)) ⟨rest, depth, size⟩ all q) :
    Leads (stringBytes (count + 1) read) ⟨0x5C :: bytes, depth, size⟩ all q := by
  rw [stringBytes]
  exact (leads_peek _).bind (leads_advance.bind (hescaped.bind h))

/-- **A character is read** from what is written for it, one step for each of
its bytes at most. -/
theorem leads_stringBytes_char (hcount : (Utf8.encode (escape c)).length ≤ count)
    (h : ∀ left, count ≤ (Utf8.encode (escape c)).length + left →
      Leads (stringBytes left ((String.utf8EncodeChar c).reverse ++ read))
        ⟨rest, depth, size⟩ value q) :
    Leads (stringBytes count read) ⟨Utf8.encode (escape c) ++ rest, depth, size⟩ value q := by
  have hescaped := escaped_escape c
  generalize escape c = text at *
  cases hescaped with
  | letter l hc hl hletter =>
    have htext : Utf8.encode ['\\', l] = [0x5C, UInt8.ofNat l.toNat] := by
      rw [Utf8.encode_cons_of_ascii (by decide), Utf8.encode_cons_of_ascii hl]
      rfl
    rw [htext] at hcount h ⊢
    obtain ⟨left, rfl⟩ := Nat.exists_eq_add_of_le' (Nat.le_trans (by decide : 1 ≤ 2) hcount)
    have hleft := h left (by rw [List.length_cons]; omega)
    rw [Utf8.utf8EncodeChar_of_ascii hc] at hleft
    exact leads_stringBytes_escaped (leads_escaped_letter hletter) hleft
  | numbered hc =>
    have htext : Utf8.encode ('\\' :: 'u' :: Numeral.hexPadded 4 c.toNat) =
        0x5C :: 0x75 :: Utf8.encode (Numeral.hexPadded 4 c.toNat) := by
      rw [Utf8.encode_cons_of_ascii (by decide), Utf8.encode_cons_of_ascii (by decide)]
      rfl
    rw [htext] at hcount h ⊢
    obtain ⟨left, rfl⟩ := Nat.exists_eq_add_of_le' (Nat.le_trans (Nat.le_add_left 1 _) hcount)
    have hleft := h left (by simp only [List.length_cons]; omega)
    exact leads_stringBytes_escaped (leads_take.bind (leads_numberedEscape hc)) hleft
  | plain hcontrol hquote hbackslash =>
    have htext : Utf8.encode [c] = String.utf8EncodeChar c := by simp [Utf8.encode]
    rw [htext] at hcount h ⊢
    -- no byte of a plain character is mistaken for the end, an escape or a control character
    obtain ⟨left, rfl⟩ := Nat.exists_eq_add_of_le hcount
    exact leads_stringBytes_plain
      (fun b => isPlain_of_mem_utf8EncodeChar hcontrol hquote hbackslash) (h left (Nat.le_refl _))

/-- **What is written between quotes** is read up to the closing one. -/
theorem leads_stringBytes (h : (Utf8.encode (cs.flatMap escape)).length < count) :
    Leads (stringBytes count read)
      ⟨Utf8.encode (cs.flatMap escape) ++ 0x22 :: rest, depth, size⟩
      (read.reverse ++ Utf8.encode cs) ⟨rest, depth, size⟩ := by
  induction cs generalizing count read with
  | nil =>
    obtain ⟨left, rfl⟩ := Nat.exists_eq_add_of_lt h
    rw [stringBytes]
    refine (leads_peek _).bind (leads_advance.bind ?_)
    have hnone : read.reverse ++ Utf8.encode [] = read.reverse := List.append_nil _
    rw [hnone]
    exact leads_pure _ _
  | cons c cs ih =>
    rw [List.flatMap_cons, Utf8.encode_append, List.length_append] at h
    rw [List.flatMap_cons, Utf8.encode_append, List.append_assoc]
    refine leads_stringBytes_char (by omega) fun left hleft => ?_
    have hvalue : read.reverse ++ Utf8.encode (c :: cs) =
        ((String.utf8EncodeChar c).reverse ++ read).reverse ++ Utf8.encode cs := by
      rw [List.reverse_append, List.reverse_reverse, List.append_assoc]
      rfl
    rw [hvalue]
    exact ih (by omega)

/-- **A string is read back** from what stands behind its opening quote. -/
theorem leads_stringBody (s : String)
    (h : (Utf8.encode (s.toList.flatMap escape)).length ≤ size) :
    Leads stringBody ⟨Utf8.encode (s.toList.flatMap escape) ++ 0x22 :: rest, depth, size⟩ s
      ⟨rest, depth, size⟩ := by
  refine leads_get fun c _ => (leads_bound _).bind ?_
  refine (leads_stringBytes (Nat.lt_succ_of_le h)).bind ?_
  rw [List.reverse_nil, List.nil_append, Utf8.strict?_encode]
  dsimp only
  rw [String.ofList_toList]
  exact leads_pure _ _

/-! ## Numbers -/

/-- What follows a value: the end of the text, a comma or the end of a
container. -/
def Ends (rest : Bytes) : Prop := ∀ b ∈ rest.head?, b = 0x2C ∨ b = 0x5D ∨ b = 0x7D

theorem ends_nil : Ends [] := by simp [Ends]

theorem ends_comma (rest : Bytes) : Ends (0x2C :: rest) := by simp [Ends]

theorem ends_bracket (rest : Bytes) : Ends (0x5D :: rest) := by simp [Ends]

theorem ends_brace (rest : Bytes) : Ends (0x7D :: rest) := by simp [Ends]

/-- What follows a value goes on no number. -/
theorem Ends.head_ne (h : Ends rest) : (rest.head? == some 0x2E) = false ∧
    isExponentMark rest.head? = false ∧ ∀ b ∈ rest.head?, isDigit b = false := by
  cases rest with
  | nil => exact ⟨rfl, rfl, by simp⟩
  | cons b rest => rcases h b rfl with rfl | rfl | rfl <;> exact ⟨rfl, rfl, by simp [isDigit]⟩

/-- **Digits are taken** up to what is none. -/
theorem leads_digits (hbytes : ∀ b ∈ bytes, isDigit b = true)
    (hrest : ∀ b ∈ rest.head?, isDigit b = false) :
    Leads digits ⟨bytes ++ rest, depth, size⟩ (bytes.map digitValue) ⟨rest, depth, size⟩ := by
  refine leads_get fun c hc => ?_
  have htake : c.rest.takeWhile isDigit = bytes := by
    rw [(Cursor.spot_eq_iff.1 hc).1, List.takeWhile_append_of_pos hbytes]
    cases rest with
    | nil => exact List.append_nil _
    | cons b rest =>
      rw [List.takeWhile_cons_of_neg (by simp [hrest b rfl]), List.append_nil]
  dsimp only
  rw [htake]
  exact (leads_skip hc).bind (leads_pure _ _)

theorem le_ofDigitChars (n : Nat) (cs : List Char) : n ≤ Nat.ofDigitChars 10 cs n := by
  induction cs generalizing n with
  | nil => exact Nat.le_refl n
  | cons c cs ih =>
    rw [Nat.ofDigitChars_cons]
    exact Nat.le_trans (by omega) (ih _)

/-- **No digit is dropped** from a number that 64 bits hold. -/
theorem absorb_eq (hcs : ∀ c ∈ cs, c.toNat < 0x80)
    (h : Nat.ofDigitChars 10 cs n ≤ Numeral.max64) :
    absorb n ((Utf8.encode cs).map digitValue) = (Nat.ofDigitChars 10 cs n, 0) := by
  induction cs generalizing n with
  | nil => rfl
  | cons c cs ih =>
    rw [List.forall_mem_cons] at hcs
    have hvalue : n * 10 + digitValue (UInt8.ofNat c.toNat) = 10 * n + (c.toNat - '0'.toNat) := by
      rw [digitValue, Utf8.toNat_ofNat (by omega), Nat.mul_comm]
      rfl
    rw [Nat.ofDigitChars_cons] at h ⊢
    have hle := Nat.le_trans (le_ofDigitChars _ cs) h
    rw [Utf8.encode_cons_of_ascii hcs.1, List.map_cons, absorb, hvalue, if_neg (by omega)]
    exact ih hcs.2 h

/-- **Only zero begins with a zero.** -/
theorem eq_zero_of_toDigits (h : Nat.toDigits 10 n = '0' :: cs) : n = 0 ∧ cs = [] := by
  induction n using Nat.strongRecOn generalizing cs with
  | ind n ih =>
    rcases Nat.lt_or_ge n 10 with hsmall | hlarge
    · rw [Nat.toDigits_of_lt_base hsmall, List.cons.injEq] at h
      have hn : (Nat.digitChar n).toNat = 48 + n := Nat.toNat_digitChar_of_lt_ten hsmall
      rw [h.1] at hn
      exact ⟨by simpa using hn, h.2.symm⟩
    · rw [Nat.toDigits_of_base_le (by decide) hlarge] at h
      obtain ⟨c, ds, hds⟩ := List.exists_cons_of_ne_nil (Nat.toDigits_ne_nil (n := n / 10) (b := 10))
      rw [hds, List.cons_append, List.cons.injEq] at h
      have hzero := ih (n / 10) (by omega) (h.1 ▸ hds)
      omega

/-- Behind the whole part of a number nothing else belongs to it. -/
theorem leads_afterWhole (hrest : Ends rest) :
    Leads (afterWhole false n 0) ⟨rest, depth, size⟩ (.integer n) ⟨rest, depth, size⟩ := by
  obtain ⟨hpoint, hmark, -⟩ := hrest.head_ne
  refine (leads_peek _).bind ?_
  dsimp only
  rw [if_neg (by simp [hpoint]), if_neg (by simp [hmark])]
  exact leads_pure _ _

theorem leads_number_zero (hrest : Ends rest) :
    Leads (number false) ⟨0x30 :: rest, depth, size⟩ (.integer 0) ⟨rest, depth, size⟩ := by
  obtain ⟨-, -, hnone⟩ := hrest.head_ne
  refine leads_take.bind ((leads_peek _).bind ?_)
  cases rest with
  | nil => exact leads_afterWhole hrest
  | cons b rest =>
    dsimp only [List.head?_cons]
    rw [if_neg (by simp [hnone b rfl])]
    exact leads_afterWhole hrest

/-- Digits of which the first is no zero are read to the last of them. -/
theorem leads_number_cons (hc : 0x30 < c.toNat) (hcs : ∀ d ∈ c :: cs, d.isDigit = true)
    (hvalue : Nat.ofDigitChars 10 (c :: cs) 0 ≤ Numeral.max64) (hrest : Ends rest) :
    Leads (number false) ⟨Utf8.encode (c :: cs) ++ rest, depth, size⟩
      (.integer (Nat.ofDigitChars 10 (c :: cs) 0)) ⟨rest, depth, size⟩ := by
  rw [List.forall_mem_cons] at hcs
  have hc' := Numeral.toNat_of_isDigit hcs.1
  have hbyte : (UInt8.ofNat c.toNat).toNat = c.toNat := Utf8.toNat_ofNat (by omega)
  have hascii : ∀ d ∈ cs, d.toNat < 0x80 := fun d hd => by
    have hd' := Numeral.toNat_of_isDigit (hcs.2 d hd)
    omega
  have hother : (UInt8.ofNat c.toNat == 0x30) = false := by
    rw [beq_eq_false_iff_ne, Ne, ← UInt8.toNat_inj, hbyte]
    exact Nat.ne_of_gt hc
  have hfirst : isDigit (UInt8.ofNat c.toNat) = true := by
    simp [isDigit, UInt8.le_iff_toNat_le, hbyte]
    omega
  have hothers : ∀ b ∈ Utf8.encode cs, isDigit b = true := by
    rw [Utf8.encode_of_ascii hascii]
    intro b hb
    obtain ⟨d, hd, rfl⟩ := List.mem_map.1 hb
    have hd' := Numeral.toNat_of_isDigit (hcs.2 d hd)
    simp [isDigit, UInt8.le_iff_toNat_le, Utf8.toNat_ofNat (n := d.toNat) (by omega)]
    omega
  have hstart : digitValue (UInt8.ofNat c.toNat) = 10 * 0 + (c.toNat - '0'.toNat) := by
    rw [digitValue, hbyte]
    simp
  rw [Nat.ofDigitChars_cons, ← hstart] at hvalue ⊢
  rw [Utf8.encode_cons_of_ascii (by omega), List.cons_append]
  refine leads_take.bind ?_
  dsimp only
  rw [if_neg (by simp [hother]), if_pos hfirst]
  refine (leads_digits hothers hrest.head_ne.2.2).bind ?_
  rw [absorb_eq hascii hvalue]
  exact leads_afterWhole hrest

/-- **A natural number of 64 bits is read back** from its decimal digits. -/
theorem leads_number (hn : n ≤ Numeral.max64) (hrest : Ends rest) :
    Leads (number false) ⟨Utf8.encode (Nat.toDigits 10 n) ++ rest, depth, size⟩ (.integer n)
      ⟨rest, depth, size⟩ := by
  obtain ⟨c, cs, hcs⟩ := List.exists_cons_of_ne_nil (Nat.toDigits_ne_nil (n := n) (b := 10))
  have hdigits : ∀ d ∈ c :: cs, d.isDigit = true := fun d hd =>
    Nat.isDigit_of_mem_toDigits (by decide) (Nat.le_refl 10) (hcs ▸ hd)
  have hvalue : Nat.ofDigitChars 10 (c :: cs) 0 = n := by
    rw [← hcs, Nat.ofDigitChars_ten_toDigits]
  -- a number that begins with a zero ends there
  rcases Nat.lt_or_ge 0x30 c.toNat with hpositive | hzero
  · subst hvalue
    rw [hcs]
    exact leads_number_cons hpositive hdigits hn hrest
  · have hc : c.toNat = 0x30 :=
      Nat.le_antisymm hzero (Numeral.toNat_of_isDigit (hdigits c List.mem_cons_self)).1
    obtain rfl : c = '0' := Char.toNat_inj.1 hc
    obtain ⟨rfl, rfl⟩ := eq_zero_of_toDigits hcs
    exact leads_number_zero hrest

end Reader

end Json

end RestCall
