import RestCall.Encoding.Percent
import RestCall.Proofs.Text.Case
/-!
# RestCall — reading encoded texts

An encoded text spells bytes: an escape spells its byte, any character but
the percent sign spells its own. Escapes begin at percent signs and
nowhere else, so an escaped character that occurs in a text occurs there
escape by escape, and putting it back changes what is written but not what
is spelled. A text is therefore read back from its encoded form, whatever
characters are put back, unless the percent sign is one of them.
-/

namespace RestCall

namespace Percent

/-- A text in which every percent sign begins an escape, with the bytes it
stands for. -/
inductive Spells : List Char → Bytes → Prop where
  | nil : Spells [] []
  | plain {c : Char} {cs : List Char} {bytes : Bytes} :
      c ≠ '%' → Spells cs bytes → Spells (c :: cs) (String.utf8EncodeChar c ++ bytes)
  | escape {b : UInt8} {cs : List Char} {bytes : Bytes} :
      Spells cs bytes → Spells (Percent.escape b ++ cs) (b :: bytes)

variable {b : UInt8} {c d : Char} {cs rest pattern literal skip : List Char}
variable {bytes before : Bytes} {n : Nat}

/-! ## Escapes -/

theorem hexDigitUpper_spec : ∀ n < 16, Numeral.digit? 16 (Numeral.hexDigitUpper n) = some n ∧
    isUnreserved (Numeral.hexDigitUpper n) = true := by decide

theorem decode_escape : decode (escape b ++ rest) = b :: decode rest := by
  have hlt := b.toNat_lt
  have hhigh := (hexDigitUpper_spec (b.toNat / 16) (by omega)).1
  have hlow := (hexDigitUpper_spec (b.toNat % 16) (by omega)).1
  have hb : b.toNat / 16 * 16 + b.toNat % 16 = b.toNat := Nat.div_add_mod' ..
  simp [escape, decode, hhigh, hlow, hb]

theorem decode_escape_nil : decode (escape b) = [b] := decode_escape

theorem decode_cons (h : c ≠ '%') :
    decode (c :: rest) = String.utf8EncodeChar c ++ decode rest := by
  rw [decode]
  intro a b rest' hc
  exact absurd hc h

theorem escape_inj {b' : UInt8} (h : escape b ++ cs = escape b' ++ rest) : b = b' ∧ cs = rest := by
  obtain ⟨hescape, hrest⟩ := List.append_inj h rfl
  have hb : [b] = [b'] := by
    rw [← decode_escape_nil, hescape, decode_escape_nil]
  exact ⟨List.singleton_inj.1 hb, hrest⟩

/-! ## What a text spells -/

theorem Spells.decode_eq (h : Spells cs bytes) : decode cs = bytes := by
  induction h with
  | nil => rfl
  | plain hc _ ih => rw [decode_cons hc, ih]
  | escape _ ih => rw [decode_escape, ih]

theorem Spells.escapes (h : Spells cs bytes) :
    Spells (before.flatMap Percent.escape ++ cs) (before ++ bytes) := by
  induction before with
  | nil => exact h
  | cons b before ih =>
    rw [List.flatMap_cons, List.append_assoc]
    exact .escape ih

theorem Spells.of_escape (h : Spells (Percent.escape b ++ cs) bytes) :
    ∃ after, bytes = b :: after ∧ Spells cs after := by
  generalize htext : Percent.escape b ++ cs = text at h
  cases h with
  | nil => cases htext
  | plain hc _ => exact absurd (List.cons.inj htext).1.symm hc
  | escape hafter =>
    obtain ⟨rfl, rfl⟩ := escape_inj htext
    exact ⟨_, rfl, hafter⟩

/-- **Escapes are met escape by escape.** -/
theorem Spells.of_escapes (h : Spells (before.flatMap Percent.escape ++ cs) bytes) :
    ∃ after, bytes = before ++ after ∧ Spells cs after := by
  induction before generalizing bytes with
  | nil => exact ⟨bytes, rfl, h⟩
  | cons b before ih =>
    rw [List.flatMap_cons, List.append_assoc] at h
    obtain ⟨bytes, rfl, hbytes⟩ := h.of_escape
    obtain ⟨after, rfl, hafter⟩ := ih hbytes
    exact ⟨after, rfl, hafter⟩

/-! ## Encoding -/

theorem isUnreserved_percent : isUnreserved '%' = false := by decide

theorem encodeChar_of_reserved (h : isUnreserved c = false) :
    encodeChar c = (String.utf8EncodeChar c).flatMap escape := by
  rw [encodeChar, h]
  rfl

/-- **An encoded text spells the bytes of the text.** -/
theorem spells_encode (cs : List Char) : Spells (encode cs) (Utf8.encode cs) := by
  induction cs with
  | nil => exact .nil
  | cons c cs ih =>
    rw [encode, Utf8.encode, List.flatMap_cons, List.flatMap_cons]
    cases hc : isUnreserved c with
    | true =>
      have hne : c ≠ '%' := by
        rintro rfl
        rw [isUnreserved_percent] at hc
        cases hc
      rw [encodeChar, hc]
      exact .plain hne ih
    | false =>
      rw [encodeChar_of_reserved hc]
      exact ih.escapes

/-! ## Putting a character back -/

theorem replaceFrom_eq_drop :
    replaceFrom pattern literal n cs = replaceFrom pattern literal 0 (cs.drop n) := by
  induction cs generalizing n with
  | nil => cases n <;> rfl
  | cons c cs ih =>
    cases n with
    | zero => rfl
    | succ n => exact ih

theorem replaceFrom_append (h : pattern ≠ []) :
    replaceFrom pattern literal 0 (pattern ++ cs) =
      literal ++ replaceFrom pattern literal 0 cs := by
  obtain ⟨d, pattern, rfl⟩ := List.exists_cons_of_ne_nil h
  have hprefix : (d :: pattern).isPrefixOf (d :: (pattern ++ cs)) = true :=
    List.isPrefixOf_iff_prefix.2 (List.prefix_append ..)
  rw [List.cons_append, replaceFrom, if_pos hprefix, replaceFrom_eq_drop]
  simp

theorem replaceFrom_cons (h : ¬ pattern <+: c :: cs) :
    replaceFrom pattern literal 0 (c :: cs) = c :: replaceFrom pattern literal 0 cs := by
  rw [replaceFrom, if_neg (by rwa [List.isPrefixOf_iff_prefix])]

/-- A pattern that begins with a percent sign does not begin at a digit. -/
theorem not_prefix_of_head? (hpattern : pattern.head? = some '%') (hc : c ≠ '%') :
    ¬ pattern <+: c :: cs := by
  rintro ⟨rest, hrest⟩
  obtain ⟨pattern, rfl⟩ := List.head?_eq_some_iff.1 hpattern
  exact hc (List.cons.inj hrest).1.symm

theorem hexDigitUpper_ne_percent (h : n < 16) : Numeral.hexDigitUpper n ≠ '%' := by
  intro heq
  have hd := (hexDigitUpper_spec n h).2
  rw [heq, isUnreserved_percent] at hd
  cases hd

theorem replaceFrom_escape (hpattern : pattern.head? = some '%')
    (h : ¬ pattern <+: escape b ++ cs) :
    replaceFrom pattern literal 0 (escape b ++ cs) =
      escape b ++ replaceFrom pattern literal 0 cs := by
  have hb := b.toNat_lt
  have hhigh := hexDigitUpper_ne_percent (n := b.toNat / 16) (by omega)
  have hlow := hexDigitUpper_ne_percent (n := b.toNat % 16) (by omega)
  rw [escape] at h ⊢
  refine (replaceFrom_cons h).trans (congrArg _ ?_)
  refine (replaceFrom_cons (not_prefix_of_head? hpattern hhigh)).trans (congrArg _ ?_)
  exact replaceFrom_cons (not_prefix_of_head? hpattern hlow)

theorem head?_escapes (h : before ≠ []) : (before.flatMap escape).head? = some '%' := by
  obtain ⟨b, before, rfl⟩ := List.exists_cons_of_ne_nil h
  rfl

/-- **Putting a character back changes nothing that is spelled.** -/
theorem Spells.replaceFrom (hc : c ≠ '%') (h : Spells cs bytes) :
    Spells (Percent.replaceFrom ((String.utf8EncodeChar c).flatMap Percent.escape) [c] 0 cs)
      bytes := by
  have hpattern := head?_escapes (String.utf8EncodeChar_ne_nil (c := c))
  have hne : (String.utf8EncodeChar c).flatMap Percent.escape ≠ [] := by
    intro heq
    rw [heq] at hpattern
    cases hpattern
  -- on the length: where the escapes of the character are met, the rest is some way on
  induction hn : cs.length using Nat.strongRecOn generalizing cs bytes with
  | ind n ih =>
    subst hn
    by_cases hprefix : (String.utf8EncodeChar c).flatMap Percent.escape <+: cs
    · obtain ⟨rest, rfl⟩ := hprefix
      obtain ⟨after, rfl, hafter⟩ := h.of_escapes
      have hlen : rest.length <
          ((String.utf8EncodeChar c).flatMap Percent.escape ++ rest).length := by
        have := List.length_pos_iff.2 hne
        rw [List.length_append]
        omega
      rw [replaceFrom_append hne]
      exact .plain hc (ih _ hlen hafter rfl)
    · cases h with
      | nil => exact .nil
      | plain hd hrest =>
        rw [replaceFrom_cons hprefix]
        exact .plain hd (ih _ (Nat.lt_succ_self _) hrest rfl)
      | escape hrest =>
        rw [replaceFrom_escape hpattern hprefix]
        exact .escape (ih _ (by simp [Percent.escape]; omega) hrest rfl)

theorem Spells.restore (hc : c ≠ '%') (h : Spells cs bytes) :
    Spells (Percent.restore cs c) bytes := by
  cases hr : isUnreserved c with
  | true =>
    rw [Percent.restore, hr]
    exact h
  | false =>
    rw [Percent.restore, hr, encodeChar_of_reserved hr]
    exact h.replaceFrom hc

/-- **A text in encoded form spells its bytes**, whatever is put back, unless
it is the percent sign. -/
theorem spells_encodeSkipping (hskip : '%' ∉ skip) (cs : List Char) :
    Spells (encodeSkipping skip cs) (Utf8.encode cs) := by
  have hfold : ∀ text, Spells text (Utf8.encode cs) →
      Spells (skip.foldl Percent.restore text) (Utf8.encode cs) := by
    intro text htext
    induction skip generalizing text with
    | nil => exact htext
    | cons c skip ih =>
      rw [List.mem_cons, not_or] at hskip
      exact ih hskip.2 _ (htext.restore (Ne.symm hskip.1))
  rw [encodeSkipping]
  split
  -- a text that needs no escape is its own encoded form
  · next heq =>
    have hspells := spells_encode cs
    rwa [heq] at hspells
  · exact hfold _ (spells_encode cs)

theorem decode_encodeSkipping (hskip : '%' ∉ skip) (cs : List Char) :
    decode (encodeSkipping skip cs) = Utf8.encode cs :=
  (spells_encodeSkipping hskip cs).decode_eq

/-! ## What an encoded text is made of -/

theorem mem_escape (h : d ∈ escape b) : isUnreserved d = true ∨ d = '%' := by
  have hb := b.toNat_lt
  simp only [escape, List.mem_cons, List.not_mem_nil, or_false] at h
  rcases h with rfl | rfl | rfl
  · exact .inr rfl
  · exact .inl (hexDigitUpper_spec _ (by omega)).2
  · exact .inl (hexDigitUpper_spec _ (by omega)).2

theorem mem_encode (h : d ∈ encode cs) : isUnreserved d = true ∨ d = '%' := by
  obtain ⟨c, -, hd⟩ := List.mem_flatMap.1 h
  rw [encodeChar] at hd
  split at hd
  · next hc =>
    obtain rfl := List.mem_singleton.1 hd
    exact .inl hc
  · obtain ⟨b, -, hb⟩ := List.mem_flatMap.1 hd
    exact mem_escape hb

theorem mem_replaceFrom (h : d ∈ replaceFrom pattern literal n cs) : d ∈ cs ∨ d ∈ literal := by
  fun_induction replaceFrom pattern literal n cs with
  | case1 => cases h
  | case2 n c rest ih => exact (ih h).imp_left (List.mem_cons_of_mem _)
  | case3 c rest hprefix ih =>
    rcases List.mem_append.1 h with h | h
    · exact .inr h
    · exact (ih h).imp_left (List.mem_cons_of_mem _)
  | case4 c rest hprefix ih =>
    rcases List.mem_cons.1 h with rfl | h
    · exact .inl (List.mem_cons_self ..)
    · exact (ih h).imp_left (List.mem_cons_of_mem _)

theorem mem_restore (h : d ∈ restore cs c) : d ∈ cs ∨ d = c := by
  rw [restore] at h
  split at h
  · exact .inl h
  · exact (mem_replaceFrom h).imp_right List.mem_singleton.1

theorem mem_foldl_restore (h : d ∈ skip.foldl restore cs) : d ∈ cs ∨ d ∈ skip := by
  induction skip generalizing cs with
  | nil => exact .inl h
  | cons c skip ih =>
    rcases ih h with h | h
    · rcases mem_restore h with h | rfl
      · exact .inl h
      · exact .inr (List.mem_cons_self ..)
    · exact .inr (List.mem_cons_of_mem _ h)

/-- **Only unreserved characters, percent signs and what is put back** stand
in an encoded text. -/
theorem mem_encodeSkipping (h : d ∈ encodeSkipping skip cs) :
    isUnreserved d = true ∨ d = '%' ∨ d ∈ skip := by
  rw [encodeSkipping] at h
  split at h
  · next heq =>
    rw [← heq] at h
    exact (mem_encode h).imp_right .inl
  · rcases mem_foldl_restore h with h | h
    · exact (mem_encode h).imp_right .inl
    · exact .inr (.inr h)

/-! ## Lower case -/

theorem encodeSkipping_nil (cs : List Char) : encodeSkipping [] cs = encode cs := by
  rw [encodeSkipping]
  split
  · next heq => exact heq.symm
  · rfl

theorem ascii_of_isUnreserved (h : isUnreserved c = true) : c.toNat < 0x80 := by
  simp only [isUnreserved, Bool.or_eq_true, Bool.and_eq_true, decide_eq_true_eq, beq_iff_eq,
    Char.le_def, UInt32.le_iff_toNat_le] at h
  rcases h with (((((⟨-, h⟩ | ⟨-, h⟩) | ⟨-, h⟩) | rfl) | rfl) | rfl) | rfl
  · exact Nat.lt_of_le_of_lt h (by decide)
  · exact Nat.lt_of_le_of_lt h (by decide)
  · exact Nat.lt_of_le_of_lt h (by decide)
  all_goals decide

theorem isUnreserved_lowerAscii (c : Char) :
    isUnreserved (Text.lowerAscii c) = isUnreserved c := by
  have hletters : ∀ n < 26, isUnreserved (Char.ofNat (n + 0x61)) =
      isUnreserved (Char.ofNat (n + 0x41)) := by decide
  rcases Text.lowerAscii_cases c with hself | ⟨n, hn, hupper, hlower⟩
  · rw [hself]
  · rw [hlower, hupper, hletters n hn]

/-- What is escaped is no letter of ASCII. -/
theorem lowerAscii_of_reserved (h : isUnreserved c = false) : Text.lowerAscii c = c := by
  have hletters : ∀ n < 26, isUnreserved (Char.ofNat (n + 0x41)) = true := by decide
  rcases Text.lowerAscii_cases c with hself | ⟨n, hn, hupper, -⟩
  · exact hself
  · rw [hupper, hletters n hn] at h
    cases h

/-- **Escapes are read in lower case** as well. -/
theorem decode_escape_lowered :
    decode ((escape b).map Text.lowerAscii ++ rest) = b :: decode rest := by
  have hdigit : ∀ n < 16,
      Numeral.digit? 16 (Text.lowerAscii (Numeral.hexDigitUpper n)) = some n := by decide
  have hlt := b.toNat_lt
  have hhigh := hdigit (b.toNat / 16) (by omega)
  have hlow := hdigit (b.toNat % 16) (by omega)
  have hsign : Text.lowerAscii '%' = '%' := by decide
  have hb : b.toNat / 16 * 16 + b.toNat % 16 = b.toNat := Nat.div_add_mod' ..
  simp [escape, decode, hsign, hhigh, hlow, hb]

theorem decode_escapes_lowered :
    decode ((before.flatMap escape).map Text.lowerAscii ++ rest) = before ++ decode rest := by
  induction before with
  | nil => rfl
  | cons b before ih =>
    rw [List.flatMap_cons, List.map_append, List.append_assoc, decode_escape_lowered, ih]
    rfl

/-- **An encoded text in lower case** stands for the text in lower case. -/
theorem decode_encode_lowered (cs : List Char) :
    decode ((encode cs).map Text.lowerAscii) = Utf8.encode (cs.map Text.lowerAscii) := by
  induction cs with
  | nil => rfl
  | cons c cs ih =>
    rw [encode, List.flatMap_cons, List.map_append, ← encode, List.map_cons, Utf8.encode,
      List.flatMap_cons, ← Utf8.encode, ← ih]
    cases hc : isUnreserved c with
    | true =>
      have hne : Text.lowerAscii c ≠ '%' := by
        intro heq
        rw [← isUnreserved_lowerAscii, heq, isUnreserved_percent] at hc
        cases hc
      rw [encodeChar, hc]
      exact decode_cons hne
    | false => rw [encodeChar_of_reserved hc, decode_escapes_lowered, lowerAscii_of_reserved hc]

/-- **Whether a text was in lower case** cannot be told from its encoded form
in lower case. -/
theorem encode_lowered (cs : List Char) :
    (encode (cs.map Text.lowerAscii)).map Text.lowerAscii = (encode cs).map Text.lowerAscii := by
  induction cs with
  | nil => rfl
  | cons c cs ih =>
    rw [List.map_cons, encode, encode, List.flatMap_cons, List.flatMap_cons, List.map_append,
      List.map_append, ← encode, ← encode, ih]
    cases hc : isUnreserved c with
    | true =>
      rw [encodeChar, encodeChar, isUnreserved_lowerAscii, hc]
      exact congrArg (· :: _) (Text.lowerAscii_lowerAscii c)
    | false => rw [lowerAscii_of_reserved hc]

end Percent

end RestCall
