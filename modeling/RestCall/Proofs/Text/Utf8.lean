import RestCall.Text.Utf8
/-!
# RestCall — reading back what has been encoded

The bytes of a character are its first byte, which says how many are owed
and where the second may lie, and continuations of six bits each. The
machine reads them back one after another, whatever follows them, so a
text is read back from its bytes by the strict reading.
-/

namespace RestCall

namespace Utf8

variable {b low high : UInt8} {p : Pending} {rest : Bytes} {c d : Char} {n bits k : Nat}

theorem toNat_ofNat (h : n < 0x100) : (UInt8.ofNat n).toNat = n := UInt8.toNat_ofNat_of_lt' h

/-! ## First bytes -/

theorem lead_of_one (h : b.toNat < 0x80) : lead b = .whole (Char.ofNat b.toNat) := by
  rw [lead, if_pos (UInt8.lt_iff_toNat_lt.2 h)]

theorem lead_of_two (hlow : 0xC2 ≤ b.toNat) (hhigh : b.toNat < 0xE0) :
    lead b = .more ⟨1, 0x80, 0xBF, b.toNat - 0xC0⟩ := by
  simp only [lead, UInt8.lt_iff_toNat_lt, beq_iff_eq, ← UInt8.toNat_inj]
  grind

theorem lead_of_three (hlow : 0xE0 ≤ b.toNat) (hhigh : b.toNat < 0xF0) :
    lead b = .more ⟨2, if b.toNat = 0xE0 then 0xA0 else 0x80,
      if b.toNat = 0xED then 0x9F else 0xBF, b.toNat - 0xE0⟩ := by
  simp only [lead, UInt8.lt_iff_toNat_lt, beq_iff_eq, ← UInt8.toNat_inj]
  grind

theorem lead_of_four (hlow : 0xF0 ≤ b.toNat) (hhigh : b.toNat < 0xF5) :
    lead b = .more ⟨3, if b.toNat = 0xF0 then 0x90 else 0x80,
      if b.toNat = 0xF4 then 0x8F else 0xBF, b.toNat - 0xF0⟩ := by
  simp only [lead, UInt8.lt_iff_toNat_lt, beq_iff_eq, ← UInt8.toNat_inj]
  grind

/-! ## One byte after another -/

theorem decodeFrom_more (h : lead b = .more p) :
    decodeFrom none (b :: rest) = decodeFrom (some p) rest := by
  rw [decodeFrom, h]

theorem mem_bounds (hlow : low.toNat ≤ n + 0x80) (hhigh : n + 0x80 ≤ high.toNat) :
    (low ≤ UInt8.ofNat (n + 0x80) && UInt8.ofNat (n + 0x80) ≤ high) = true ∧
      (UInt8.ofNat (n + 0x80)).toNat - 0x80 = n := by
  have hn : (UInt8.ofNat (n + 0x80)).toNat = n + 0x80 :=
    toNat_ofNat (Nat.lt_of_le_of_lt hhigh high.toNat_lt)
  simp only [UInt8.le_iff_toNat_le, hn, Bool.and_eq_true, decide_eq_true_eq]
  exact ⟨⟨hlow, hhigh⟩, Nat.add_sub_cancel ..⟩

/-- **A continuation adds its six bits.** -/
theorem decodeFrom_next (hlow : low.toNat ≤ n + 0x80) (hhigh : n + 0x80 ≤ high.toNat) :
    decodeFrom (some ⟨k + 2, low, high, bits⟩) (UInt8.ofNat (n + 0x80) :: rest) =
      decodeFrom (some ⟨k + 1, 0x80, 0xBF, bits * 64 + n⟩) rest := by
  obtain ⟨hmem, hbits⟩ := mem_bounds hlow hhigh
  rw [decodeFrom, if_pos hmem, hbits]
  exact if_neg (by simp)

/-- **The last continuation completes the character.** -/
theorem decodeFrom_last (hlow : low.toNat ≤ n + 0x80) (hhigh : n + 0x80 ≤ high.toNat) :
    decodeFrom (some ⟨1, low, high, bits⟩) (UInt8.ofNat (n + 0x80) :: rest) =
      some (Char.ofNat (bits * 64 + n)) :: decodeFrom none rest := by
  obtain ⟨hmem, hbits⟩ := mem_bounds hlow hhigh
  rw [decodeFrom, if_pos hmem, hbits]
  exact if_pos (Nat.le_refl 1)

/-- The bounds of a continuation that is not the second byte. -/
theorem tail_bounds :
    (0x80 : UInt8).toNat ≤ n % 64 + 0x80 ∧ n % 64 + 0x80 ≤ (0xBF : UInt8).toNat := by
  simp
  omega

/-! ## Characters, by the count of their bytes -/

theorem decodeFrom_one (h : n ≤ 0x7F) :
    decodeFrom none (UInt8.ofNat n :: rest) = some (Char.ofNat n) :: decodeFrom none rest := by
  have hn : (UInt8.ofNat n).toNat = n := toNat_ofNat (by omega)
  rw [decodeFrom, lead_of_one (by omega), hn]

theorem decodeFrom_two (hlow : 0x7F < n) (hhigh : n ≤ 0x7FF) :
    decodeFrom none (UInt8.ofNat (n / 64 % 0x20 + 0xC0) :: UInt8.ofNat (n % 0x40 + 0x80) :: rest) =
      some (Char.ofNat n) :: decodeFrom none rest := by
  have hb : (UInt8.ofNat (n / 64 % 0x20 + 0xC0)).toNat = n / 64 % 0x20 + 0xC0 :=
    toNat_ofNat (by omega)
  have hn : (n / 64 % 0x20 + 0xC0 - 0xC0) * 64 + n % 0x40 = n := by omega
  rw [decodeFrom_more (lead_of_two (by omega) (by omega)), hb,
    decodeFrom_last tail_bounds.1 tail_bounds.2, hn]

theorem decodeFrom_three (hlow : 0x7FF < n) (hhigh : n ≤ 0xFFFF)
    (hvalid : n < 0xD800 ∨ 0xDFFF < n) :
    decodeFrom none (UInt8.ofNat (n / 4096 % 0x10 + 0xE0) :: UInt8.ofNat (n / 64 % 0x40 + 0x80) ::
      UInt8.ofNat (n % 0x40 + 0x80) :: rest) = some (Char.ofNat n) :: decodeFrom none rest := by
  have hb : (UInt8.ofNat (n / 4096 % 0x10 + 0xE0)).toNat = n / 4096 % 0x10 + 0xE0 :=
    toNat_ofNat (by omega)
  have hn : ((n / 4096 % 0x10 + 0xE0 - 0xE0) * 64 + n / 64 % 0x40) * 64 + n % 0x40 = n := by omega
  rw [decodeFrom_more (lead_of_three (by omega) (by omega)), hb, decodeFrom_next _ _,
    decodeFrom_last tail_bounds.1 tail_bounds.2, hn]
  -- after 0xE0 no overlong form, after 0xED no surrogate
  · split
    · simp; omega
    · exact tail_bounds.1
  · split
    · simp; omega
    · exact tail_bounds.2

theorem decodeFrom_four (hlow : 0xFFFF < n) (hhigh : n < 0x110000) :
    decodeFrom none (UInt8.ofNat (n / 262144 % 0x08 + 0xF0) ::
      UInt8.ofNat (n / 4096 % 0x40 + 0x80) :: UInt8.ofNat (n / 64 % 0x40 + 0x80) ::
      UInt8.ofNat (n % 0x40 + 0x80) :: rest) = some (Char.ofNat n) :: decodeFrom none rest := by
  have hb : (UInt8.ofNat (n / 262144 % 0x08 + 0xF0)).toNat = n / 262144 % 0x08 + 0xF0 :=
    toNat_ofNat (by omega)
  have hn : (((n / 262144 % 0x08 + 0xF0 - 0xF0) * 64 + n / 4096 % 0x40) * 64 +
      n / 64 % 0x40) * 64 + n % 0x40 = n := by omega
  rw [decodeFrom_more (lead_of_four (by omega) (by omega)), hb, decodeFrom_next _ _,
    decodeFrom_next tail_bounds.1 tail_bounds.2, decodeFrom_last tail_bounds.1 tail_bounds.2, hn]
  -- after 0xF0 no overlong form, after 0xF4 nothing above U+10FFFF
  · split
    · simp; omega
    · exact tail_bounds.1
  · split
    · simp; omega
    · exact tail_bounds.2

/-- **The bytes of a character are read as that character**, whatever
follows them. -/
theorem decodeFrom_utf8EncodeChar :
    decodeFrom none (String.utf8EncodeChar c ++ rest) = some c :: decodeFrom none rest := by
  have hvalid : c.val.toNat < 0xD800 ∨ 0xDFFF < c.val.toNat ∧ c.val.toNat < 0x110000 := c.valid
  have hread : decodeFrom none (String.utf8EncodeChar c ++ rest) =
      some (Char.ofNat c.toNat) :: decodeFrom none rest := by
    fun_cases String.utf8EncodeChar c with
    | case1 v h => exact decodeFrom_one h
    | case2 v h h' => exact decodeFrom_two (Nat.lt_of_not_le h) h'
    | case3 v h h' h'' =>
      exact decodeFrom_three (Nat.lt_of_not_le h') h'' (hvalid.imp_right And.left)
    | case4 v h h' h'' =>
      exact decodeFrom_four (Nat.lt_of_not_le h'') (hvalid.elim (by omega) And.right)
  rw [hread, Char.ofNat_toNat]

theorem decode_encode (cs : List Char) : decode (encode cs) = cs.map some := by
  induction cs with
  | nil => rfl
  | cons c cs ih =>
    rw [decode, encode, List.flatMap_cons, decodeFrom_utf8EncodeChar, List.map_cons]
    exact congrArg _ ih

/-- **A text is read back from its bytes.** -/
theorem strict?_encode (cs : List Char) : strict? (encode cs) = some cs := by
  rw [strict?, decode_encode, List.mapM_map]
  exact (List.mapM_pure (f := id)).trans (congrArg some (List.map_id _))

theorem lenient_encode (cs : List Char) : lenient (encode cs) = cs := by
  unfold lenient
  rw [decode_encode, List.map_map]
  exact List.map_id cs

/-! ## Where characters begin -/

theorem lead_of_continuation (hlow : 0x80 ≤ b.toNat) (hhigh : b.toNat < 0xC0) :
    lead b = .refused := by
  have hnot : ¬ b < 0x80 := by
    rw [UInt8.lt_iff_toNat_lt]
    exact Nat.not_lt.2 hlow
  have hless : b < 0xC2 := UInt8.lt_iff_toNat_lt.2 (Nat.lt_of_lt_of_le hhigh (by decide))
  rw [lead, if_neg hnot, if_pos hless]

/-- **The further bytes of a character** begin none. -/
theorem lead_of_mem_tail (hb : b ∈ (String.utf8EncodeChar c).tail) : lead b = .refused := by
  have hsix : ∀ m, (UInt8.ofNat (m % 64 + 0x80)).toNat = m % 64 + 0x80 := fun m =>
    toNat_ofNat (by omega)
  have hcontinued : ∀ m, lead (UInt8.ofNat (m % 64 + 0x80)) = .refused := fun m =>
    lead_of_continuation (by rw [hsix]; omega) (by rw [hsix]; omega)
  revert hb
  fun_cases String.utf8EncodeChar c with
  | case1 v h => exact fun hb => absurd hb List.not_mem_nil
  | case2 v h h' =>
    simp only [List.tail_cons, List.mem_cons, List.not_mem_nil, or_false]
    rintro rfl
    exact hcontinued _
  | case3 v h h' h'' =>
    simp only [List.tail_cons, List.mem_cons, List.not_mem_nil, or_false]
    rintro (rfl | rfl) <;> exact hcontinued _
  | case4 v h h' h'' =>
    simp only [List.tail_cons, List.mem_cons, List.not_mem_nil, or_false]
    rintro (rfl | rfl | rfl) <;> exact hcontinued _

/-- **The first byte of a character** begins one. -/
theorem lead_ne_refused (h : String.utf8EncodeChar c = b :: rest) : lead b ≠ .refused := by
  intro hrefused
  have hread : decodeFrom none (b :: rest) = some c :: decodeFrom none [] := by
    rw [← h, ← decodeFrom_utf8EncodeChar, List.append_nil]
  have hended : decodeFrom none (b :: rest) = none :: decodeFrom none rest := by
    rw [decodeFrom, hrefused]
  cases hended.symm.trans hread

/-- **No character's bytes begin another's.** -/
theorem eq_of_begins (h : String.utf8EncodeChar c <+: String.utf8EncodeChar d) : c = d := by
  obtain ⟨rest, hrest⟩ := h
  have hread : some c :: decodeFrom none rest = some d :: decodeFrom none [] := by
    rw [← decodeFrom_utf8EncodeChar, hrest, ← decodeFrom_utf8EncodeChar, List.append_nil]
  exact Option.some.inj (List.cons.inj hread).1

/-! ## ASCII and the rest -/

theorem encode_append (cs ds : List Char) : encode (cs ++ ds) = encode cs ++ encode ds :=
  List.flatMap_append

theorem utf8EncodeChar_of_ascii (h : c.toNat < 0x80) :
    String.utf8EncodeChar c = [UInt8.ofNat c.toNat] :=
  if_pos (Nat.le_of_lt_succ h)

theorem encode_cons_of_ascii (h : c.toNat < 0x80) (cs : List Char) :
    encode (c :: cs) = UInt8.ofNat c.toNat :: encode cs := by
  rw [encode, List.flatMap_cons, utf8EncodeChar_of_ascii h]
  rfl

/-- **ASCII characters are bytes** of their own. -/
theorem encode_of_ascii {cs : List Char} (h : ∀ c ∈ cs, c.toNat < 0x80) :
    encode cs = cs.map fun c => UInt8.ofNat c.toNat := by
  induction cs with
  | nil => rfl
  | cons c cs ih =>
    rw [List.forall_mem_cons] at h
    rw [encode_cons_of_ascii h.1, ih h.2, List.map_cons]

/-- **Other characters have no ASCII byte** among theirs. -/
theorem le_of_mem_utf8EncodeChar (h : 0x80 ≤ c.toNat) (hb : b ∈ String.utf8EncodeChar c) :
    0x80 ≤ b.toNat := by
  have hmany : ¬ c.val.toNat ≤ 0x7F := Nat.not_le.2 h
  revert hb
  fun_cases String.utf8EncodeChar c with
  | case1 v h' => exact absurd h' hmany
  | case2 v h h' =>
    simp only [List.mem_cons, List.not_mem_nil, or_false]
    rintro (rfl | rfl) <;> rw [toNat_ofNat (by omega)] <;> omega
  | case3 v h h' h'' =>
    simp only [List.mem_cons, List.not_mem_nil, or_false]
    rintro (rfl | rfl | rfl) <;> rw [toNat_ofNat (by omega)] <;> omega
  | case4 v h h' h'' =>
    simp only [List.mem_cons, List.not_mem_nil, or_false]
    rintro (rfl | rfl | rfl | rfl) <;> rw [toNat_ofNat (by omega)] <;> omega

/-! ## Cut at an ASCII byte -/

/-- Whether what has been begun, if anything, goes on above ASCII. -/
def AboveAscii (pending : Option Pending) : Prop := ∀ p ∈ pending, 0x80 ≤ p.low.toNat

theorem aboveAscii_none : AboveAscii none := fun _ hp => by cases hp

theorem aboveAscii_some (h : 0x80 ≤ p.low.toNat) : AboveAscii (some p) := fun q hq => by
  obtain rfl := Option.some.inj hq
  exact h

theorem aboveAscii_of_lead (h : lead b = .more p) : AboveAscii (some p) := by
  revert h
  fun_cases lead b <;> intro h <;> cases h <;> exact aboveAscii_some (by simp)

/-- **A byte that cannot go on with a character** is the first of another. -/
theorem decodeFrom_broken (h : ¬ (p.low ≤ b && b ≤ p.high) = true) :
    decodeFrom (some p) (b :: rest) = none :: decodeFrom none (b :: rest) := by
  rw [decodeFrom, decodeFrom, if_neg h]

/-- **An ASCII byte stands for itself**, whatever has been begun before it: what
is cut off there is ill-formed, whether that byte follows or nothing does. -/
theorem decodeFrom_append_ascii {pending : Option Pending} {front : Bytes} (hb : b.toNat < 0x80)
    (hpending : AboveAscii pending) :
    decodeFrom pending (front ++ b :: rest) =
      decodeFrom pending front ++ some (Char.ofNat b.toNat) :: decodeFrom none rest := by
  have hfirst : decodeFrom none (b :: rest) = some (Char.ofNat b.toNat) :: decodeFrom none rest := by
    rw [decodeFrom, lead_of_one hb]
  fun_induction decodeFrom pending front with
  | case1 => exact hfirst
  | case2 p =>
    have hlow : 0x80 ≤ p.low.toNat := hpending p rfl
    have hbroken : ¬ (p.low ≤ b && b ≤ p.high) = true := by
      simp only [Bool.and_eq_true, decide_eq_true_eq, UInt8.le_iff_toNat_le]
      omega
    rw [List.nil_append, decodeFrom_broken hbroken, hfirst]
    rfl
  | case3 a front c hlead ih =>
    rw [List.cons_append, decodeFrom, hlead, List.cons_append]
    exact congrArg _ (ih aboveAscii_none)
  | case4 a front p hlead ih =>
    rw [List.cons_append, decodeFrom_more hlead]
    exact ih (aboveAscii_of_lead hlead)
  | case5 a front hlead ih =>
    rw [List.cons_append, decodeFrom, hlead, List.cons_append]
    exact congrArg _ (ih aboveAscii_none)
  | case6 p a front hnext bits howed ih =>
    rw [List.cons_append, decodeFrom, if_pos hnext, if_pos howed, List.cons_append]
    exact congrArg _ (ih aboveAscii_none)
  | case7 p a front hnext bits howed ih =>
    rw [List.cons_append, decodeFrom, if_pos hnext, if_neg howed]
    exact ih (aboveAscii_some (Nat.le_refl _))
  | case8 p a front hnext ihnone ihmore =>
    -- the byte that breaks off a character is read as the first of another
    rw [List.cons_append, decodeFrom, if_neg hnext, List.cons_append]
    refine congrArg _ ?_
    cases hlead : lead a with
    | whole c => exact congrArg _ (ihnone aboveAscii_none)
    | more q => exact ihmore q (aboveAscii_of_lead hlead)
    | refused => exact congrArg _ (ihnone aboveAscii_none)

/-- **Texts are read apart** where an ASCII byte stands between them. -/
theorem lenient_append_ascii (front : Bytes) (hb : b.toNat < 0x80) (rest : Bytes) :
    lenient (front ++ b :: rest) = lenient front ++ Char.ofNat b.toNat :: lenient rest := by
  unfold lenient decode
  rw [decodeFrom_append_ascii hb aboveAscii_none, List.map_append, List.map_cons]
  rfl

end Utf8

end RestCall
