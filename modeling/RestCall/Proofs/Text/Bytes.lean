import Mathlib.Data.String.Basic
import RestCall.Proofs.Text.Utf8
/-!
# RestCall — the order of strings is that of their bytes

Strings are compared character by character, and elsewhere byte by byte. The
encoding keeps the order: of two characters the greater has the greater first
byte, or the same one and, of the six bits in each further byte, the first that
differ are greater (`encode_lt_of_char_lt`). Characters before these have the
same bytes in both, and those behind do not count, so one order is the other
(`lt_iff_ofString_lt`).
-/

namespace RestCall

namespace Utf8

variable {m n : Nat} {c d : Char} {x y : Bytes} {a b : String}

/-! ## Numbers in further bytes -/

/-- A sequence of bytes is less by its first one, or by those behind it. -/
theorem cons_lt_cons (hm : m < 0x100) (hn : n < 0x100) (h : m < n ∨ m = n ∧ x < y) :
    UInt8.ofNat m :: x < UInt8.ofNat n :: y := by
  rw [List.cons_lt_cons_iff, UInt8.lt_iff_toNat_lt, ← UInt8.toNat_inj, toNat_ofNat hm,
    toNat_ofNat hn]
  exact h

theorem lt_of_last_lt (h : m % 64 < n % 64) :
    UInt8.ofNat (m % 64 + 0x80) :: x < UInt8.ofNat (n % 64 + 0x80) :: y :=
  cons_lt_cons (by omega) (by omega) (.inl (by omega))

theorem lt_of_two_lt (h : m % 4096 < n % 4096) :
    UInt8.ofNat (m / 64 % 64 + 0x80) :: UInt8.ofNat (m % 64 + 0x80) :: x <
      UInt8.ofNat (n / 64 % 64 + 0x80) :: UInt8.ofNat (n % 64 + 0x80) :: y := by
  refine cons_lt_cons (by omega) (by omega) ?_
  rcases Nat.lt_or_ge (m / 64 % 64) (n / 64 % 64) with hlt | hge
  · exact .inl (by omega)
  · exact .inr ⟨by omega, lt_of_last_lt (by omega)⟩

theorem lt_of_three_lt (h : m % 262144 < n % 262144) :
    UInt8.ofNat (m / 4096 % 64 + 0x80) :: UInt8.ofNat (m / 64 % 64 + 0x80) ::
        UInt8.ofNat (m % 64 + 0x80) :: x <
      UInt8.ofNat (n / 4096 % 64 + 0x80) :: UInt8.ofNat (n / 64 % 64 + 0x80) ::
        UInt8.ofNat (n % 64 + 0x80) :: y := by
  refine cons_lt_cons (by omega) (by omega) ?_
  rcases Nat.lt_or_ge (m / 4096 % 64) (n / 4096 % 64) with hlt | hge
  · exact .inl (by omega)
  · exact .inr ⟨by omega, lt_of_two_lt (by omega)⟩

/-! ## Characters -/

/-- **A character's bytes are less** than those of a greater one, whatever
follows either. -/
theorem encode_lt_of_char_lt (h : c < d) :
    String.utf8EncodeChar c ++ x < String.utf8EncodeChar d ++ y := by
  have hlt : c.val.toNat < d.val.toNat := UInt32.lt_iff_toNat_lt.1 h
  have hvalid : d.val.toNat < 0xD800 ∨ 0xDFFF < d.val.toNat ∧ d.val.toNat < 0x110000 := d.valid
  -- by the count of the first character's bytes, then of the second's
  fun_cases String.utf8EncodeChar c with
  | case1 v hv =>
    fun_cases String.utf8EncodeChar d <;> exact cons_lt_cons (by omega) (by omega) (.inl (by omega))
  | case2 v hv hv' =>
    fun_cases String.utf8EncodeChar d with
    | case1 w hw => omega
    | case2 w hw hw' =>
      refine cons_lt_cons (by omega) (by omega) ?_
      rcases Nat.lt_or_ge (v / 64 % 32) (w / 64 % 32) with hlead | hlead
      · exact .inl (by omega)
      · exact .inr ⟨by omega, lt_of_last_lt (by omega)⟩
    | case3 w | case4 w => exact cons_lt_cons (by omega) (by omega) (.inl (by omega))
  | case3 v hv hv' hv'' =>
    fun_cases String.utf8EncodeChar d with
    | case1 w hw => omega
    | case2 w hw hw' => omega
    | case3 w hw hw' hw'' =>
      refine cons_lt_cons (by omega) (by omega) ?_
      rcases Nat.lt_or_ge (v / 4096 % 16) (w / 4096 % 16) with hlead | hlead
      · exact .inl (by omega)
      · exact .inr ⟨by omega, lt_of_two_lt (by omega)⟩
    | case4 w => exact cons_lt_cons (by omega) (by omega) (.inl (by omega))
  | case4 v hv hv' hv'' =>
    fun_cases String.utf8EncodeChar d with
    | case1 w hw => omega
    | case2 w hw hw' => omega
    | case3 w hw hw' hw'' => omega
    | case4 w hw hw' hw'' =>
      refine cons_lt_cons (by omega) (by omega) ?_
      rcases Nat.lt_or_ge (v / 262144 % 8) (w / 262144 % 8) with hlead | hlead
      · exact .inl (by omega)
      · exact .inr ⟨by omega, lt_of_three_lt (by omega)⟩

/-! ## Texts -/

theorem encode_cons (c : Char) (cs : List Char) :
    encode (c :: cs) = String.utf8EncodeChar c ++ encode cs :=
  List.flatMap_cons

theorem encode_lt_encode {cs ds : List Char} (h : cs < ds) : encode cs < encode ds := by
  induction h with
  | @nil d ds =>
    obtain ⟨b, rest, hd⟩ := List.exists_cons_of_ne_nil (String.utf8EncodeChar_ne_nil (c := d))
    rw [encode_cons, hd]
    exact List.nil_lt_cons b _
  | @cons c cs ds _ ih =>
    rw [encode_cons, encode_cons]
    exact List.Lex.append_left _ ih _
  | @rel c cs d ds hlt =>
    rw [encode_cons, encode_cons]
    exact encode_lt_of_char_lt hlt

/-- **Strings are in the order of their bytes.** -/
theorem lt_iff_ofString_lt : a < b ↔ ofString a < ofString b := by
  have hkeeps : ∀ {a b : String}, a < b → ofString a < ofString b := fun h =>
    encode_lt_encode (String.lt_iff_toList_lt.1 h)
  refine ⟨hkeeps, fun h => ?_⟩
  by_contra hnot
  rcases lt_or_eq_of_le (not_lt.1 hnot) with hgt | heq
  · exact List.lt_asymm h (hkeeps hgt)
  · exact List.lt_irrefl _ (heq ▸ h)

end Utf8

end RestCall
