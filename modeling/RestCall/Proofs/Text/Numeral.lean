import Mathlib.Data.List.Basic
import RestCall.Text.Numeral
/-!
# RestCall — the ways to write a number

A reader of numerals takes more than it needs to: zeros in front of a number
and a plus sign change nothing. What it reads a number from is exactly the
number's own digits behind such an opening (`natural?_eq_some_iff`).
-/

namespace RestCall

namespace Numeral

variable {acc bound d n : Nat} {c : Char} {cs rest : List Char}

/-- **The digits of a number**, behind zeros. -/
def IsPadded (n : Nat) (cs : List Char) : Prop :=
  ∃ zeros, cs = List.replicate zeros '0' ++ Nat.toDigits 10 n

/-- **The ways to write a number**: its digits, behind zeros and a plus sign
that may be left out. -/
def IsNumeral (n : Nat) (cs : List Char) : Prop :=
  IsPadded n cs ∨ ∃ rest, cs = '+' :: rest ∧ IsPadded n rest

/-! ## Digits -/

theorem digit?_digitChar : ∀ d < 10, digit? 10 (Nat.digitChar d) = some d := by decide

/-- **A digit stands for its value**, and no other character for any. -/
theorem digit?_eq_some_iff : digit? 10 c = some d ↔ d < 10 ∧ c = Nat.digitChar d := by
  constructor
  · intro h
    obtain ⟨v, hv, hbound⟩ := Option.bind_eq_some_iff.1 h
    have hlt : v < 10 := by
      by_contra hge
      rw [if_neg hge] at hbound
      cases hbound
    obtain rfl : v = d := by simpa [hlt] using hbound
    refine ⟨hlt, Char.toNat_inj.1 ?_⟩
    rw [Nat.toNat_digitChar_of_lt_ten hlt]
    -- a letter would have a value of ten at least
    split at hv
    · rename_i hdigit
      simp only [Bool.and_eq_true, decide_eq_true_eq, Char.le_def, UInt32.le_iff_toNat_le]
        at hdigit
      have hfirst : '0'.toNat ≤ c.toNat := hdigit.1
      have hvalue : c.toNat - '0'.toNat = v := Option.some.inj hv
      simp only [Char.reduceToNat] at hfirst hvalue
      omega
    · split at hv
      · have hvalue := Option.some.inj hv
        omega
      · split at hv
        · have hvalue := Option.some.inj hv
          omega
        · cases hv
  · rintro ⟨hlt, rfl⟩
    exact digit?_digitChar d hlt

theorem digitsFrom_cons : digitsFrom 10 acc (c :: rest) = some n ↔
    ∃ d < 10, c = Nat.digitChar d ∧ digitsFrom 10 (acc * 10 + d) rest = some n := by
  rw [digitsFrom, Option.bind_eq_some_iff]
  simp only [digit?_eq_some_iff, and_assoc]

theorem digitsFrom_append (h : digitsFrom 10 acc cs = some n) (rest : List Char) :
    digitsFrom 10 acc (cs ++ rest) = digitsFrom 10 n rest := by
  induction cs generalizing acc with
  | nil =>
    obtain rfl : acc = n := Option.some.inj h
    rfl
  | cons c cs ih =>
    obtain ⟨d, hd, rfl, hrest⟩ := digitsFrom_cons.1 h
    rw [List.cons_append, digitsFrom, digit?_digitChar d hd]
    exact ih hrest

/-- **A number is read from its digits.** -/
theorem digitsFrom_toDigits (n : Nat) : digitsFrom 10 0 (Nat.toDigits 10 n) = some n := by
  induction n using Nat.strongRecOn with
  | ind n ih =>
    rcases Nat.lt_or_ge n 10 with hsmall | hlarge
    · rw [Nat.toDigits_of_lt_base hsmall, digitsFrom, digit?_digitChar n hsmall]
      exact congrArg some (by omega)
    · rw [Nat.toDigits_of_base_le (by decide) hlarge,
        digitsFrom_append (ih (n / 10) (by omega)), digitsFrom,
        digit?_digitChar (n % 10) (by omega)]
      exact congrArg some (by omega)

/-- **A number is read from no other digits** once a digit that counts has been
read. -/
theorem toDigits_append_of_digitsFrom (hacc : 0 < acc) (h : digitsFrom 10 acc cs = some n) :
    Nat.toDigits 10 acc ++ cs = Nat.toDigits 10 n := by
  induction cs generalizing acc with
  | nil => rw [List.append_nil, Option.some.inj h]
  | cons c cs ih =>
    obtain ⟨d, hd, rfl, hrest⟩ := digitsFrom_cons.1 h
    have hstep : Nat.toDigits 10 acc ++ [Nat.digitChar d] = Nat.toDigits 10 (acc * 10 + d) := by
      rw [Nat.mul_comm, ← Nat.toDigits_append_toDigits (by decide) hacc hd,
        Nat.toDigits_of_lt_base hd]
    rw [← ih (by omega) hrest, ← hstep, List.append_assoc, List.singleton_append]

theorem digitsFrom_replicate (zeros : Nat) (cs : List Char) :
    digitsFrom 10 0 (List.replicate zeros '0' ++ cs) = digitsFrom 10 0 cs := by
  induction zeros with
  | zero => rfl
  | succ zeros ih =>
    rw [List.replicate_succ, List.cons_append]
    exact ih

/-! ## Numerals -/

/-- **A number is read from its digits behind zeros**, and from nothing else. -/
theorem digits?_eq_some_iff : digits? 10 cs = some n ↔ IsPadded n cs := by
  constructor
  · intro h
    induction cs with
    | nil => cases h
    | cons c cs ih =>
      obtain ⟨d, hd, rfl, hrest⟩ := digitsFrom_cons.1 h
      rw [Nat.zero_mul, Nat.zero_add] at hrest
      rcases Nat.eq_zero_or_pos d with rfl | hpos
      · cases cs with
        | nil =>
          obtain rfl : 0 = n := Option.some.inj hrest
          exact ⟨0, rfl⟩
        | cons c' cs =>
          obtain ⟨zeros, hzeros⟩ := ih hrest
          exact ⟨zeros + 1, by rw [hzeros, List.replicate_succ, List.cons_append]; rfl⟩
      · refine ⟨0, ?_⟩
        rw [← toDigits_append_of_digitsFrom hpos hrest, Nat.toDigits_of_lt_base hd]
        rfl
  · rintro ⟨zeros, rfl⟩
    have hread := (digitsFrom_replicate zeros (Nat.toDigits 10 n)).trans (digitsFrom_toDigits n)
    cases hcs : List.replicate zeros '0' ++ Nat.toDigits 10 n with
    | nil => exact absurd (List.append_eq_nil_iff.1 hcs).2 Nat.toDigits_ne_nil
    | cons c rest => rwa [hcs] at hread

theorem not_isPadded_plus : ¬ IsPadded n ('+' :: rest) := by
  rw [← digits?_eq_some_iff]
  intro h
  obtain ⟨d, hd, hplus, -⟩ := digitsFrom_cons.1 h
  revert d
  decide

/-- **What a number is read from** is one of the ways to write it. -/
theorem natural?_eq_some_iff : natural? 10 bound cs = some n ↔ n ≤ bound ∧ IsNumeral n cs := by
  have hbound : ∀ {digits : List Char}, ((digits? 10 digits).bind fun n =>
      if n ≤ bound then some n else none) = some n ↔ n ≤ bound ∧ IsPadded n digits := by
    intro digits
    rw [← digits?_eq_some_iff, Option.bind_eq_some_iff]
    constructor
    · rintro ⟨m, hm, hle⟩
      split at hle
      · obtain rfl : m = n := Option.some.inj hle
        exact ⟨‹_›, hm⟩
      · cases hle
    · rintro ⟨hle, hn⟩
      exact ⟨n, hn, if_pos hle⟩
  by_cases hplus : ∃ rest, cs = '+' :: rest
  · -- a text with a plus sign is no padded number itself
    obtain ⟨rest, rfl⟩ := hplus
    rw [natural?, hbound, IsNumeral, or_iff_right not_isPadded_plus]
    refine and_congr_right fun _ => ⟨fun h => ⟨rest, rfl, h⟩, ?_⟩
    rintro ⟨rest', heq, h⟩
    rwa [(List.cons.inj heq).2]
  · have hunsigned : ∀ rest, cs ≠ '+' :: rest := not_exists.1 hplus
    rw [natural?, hbound, IsNumeral, or_iff_left fun h => hplus ⟨h.choose, h.choose_spec.1⟩]
    exact hunsigned

/-! ## The usual spelling -/

theorem toNat_of_isDigit (h : c.isDigit = true) : 0x30 ≤ c.toNat ∧ c.toNat ≤ 0x39 := by
  simp only [Char.isDigit, Bool.and_eq_true, decide_eq_true_eq, ge_iff_le,
    UInt32.le_iff_toNat_le] at h
  exact h

theorem toList_toString (n : Nat) : (toString n).toList = Nat.toDigits 10 n := by
  rw [Nat.toString_eq_ofList_toDigits, String.toList_ofList]

/-- The characters of a number are digits. -/
theorem toNat_of_mem_toString (h : c ∈ (toString n).toList) : 0x30 ≤ c.toNat ∧ c.toNat ≤ 0x39 := by
  rw [toList_toString] at h
  exact toNat_of_isDigit (Nat.isDigit_of_mem_toDigits (by decide) (Nat.le_refl 10) h)

theorem toString_ne_empty (n : Nat) : toString n ≠ "" := by
  rw [← String.toList_inj.ne, toList_toString]
  exact Nat.toDigits_ne_nil

/-- **A number as it is usually written** is a way to write it. -/
theorem isNumeral_toString (n : Nat) : IsNumeral n (toString n).toList :=
  .inl ⟨0, toList_toString n⟩

end Numeral

end RestCall
