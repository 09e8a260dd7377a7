import RestCall.Text.Case
/-!
# RestCall — lower case and what divides a text

How a character is lowered depends on its surroundings, and these end at a
mark that divides words. So a text is lowered part by part
(`lowerAfter_divided`). Nothing but a mark becomes that mark, so marks stay
where they were and no new ones appear (`mem_of_mem_lowerAfter`). A text of
ASCII characters has no surroundings to speak of.
-/

namespace RestCall

namespace Text

variable {m c d : Char} {cs rest before more : List Char} {n : Nat}

/-! ## ASCII -/

theorem lowerAfter_cons_of_ascii (h : c.toNat < 0x80) :
    lowerAfter before (c :: rest) = lowerAscii c :: lowerAfter (c :: before) rest := by
  have hsigma : ¬ (c.toNat == 0x3A3) = true := by
    rw [beq_iff_eq]
    omega
  have hlow : lowerChar c = [lowerAscii c] := if_pos h
  rw [lowerAfter, if_neg hsigma, hlow, List.singleton_append]

/-- A character that is not itself in ASCII lower case is one of the capitals. -/
theorem lowerAscii_cases (c : Char) :
    lowerAscii c = c ∨
      ∃ n < 26, c = Char.ofNat (n + 0x41) ∧ lowerAscii c = Char.ofNat (n + 0x61) := by
  unfold lowerAscii
  split
  · next hupper =>
    simp only [Bool.and_eq_true, decide_eq_true_eq, Char.le_def, UInt32.le_iff_toNat_le] at hupper
    have hbounds : 0x41 ≤ c.toNat ∧ c.toNat ≤ 0x5A := hupper
    refine .inr ⟨c.toNat - 0x41, by omega, ?_, congrArg Char.ofNat (by omega)⟩
    rw [Nat.sub_add_cancel hbounds.1, Char.ofNat_toNat]
  · exact .inl rfl

theorem lowerAscii_lowerAscii (c : Char) : lowerAscii (lowerAscii c) = lowerAscii c := by
  have hletters : ∀ n < 26, lowerAscii (Char.ofNat (n + 0x61)) = Char.ofNat (n + 0x61) := by decide
  rcases lowerAscii_cases c with hself | ⟨n, hn, -, hlower⟩
  · rw [hself, hself]
  · rw [hlower, hletters n hn]

/-- **ASCII characters are lowered one by one.** -/
theorem lowerAfter_of_ascii (h : ∀ c ∈ cs, c.toNat < 0x80) :
    lowerAfter before cs = cs.map lowerAscii := by
  induction cs generalizing before with
  | nil => rfl
  | cons c cs ih =>
    rw [List.forall_mem_cons] at h
    rw [lowerAfter_cons_of_ascii h.1, ih h.2, List.map_cons]

/-! ## What divides words -/

/-- Whether a character divides words: it stands before the letters, and
casing does not look past it. -/
structure Divides (m : Char) : Prop where
  pos : 0 < m.toNat
  lt : m.toNat < 0x41
  ignorable : isCaseIgnorable m = false

namespace Divides

theorem not_le (hm : Divides m) (hd : 0x41 ≤ d.toNat) : (decide (d ≤ m)) = false := by
  rw [decide_eq_false_iff_not, Char.le_def, UInt32.le_iff_toNat_le, Nat.not_le]
  exact Nat.lt_of_lt_of_le hm.lt hd

theorem ascii (hm : Divides m) : m.toNat < 0x80 := Nat.lt_trans hm.lt (by decide)

theorem cased (hm : Divides m) : isCased m = false := by
  have hupper := hm.not_le (d := 'A') (by decide)
  have hlower := hm.not_le (d := 'a') (by decide)
  simp only [isCased, hm.ascii, if_true, hupper, hlower, Bool.false_and, Bool.or_self]

theorem low (hm : Divides m) : lowerAscii m = m := by
  have hupper := hm.not_le (d := 'A') (by decide)
  simp only [lowerAscii, hupper, Bool.false_and, Bool.false_eq_true, if_false]

end Divides

theorem meetsCased_divided (hm : Divides m) : meetsCased (cs ++ m :: rest) = meetsCased cs := by
  induction cs with
  | nil => simp [meetsCased, hm.ignorable, hm.cased]
  | cons c cs ih =>
    cases hc : isCaseIgnorable c with
    | true => simpa [meetsCased, hc] using ih
    | false => simp [meetsCased, hc]

theorem lowerAfter_behind_divided (hm : Divides m) :
    lowerAfter (before ++ m :: more) cs = lowerAfter before cs := by
  induction cs generalizing before with
  | nil => rfl
  | cons c cs ih => rw [lowerAfter, lowerAfter, meetsCased_divided hm, ← List.cons_append, ih]

/-- **A text is lowered part by part.** -/
theorem lowerAfter_divided (hm : Divides m) :
    lowerAfter before (cs ++ m :: rest) = lowerAfter before cs ++ m :: lowerAfter [] rest := by
  induction cs generalizing before with
  | nil =>
    have hbehind : lowerAfter ([] ++ m :: before) rest = lowerAfter [] rest :=
      lowerAfter_behind_divided hm
    rw [List.nil_append] at hbehind
    rw [List.nil_append, lowerAfter_cons_of_ascii hm.ascii, hm.low, hbehind]
    rfl
  | cons c cs ih =>
    rw [List.cons_append, lowerAfter, lowerAfter, meetsCased_divided hm, ih, List.append_assoc]

/-! ## What becomes a mark -/

/-- No mapping leads to what stands before the letters. -/
theorem letters_le_lowerRuns : ∀ run ∈ lowerRuns, 0x41 ≤ (run.1 : Int) + run.2.2.2 := by
  decide +kernel

/-- Where a number stands for no character, the character is that of zero. -/
theorem toNat_ofNat_cases : (Char.ofNat n).toNat = n ∨ (Char.ofNat n).toNat = 0 := by
  by_cases h : n.isValidChar
  · rw [Char.ofNat, dif_pos h]
    exact .inl rfl
  · rw [Char.ofNat, dif_neg h]
    exact .inr rfl

theorem Divides.ne_ofNat (hm : Divides m) (hn : 0x41 ≤ n) : m ≠ Char.ofNat n := by
  rintro rfl
  have hpos := hm.pos
  have hlt := hm.lt
  rcases toNat_ofNat_cases (n := n) with heq | heq <;> omega

theorem eq_of_lowerAscii_eq (hm : Divides m) (h : lowerAscii c = m) : c = m := by
  rcases lowerAscii_cases c with hself | ⟨n, -, -, hlower⟩
  · exact hself.symm.trans h
  · exact absurd (h.symm.trans hlower) (hm.ne_ofNat (by omega))

/-- **Nothing but a mark becomes that mark.** -/
theorem eq_of_mem_lowerChar (hm : Divides m) (h : m ∈ lowerChar c) : c = m := by
  unfold lowerChar at h
  simp only at h
  split at h
  · exact eq_of_lowerAscii_eq hm (List.mem_singleton.1 h).symm
  · split at h
    · -- the dotted capital becomes a letter and its dot
      rcases List.mem_cons.1 h with hi | hdot
      · exact absurd hi (hm.ne_ofNat (n := 0x69) (by decide))
      · exact absurd (List.mem_singleton.1 hdot) (hm.ne_ofNat (by decide))
    · split at h
      · next _ first last step delta hrun =>
        have hletter : 0x41 ≤ (first : Int) + delta :=
          letters_le_lowerRuns _ (List.mem_of_find?_eq_some hrun)
        have hfirst : first ≤ c.toNat := by
          have hrange := List.find?_some hrun
          simp only [Bool.and_eq_true, decide_eq_true_eq] at hrange
          exact hrange.1
        split at h
        · exact absurd (List.mem_singleton.1 h) (hm.ne_ofNat (by omega))
        · exact (List.mem_singleton.1 h).symm
      · exact (List.mem_singleton.1 h).symm

/-- **No mark appears** when a text is lowered. -/
theorem mem_of_mem_lowerAfter (hm : Divides m) (h : m ∈ lowerAfter before cs) : m ∈ cs := by
  induction cs generalizing before with
  | nil => cases h
  | cons c cs ih =>
    rw [lowerAfter, List.mem_append] at h
    rcases h with h | h
    · split at h
      · -- neither form of the sigma is a mark
        refine absurd (List.mem_singleton.1 h) (hm.ne_ofNat ?_)
        split <;> decide
      · rw [eq_of_mem_lowerChar hm h]
        exact List.mem_cons_self
    · exact List.mem_cons_of_mem c (ih h)

end Text

end RestCall
