import RestCall.Proofs.Encoding.Percent
import RestCall.Proofs.Text.Splitting
import RestCall.Proofs.Text.Utf8
/-!
# RestCall — characters left literal

Which characters an operation leaves literal is a matter of each character
alone: it is written as it is, or as the escapes of its bytes (`written`).
The encoder gets there in another way. It escapes the whole text and then
puts characters back one after another, over what the earlier ones have left.
As long as each percent sign of that text begins an escape, the escapes of a
character are found where the character stood and nowhere else, since no
character's bytes begin another's and further bytes begin none
(`restore_written`). Once the percent sign itself has been put back, literal
percent signs may begin what looks like an escape. So the encoder writes
character by character exactly when nothing that has an escape comes after
the percent sign (`encodeComponent_written_iff`); otherwise characters appear
that were not in the text, and order and repetitions matter
(`encodeComponent_misread`).
-/

namespace RestCall

namespace Percent

variable {b : UInt8} {c d : Char} {cs rest literal skip skip' before after : List Char}
variable {bytes bytes' : Bytes}

/-- A character as it is written when some are left literal: as it is, or as
the escapes of its bytes. -/
def written (skip : List Char) (c : Char) : List Char :=
  if isUnreserved c = true ∨ c ∈ skip then [c] else (String.utf8EncodeChar c).flatMap escape

/-- Whether no character that has an escape comes after the first percent
sign. -/
def PercentLast (skip : List Char) : Prop :=
  ∀ c ∈ (skip.dropWhile (· != '%')).tail, isUnreserved c = true

instance : DecidablePred PercentLast := fun skip =>
  List.decidableBAll (isUnreserved · = true) (skip.dropWhile (· != '%')).tail

/-! ## One character -/

theorem written_of_literal (h : isUnreserved c = true ∨ c ∈ skip) : written skip c = [c] :=
  if_pos h

theorem written_of_escaped (hc : isUnreserved c = false) (h : c ∉ skip) :
    written skip c = (String.utf8EncodeChar c).flatMap escape :=
  if_neg (not_or.2 ⟨Bool.eq_false_iff.1 hc, h⟩)

theorem written_nil : written [] = encodeChar := by
  funext c
  simp [written, encodeChar]

/-- What has no escape may be named or not, and order and repetitions are no
matter. -/
theorem written_congr (h : ∀ c, isUnreserved c = false → (c ∈ skip ↔ c ∈ skip')) :
    written skip = written skip' := by
  funext c
  cases hc : isUnreserved c with
  | true => rw [written_of_literal (.inl hc), written_of_literal (.inl hc)]
  | false => simp only [written, hc, h c hc]

/-- A text of literal characters is written as it is. -/
theorem flatMap_written_of_literal (h : ∀ c ∈ cs, isUnreserved c = true ∨ c ∈ skip) :
    cs.flatMap (written skip) = cs := by
  induction cs with
  | nil => rfl
  | cons c cs ih =>
    rw [List.forall_mem_cons] at h
    rw [List.flatMap_cons, written_of_literal h.1, ih h.2, List.singleton_append]

/-! ## Escapes of a character -/

/-- Texts of escapes that begin alike spell bytes that begin alike. -/
theorem prefix_or_prefix (h : bytes.flatMap escape ++ cs = bytes'.flatMap escape ++ rest) :
    bytes <+: bytes' ∨ bytes' <+: bytes := by
  induction bytes generalizing bytes' with
  | nil => exact .inl List.nil_prefix
  | cons b bytes ih =>
    cases bytes' with
    | nil => exact .inr List.nil_prefix
    | cons b' bytes' =>
      simp only [List.flatMap_cons, List.append_assoc] at h
      obtain ⟨rfl, htail⟩ := escape_inj h
      simpa only [List.prefix_cons_inj] using ih htail

/-- **The escapes of a character** are not met where another one's begin. -/
theorem not_prefix_escapes (hne : c ≠ d) :
    ¬ (String.utf8EncodeChar c).flatMap escape <+:
      (String.utf8EncodeChar d).flatMap escape ++ cs := by
  rintro ⟨rest, hrest⟩
  rcases prefix_or_prefix hrest with h | h
  · exact hne (Utf8.eq_of_begins h)
  · exact hne (Utf8.eq_of_begins h).symm

/-- They are not met at a byte that begins no character either. -/
theorem not_prefix_escape (h : Utf8.lead b = .refused) :
    ¬ (String.utf8EncodeChar c).flatMap escape <+: escape b ++ cs := by
  rintro ⟨rest, hrest⟩
  obtain ⟨b', bytes, hbytes⟩ := List.exists_cons_of_ne_nil (String.utf8EncodeChar_ne_nil (c := c))
  rw [hbytes, List.flatMap_cons, List.append_assoc] at hrest
  obtain ⟨rfl, -⟩ := escape_inj hrest
  exact Utf8.lead_ne_refused hbytes h

theorem head?_escapes_char : ((String.utf8EncodeChar c).flatMap escape).head? = some '%' :=
  head?_escapes String.utf8EncodeChar_ne_nil

theorem escapes_char_ne_nil : (String.utf8EncodeChar c).flatMap escape ≠ [] := by
  intro hnil
  have hhead := head?_escapes_char (c := c)
  rw [hnil] at hhead
  cases hhead

theorem replaceFrom_further (h : ∀ b ∈ bytes, Utf8.lead b = .refused) :
    replaceFrom ((String.utf8EncodeChar c).flatMap escape) literal 0 (bytes.flatMap escape ++ cs) =
      bytes.flatMap escape ++
        replaceFrom ((String.utf8EncodeChar c).flatMap escape) literal 0 cs := by
  induction bytes with
  | nil => rfl
  | cons b bytes ih =>
    rw [List.forall_mem_cons] at h
    rw [List.flatMap_cons, List.append_assoc, List.append_assoc,
      replaceFrom_escape head?_escapes_char (not_prefix_escape h.1), ih h.2]

/-- **The escapes of another character stay** when a character is put back. -/
theorem replaceFrom_escapes (hne : c ≠ d) :
    replaceFrom ((String.utf8EncodeChar c).flatMap escape) literal 0
        ((String.utf8EncodeChar d).flatMap escape ++ cs) =
      (String.utf8EncodeChar d).flatMap escape ++
        replaceFrom ((String.utf8EncodeChar c).flatMap escape) literal 0 cs := by
  have hfirst : ¬ (String.utf8EncodeChar c).flatMap escape <+:
      (String.utf8EncodeChar d).flatMap escape ++ cs := not_prefix_escapes hne
  have hfurther : ∀ b ∈ (String.utf8EncodeChar d).tail, Utf8.lead b = .refused :=
    fun _ => Utf8.lead_of_mem_tail
  obtain ⟨b, bytes, hbytes⟩ := List.exists_cons_of_ne_nil (String.utf8EncodeChar_ne_nil (c := d))
  rw [hbytes, List.flatMap_cons, List.append_assoc] at hfirst ⊢
  rw [hbytes, List.tail_cons] at hfurther
  rw [replaceFrom_escape head?_escapes_char hfirst, replaceFrom_further hfurther,
    List.append_assoc]

/-! ## Putting characters back -/

theorem restore_of_unreserved (h : isUnreserved c = true) : restore cs c = cs := by
  rw [restore, if_pos h]

theorem foldl_restore_of_unreserved (h : ∀ c ∈ skip, isUnreserved c = true) :
    skip.foldl restore cs = cs := by
  induction skip with
  | nil => rfl
  | cons c skip ih =>
    rw [List.forall_mem_cons] at h
    rw [List.foldl_cons, restore_of_unreserved h.1, ih h.2]

/-- **One more character is left literal** when it is put back, unless the
text has a percent sign that is literal already. -/
theorem restore_written (h : '%' ∉ cs ∨ '%' ∉ skip) (c : Char) :
    restore (cs.flatMap (written skip)) c = cs.flatMap (written (skip ++ [c])) := by
  cases hc : isUnreserved c with
  | true =>
    have hsame : written skip = written (skip ++ [c]) := written_congr fun d hd => by
      have hne : d ≠ c := by
        rintro rfl
        rw [hc] at hd
        cases hd
      simp [hne]
    rw [restore_of_unreserved hc, hsame]
  | false =>
    rw [restore, hc, encodeChar_of_reserved hc]
    induction cs with
    | nil => rfl
    | cons d cs ih =>
      have hcs : '%' ∉ cs ∨ '%' ∉ skip := h.imp_left fun hnot hmem => hnot (.tail d hmem)
      rw [List.flatMap_cons, List.flatMap_cons, ← ih hcs]
      by_cases hliteral : isUnreserved d = true ∨ d ∈ skip
      · -- a literal character is no percent sign, so no escape begins there
        have hd : d ≠ '%' := by
          rintro rfl
          rcases hliteral with hu | hmem
          · rw [isUnreserved_percent] at hu
            cases hu
          · exact h.elim (· List.mem_cons_self) (· hmem)
        have hkept : written (skip ++ [c]) d = [d] :=
          written_of_literal (hliteral.imp_right (List.mem_append_left [c]))
        rw [written_of_literal hliteral, hkept]
        exact replaceFrom_cons (not_prefix_of_head? head?_escapes_char hd)
      · have hd : isUnreserved d = false := Bool.eq_false_iff.2 (hliteral ∘ .inl)
        have hnot : d ∉ skip := hliteral ∘ .inr
        rw [written_of_escaped hd hnot]
        by_cases heq : c = d
        · subst heq
          have hback : written (skip ++ [c]) c = [c] :=
            written_of_literal (.inr List.mem_concat_self)
          rw [hback]
          exact replaceFrom_append escapes_char_ne_nil
        · have hstill : d ∉ skip ++ [c] := by simp [hnot, Ne.symm heq]
          rw [written_of_escaped hd hstill]
          exact replaceFrom_escapes heq

/-- **Characters are left literal one after another.** -/
theorem foldl_restore_written (h : '%' ∉ cs ∨ '%' ∉ before ++ after) :
    after.foldl restore (cs.flatMap (written before)) = cs.flatMap (written (before ++ after)) := by
  induction after generalizing before with
  | nil => rw [List.foldl_nil, List.append_nil]
  | cons c after ih =>
    have hbefore : '%' ∉ cs ∨ '%' ∉ before :=
      h.imp_right fun hnot hmem => hnot (List.mem_append_left _ hmem)
    rw [List.append_cons] at h ⊢
    rw [List.foldl_cons, restore_written hbefore, ih h]

/-! ## Whole texts -/

theorem length_le_length_encode (cs : List Char) : cs.length ≤ (encode cs).length := by
  induction cs with
  | nil => exact Nat.le_refl 0
  | cons c cs ih =>
    have hone : 1 ≤ (encodeChar c).length := by
      rw [encodeChar]
      split
      · exact Nat.le_refl 1
      · exact List.length_pos_iff.2 escapes_char_ne_nil
    rw [encode, List.flatMap_cons, List.length_append, List.length_cons]
    rw [encode] at ih
    omega

/-- **A text that is its own encoded form** has nothing to escape. -/
theorem encode_eq_self_iff : encode cs = cs ↔ ∀ c ∈ cs, isUnreserved c = true := by
  induction cs with
  | nil => exact ⟨fun _ c hc => absurd hc List.not_mem_nil, fun _ => rfl⟩
  | cons c cs ih =>
    rw [List.forall_mem_cons, encode, List.flatMap_cons]
    cases hc : isUnreserved c with
    | true =>
      rw [encodeChar, hc, and_iff_right rfl, ← ih]
      exact List.cons_inj_right c
    | false =>
      -- the escape of a byte has three characters
      obtain ⟨b, bytes, hbytes⟩ :=
        List.exists_cons_of_ne_nil (String.utf8EncodeChar_ne_nil (c := c))
      have hlen := length_le_length_encode cs
      refine ⟨fun heq => ?_, fun h => absurd h.1 Bool.false_ne_true⟩
      have hlength := congrArg List.length heq
      rw [encodeChar_of_reserved hc, hbytes, List.flatMap_cons] at hlength
      simp only [List.length_append, List.length_cons, escape, List.length_nil] at hlength
      rw [encode] at hlen
      omega

theorem encode_eq_written (cs : List Char) : encode cs = cs.flatMap (written []) := by
  rw [encode, written_nil]

/-- **What is put back up to the percent sign** is left literal. -/
theorem foldl_restore_percent (hbefore : '%' ∉ before) (cs : List Char) :
    (before ++ '%' :: after).foldl restore (encode cs) =
      after.foldl restore (cs.flatMap (written (before ++ ['%']))) := by
  have hwritten : before.foldl restore (cs.flatMap (written [])) = cs.flatMap (written before) :=
    foldl_restore_written (.inr hbefore)
  rw [List.foldl_append, encode_eq_written, hwritten, List.foldl_cons,
    restore_written (.inr hbefore)]

theorem percentLast_of_not_mem (h : '%' ∉ skip) : PercentLast skip := by
  rw [PercentLast, ← List.append_nil skip, Text.dropWhile_append_of_not_mem h]
  exact fun c hc => absurd hc List.not_mem_nil

theorem percentLast_append_iff (h : '%' ∉ before) :
    PercentLast (before ++ '%' :: after) ↔ ∀ c ∈ after, isUnreserved c = true := by
  rw [PercentLast, Text.dropWhile_append_of_not_mem h]
  rfl

/-- **A text is written character by character**, when it has no percent sign
or the percent sign is the last thing to be put back. -/
theorem encodeSkipping_eq_written (h : '%' ∉ cs ∨ PercentLast skip) :
    encodeSkipping skip cs = cs.flatMap (written skip) := by
  rw [encodeSkipping]
  split
  · next heq =>
    -- nothing is escaped, so nothing has to be put back
    have hall := encode_eq_self_iff.1 heq
    exact (flatMap_written_of_literal fun c hc => .inl (hall c hc)).symm
  · by_cases hskip : '%' ∈ cs ∧ '%' ∈ skip
    · obtain ⟨before, after, rfl, hbefore⟩ := List.eq_append_cons_of_mem hskip.2
      have hafter := (percentLast_append_iff hbefore).1 (h.resolve_left (not_not_intro hskip.1))
      have hsame : written (before ++ ['%']) = written (before ++ '%' :: after) :=
        written_congr fun c hc => by
          have hnot : c ∉ after := fun hmem => by
            rw [hafter c hmem] at hc
            cases hc
          simp [hnot]
      rw [foldl_restore_percent hbefore, foldl_restore_of_unreserved hafter, hsame]
    · rw [encode_eq_written]
      exact foldl_restore_written (Decidable.not_and_iff_not_or_not.1 hskip)

/-! ## Behind the percent sign -/

theorem restore_singleton : restore [d] c = [d] := by
  rw [restore]
  split
  · rfl
  · next hc =>
    have hnot : ¬ encodeChar c <+: [d] := by
      obtain ⟨b, bytes, hbytes⟩ :=
        List.exists_cons_of_ne_nil (String.utf8EncodeChar_ne_nil (c := c))
      intro hprefix
      have hlength := hprefix.length_le
      rw [encodeChar_of_reserved (Bool.eq_false_iff.2 hc), hbytes, List.flatMap_cons] at hlength
      simp [escape] at hlength
    rw [replaceFrom_cons hnot]
    rfl

theorem foldl_restore_singleton : skip.foldl restore [d] = [d] := by
  induction skip with
  | nil => rfl
  | cons c skip ih => rw [List.foldl_cons, restore_singleton, ih]

/-- Escapes are literal where the percent sign is. -/
theorem flatMap_written_encode (h : '%' ∈ skip) :
    (encode cs).flatMap (written skip) = encode cs := by
  refine flatMap_written_of_literal fun c hc => (mem_encode hc).imp_right ?_
  rintro rfl
  exact h

/-- **An escape that stood in the text** is taken for one of the encoder's
when its character is put back after the percent sign. -/
theorem encodeSkipping_misread (hbefore : '%' ∉ before) (hd : isUnreserved d = false)
    (hafter : ∀ c ∈ after, isUnreserved c = true) :
    encodeSkipping (before ++ '%' :: (after ++ d :: rest)) (encode [d]) = [d] := by
  have hescapes : encode [d] = (String.utf8EncodeChar d).flatMap escape := by
    rw [encode, List.flatMap_singleton, encodeChar_of_reserved hd]
  have hmem : '%' ∈ encode [d] := hescapes ▸ List.mem_of_head? head?_escapes_char
  have hwhole : encode (encode [d]) ≠ encode [d] := fun heq =>
    absurd (encode_eq_self_iff.1 heq _ hmem) (by decide)
  have hrestored : restore (encode [d]) d = [d] := by
    have hreplaced : replaceFrom ((String.utf8EncodeChar d).flatMap escape) [d] 0
        ((String.utf8EncodeChar d).flatMap escape ++ []) = [d] :=
      replaceFrom_append escapes_char_ne_nil
    rw [List.append_nil] at hreplaced
    rw [restore, hd, encodeChar_of_reserved hd, hescapes]
    exact hreplaced
  -- with the percent sign put back the text is what it was
  rw [encodeSkipping, if_neg hwhole, foldl_restore_percent hbefore,
    flatMap_written_encode List.mem_concat_self, List.foldl_append,
    foldl_restore_of_unreserved hafter, List.foldl_cons, hrestored, foldl_restore_singleton]

/-- Where something that has an escape comes after the percent sign, some text
is not written character by character. -/
theorem exists_misread (h : ¬ PercentLast skip) :
    ∃ cs, encodeSkipping skip cs ≠ cs.flatMap (written skip) := by
  have hmem : '%' ∈ skip := Decidable.byContradiction fun hnot => h (percentLast_of_not_mem hnot)
  obtain ⟨before, after, rfl, hbefore⟩ := List.eq_append_cons_of_mem hmem
  rw [percentLast_append_iff hbefore] at h
  -- the first of those that have an escape
  obtain ⟨d, hfind⟩ : ∃ d, after.find? (!isUnreserved ·) = some d := by
    rw [← Option.isSome_iff_exists, List.find?_isSome]
    simpa using h
  obtain ⟨hreserved, between, rest, rfl, hbetween⟩ := List.find?_eq_some_iff_append.1 hfind
  have hd : isUnreserved d = false := by simpa using hreserved
  have hmisread : encodeSkipping (before ++ '%' :: (between ++ d :: rest)) (encode [d]) = [d] :=
    encodeSkipping_misread hbefore hd (by simpa using hbetween)
  refine ⟨encode [d], fun heq => ?_⟩
  rw [hmisread, flatMap_written_encode hmem, eq_comm, encode_eq_self_iff] at heq
  rw [heq d (List.mem_singleton_self d)] at hd
  cases hd

/-! ## Names and values -/

/-- **What an operation leaves literal is a matter of each character alone**,
unless it puts something back after the percent sign. All names and values
are written character by character exactly when nothing that has an escape
comes after the percent sign; those that hold no percent sign always are. So
neither order nor repetitions matter then. -/
theorem encodeComponent_written_iff (skip : List Char) :
    ((∀ s : String,
        encodeComponent skip s = String.ofList (s.toList.flatMap (written skip))) ↔
      PercentLast skip) ∧
    (∀ s : String, '%' ∉ s.toList →
      encodeComponent skip s = String.ofList (s.toList.flatMap (written skip))) ∧
    ∀ (skip' : List Char) (s : String), (∀ c, c ∈ skip ↔ c ∈ skip') →
      '%' ∉ s.toList ∨ (PercentLast skip ∧ PercentLast skip') →
      encodeComponent skip s = encodeComponent skip' s := by
  have hwritten : ∀ {skip : List Char} {s : String}, '%' ∉ s.toList ∨ PercentLast skip →
      encodeComponent skip s = String.ofList (s.toList.flatMap (written skip)) := by
    intro skip s h
    rw [encodeComponent, encodeSkipping_eq_written h]
  refine ⟨⟨fun h => ?_, fun h s => hwritten (.inr h)⟩, fun s hs => hwritten (.inl hs), ?_⟩
  · refine Decidable.byContradiction fun hnot => ?_
    obtain ⟨cs, hcs⟩ := exists_misread hnot
    have heq := h (String.ofList cs)
    rw [encodeComponent, String.toList_ofList] at heq
    exact hcs (String.ofList_injective heq)
  · intro skip' s hsame h
    rw [hwritten (h.imp_right And.left), hwritten (h.imp_right And.right),
      written_congr fun c _ => hsame c]

/-- The percent sign comes last, behind a character of two bytes that has one
of them in common with another character of the text; and a text without
percent signs, where the percent sign comes first. -/
theorem encodeComponent_written_iff_accents :
    PercentLast ['/', 'é', '%'] ∧ PercentLast ['é', '/', 'é', '%'] ∧
      encodeComponent ['/', 'é', '%'] "a/b%2Fé©é," = "a/b%2Fé%C2%A9é%2C" ∧
      encodeComponent ['é', '/', 'é', '%'] "a/b%2Fé©é," = "a/b%2Fé%C2%A9é%2C" ∧
      '%' ∉ "a b/c".toList ∧ encodeComponent ['%', '/'] "a b/c" = "a%20b/c" := by
  obtain ⟨hiff, -, hsame⟩ := encodeComponent_written_iff ['/', 'é', '%']
  have hlast : PercentLast ['/', 'é', '%'] := by decide
  have hlast' : PercentLast ['é', '/', 'é', '%'] := by decide
  have hmem : ∀ c, c ∈ ['/', 'é', '%'] ↔ c ∈ ['é', '/', 'é', '%'] := by grind
  have haccents : encodeComponent ['/', 'é', '%'] "a/b%2Fé©é," = "a/b%2Fé%C2%A9é%2C" := by
    rw [hiff.2 hlast]
    rfl
  have hplain : '%' ∉ "a b/c".toList := by decide
  refine ⟨hlast, hlast', haccents, ?_, hplain, ?_⟩
  · rw [← hsame _ _ hmem (.inr ⟨hlast, hlast'⟩), haccents]
  · rw [(encodeComponent_written_iff ['%', '/']).2.1 _ hplain]
    rfl

/-- **Behind the percent sign** a character is put back where only its escape
stood in the text, and order and repetitions matter. -/
theorem encodeComponent_misread :
    encodeComponent ['%', '/'] "%2F" = "/" ∧
      String.ofList ("%2F".toList.flatMap (written ['%', '/'])) = "%2F" ∧
      encodeComponent ['/', '%'] "%2F" = "%2F" ∧
      encodeComponent ['%', '%'] "%25" = "%" ∧ encodeComponent ['%'] "%25" = "%25" := by
  decide

end Percent

end RestCall
