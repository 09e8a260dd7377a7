import RestCall.Proofs.Filter.Signature
import RestCall.Proofs.Text.Order
/-!
# RestCall — what a signed text says

The text that a signature covers joins the parameters in order, each as its
key and its encoded value, in lower case. No separator occurs in an encoded
value, but keys are covered as they are. Who reads the text takes the first
ampersand behind an equals sign for the end of a parameter, and its last
equals sign for that before the value. The parameters are found again in this
way, up to their order and the case of their letters, unless a key holds an
ampersand behind an equals sign (`covered_stringToSign`). So two queries
without such keys have the same text exactly when they have the same
parameters up to that (`stringToSign_eq_iff`). A key that does hold one is
covered like two parameters, and the signature of these is good for it
(`stringToSign_merged`).
-/

namespace RestCall

namespace Filter

variable {e : String × String} {q q' : Query} {cs rest key value : List Char}

/-! ## Parameters in a signed text -/

/-- A parameter up to letter case: the key in lower case, the value in ASCII
lower case. -/
def folded (e : String × String) : String × String := (Text.lower e.1, Text.foldName e.2)

/-- Whether a key is read as one: no ampersand comes behind an equals sign. -/
def Unbroken (key : String) : Prop := '&' ∉ key.toList.dropWhile (· != '=')

instance : DecidablePred Unbroken := fun key =>
  inferInstanceAs (Decidable ('&' ∉ key.toList.dropWhile (· != '=')))

/-- The text of one parameter: no equals sign before the first one, and no
ampersand behind it. -/
def IsEntry (cs : List Char) : Prop :=
  ∃ key value, cs = key ++ '=' :: value ∧ '=' ∉ key ∧ '&' ∉ value

/-- The texts of the parameters in a signed text. Carried along is whether
the equals sign of the present one has been met. -/
def entryTexts : Bool → List Char → List (List Char)
  | _, [] => [[]]
  | met, c :: rest =>
    if met && c == '&' then [] :: entryTexts false rest
    else (entryTexts (met || c == '=') rest).modifyHead (c :: ·)

/-- A parameter as it is read in a signed text, the value from behind the last
equals sign. -/
def readPart? (cs : List Char) : Option (String × String) := do
  let (value, key) ← Text.splitFirst (· == '=') cs.reverse
  return (String.ofList key.reverse, ← Percent.read? value.reverse)

/-- The parameters as they are read in a signed text. -/
def covered (text : String) : Entries :=
  (entryTexts false text.toList).filterMap readPart?

/-! ## Where a parameter ends -/

theorem entryTexts_key (h : '=' ∉ key) :
    entryTexts false (key ++ '=' :: rest) =
      (entryTexts true rest).modifyHead (key ++ '=' :: ·) := by
  induction key with
  | nil => rfl
  | cons c key ih =>
    rw [List.mem_cons, not_or] at h
    have hc : (c == '=') = false := beq_eq_false_iff_ne.2 (Ne.symm h.1)
    rw [List.cons_append, entryTexts, hc]
    simp [ih h.2, Function.comp_def]

theorem entryTexts_value (h : '&' ∉ value) : entryTexts true value = [value] := by
  induction value with
  | nil => rfl
  | cons c value ih =>
    rw [List.mem_cons, not_or] at h
    have hc : (c == '&') = false := beq_eq_false_iff_ne.2 (Ne.symm h.1)
    rw [entryTexts, hc, Bool.true_or, ih h.2]
    rfl

theorem entryTexts_value_append (h : '&' ∉ value) :
    entryTexts true (value ++ '&' :: rest) = value :: entryTexts false rest := by
  induction value with
  | nil => rfl
  | cons c value ih =>
    rw [List.mem_cons, not_or] at h
    have hc : (c == '&') = false := beq_eq_false_iff_ne.2 (Ne.symm h.1)
    rw [List.cons_append, entryTexts, hc, Bool.true_or, ih h.2]
    rfl

theorem entryTexts_entry (h : IsEntry cs) : entryTexts false cs = [cs] := by
  obtain ⟨key, value, rfl, hkey, hvalue⟩ := h
  rw [entryTexts_key hkey, entryTexts_value hvalue]
  rfl

theorem entryTexts_entry_append (h : IsEntry cs) :
    entryTexts false (cs ++ '&' :: rest) = cs :: entryTexts false rest := by
  obtain ⟨key, value, rfl, hkey, hvalue⟩ := h
  rw [List.append_assoc, List.cons_append, entryTexts_key hkey, entryTexts_value_append hvalue]
  rfl

/-- **Joined parameters are found again.** -/
theorem entryTexts_join {pieces : List String} (hne : pieces ≠ [])
    (h : ∀ piece ∈ pieces, IsEntry piece.toList) :
    entryTexts false (Text.join "&" pieces).toList = pieces.map String.toList := by
  induction pieces with
  | nil => exact absurd rfl hne
  | cons piece pieces ih =>
    rw [List.forall_mem_cons] at h
    cases pieces with
    | nil => exact entryTexts_entry h.1
    | cons next pieces =>
      have hjoin : (Text.join "&" (piece :: next :: pieces)).toList =
          piece.toList ++ '&' :: (Text.join "&" (next :: pieces)).toList := by
        rw [Text.join, String.toList_append, String.toList_append, List.append_assoc]
        · rfl
        · exact List.cons_ne_nil next pieces
      rw [hjoin, entryTexts_entry_append h.1, ih (List.cons_ne_nil _ _) h.2]
      rfl

theorem covered_join {pieces : List String} (h : ∀ piece ∈ pieces, IsEntry piece.toList) :
    covered (Text.join "&" pieces) = pieces.filterMap (readPart? ∘ String.toList) := by
  cases pieces with
  | nil => rfl
  | cons piece pieces =>
    rw [covered, entryTexts_join (List.cons_ne_nil _ _) h, List.filterMap_map]

/-! ## The text of one parameter -/

theorem divides_ampersand : Text.Divides '&' := ⟨by decide, by decide, by decide⟩

theorem divides_equals : Text.Divides '=' := ⟨by decide, by decide, by decide⟩

/-- Neither separator occurs in an encoded value. -/
theorem not_mem_encode_lowered {m : Char} (hm : Text.Divides m)
    (hreserved : Percent.isUnreserved m = false) (hne : m ≠ '%') (cs : List Char) :
    m ∉ (Percent.encode cs).map Text.lowerAscii := by
  intro hmem
  obtain ⟨d, hd, heq⟩ := List.mem_map.1 hmem
  obtain rfl := Text.eq_of_lowerAscii_eq hm heq
  rcases Percent.mem_encode hd with hu | hsign
  · rw [hreserved] at hu
    cases hu
  · exact hne hsign

/-- **The text of a parameter** is its key in lower case, an equals sign and
its encoded value in lower case. -/
theorem toList_signedEntry :
    (signedEntry e).toList =
      (Text.lower e.1).toList ++
        '=' :: (Percent.encode e.2.toList).map Text.lowerAscii := by
  have hascii : ∀ c ∈ Percent.encode e.2.toList, c.toNat < 0x80 := by
    intro c hc
    rcases Percent.mem_encode hc with hu | rfl
    · exact Percent.ascii_of_isUnreserved hu
    · decide
  have hsign : "=".toList = ['='] := rfl
  rw [signedEntry, Text.lower, Text.lower, Percent.encodeComponent, Percent.encodeSkipping_nil]
  simp only [String.toList_ofList, String.toList_append, hsign, List.append_assoc,
    List.singleton_append]
  rw [Text.lowerAfter_divided divides_equals, Text.lowerAfter_of_ascii hascii]

/-- **A parameter is read from its text**, up to letter case. -/
theorem readPart?_signedEntry : readPart? (signedEntry e).toList = some (folded e) := by
  have hvalue : '=' ∉ ((Percent.encode e.2.toList).map Text.lowerAscii).reverse := by
    rw [List.mem_reverse]
    exact not_mem_encode_lowered divides_equals (by decide) (by decide) _
  have hread : Percent.read? ((Percent.encode e.2.toList).map Text.lowerAscii) =
      some (Text.foldName e.2) := by
    rw [Percent.read?, Percent.decode_encode_lowered, Utf8.strict?_encode]
    rfl
  rw [readPart?, toList_signedEntry, List.reverse_append, List.reverse_cons, List.append_assoc,
    List.singleton_append, Text.splitFirst_beq_append hvalue]
  simp [hread, folded]

theorem isEntry_signedEntry (h : Unbroken e.1) : IsEntry (signedEntry e).toList := by
  have hvalue : '&' ∉ (Percent.encode e.2.toList).map Text.lowerAscii :=
    not_mem_encode_lowered divides_ampersand (by decide) (by decide) _
  rw [toList_signedEntry, Text.lower, String.toList_ofList]
  by_cases hmem : '=' ∈ e.1.toList
  · -- the first equals sign is that of the key, and what follows it there is free of ampersands
    obtain ⟨front, back, hkey, hfront⟩ := List.eq_append_cons_of_mem hmem
    have hback : '&' ∉ back := by
      rw [Unbroken, hkey, Text.dropWhile_append_of_not_mem hfront] at h
      exact fun hin => h (List.mem_cons_of_mem _ hin)
    rw [hkey, Text.lowerAfter_divided divides_equals, List.append_assoc, List.cons_append]
    refine ⟨_, _, rfl, fun hin => hfront (Text.mem_of_mem_lowerAfter divides_equals hin), ?_⟩
    rw [List.mem_append, List.mem_cons, not_or, not_or]
    exact ⟨fun hin => hback (Text.mem_of_mem_lowerAfter divides_ampersand hin), by decide, hvalue⟩
  · exact ⟨_, _, rfl, fun hin => hmem (Text.mem_of_mem_lowerAfter divides_equals hin), hvalue⟩

/-! ## The text of all parameters -/

/-- **Who reads a signed text** finds the parameters, up to their order and
the case of their letters. -/
theorem covered_stringToSign (h : ∀ e ∈ q.entries, Unbroken e.1) :
    (covered (stringToSign q)).Perm (q.entries.map folded) := by
  have hsorted := Text.sorted_perm (q.entries.map signedEntry)
  have hentries : ∀ piece ∈ Text.sorted (q.entries.map signedEntry), IsEntry piece.toList := by
    intro piece hpiece
    obtain ⟨e, he, rfl⟩ := List.mem_map.1 (hsorted.mem_iff.1 hpiece)
    exact isEntry_signedEntry (h e he)
  have hread : (readPart? ∘ String.toList) ∘ signedEntry = some ∘ folded :=
    funext fun e => readPart?_signedEntry
  rw [stringToSign, covered_join hentries]
  refine (hsorted.filterMap _).trans (.of_eq ?_)
  rw [List.filterMap_map, hread, List.filterMap_eq_map]

/-- The text of a parameter that is known up to letter case. -/
def foldedText (e : String × String) : String :=
  String.ofList (e.1.toList ++ '=' :: (Percent.encode e.2.toList).map Text.lowerAscii)

theorem signedEntry_eq : signedEntry e = foldedText (folded e) := by
  rw [← String.toList_inj, toList_signedEntry, foldedText, String.toList_ofList, folded,
    Text.foldName, String.toList_ofList, Percent.encode_lowered]

/-- **Parameters that are the same up to order and letter case** have one
text. -/
theorem stringToSign_congr (h : (q.entries.map folded).Perm (q'.entries.map folded)) :
    stringToSign q = stringToSign q' := by
  have htexts : (q.entries.map signedEntry).Perm (q'.entries.map signedEntry) := by
    have hfactor : signedEntry = foldedText ∘ folded := funext fun e => signedEntry_eq
    rw [hfactor, ← List.map_map, ← List.map_map]
    exact h.map foldedText
  rw [stringToSign, stringToSign, Text.sorted_eq_iff_perm.2 htexts]

/-- **The signed text determines the parameters**, up to their order and the
case of their letters, when in no key an ampersand comes behind an equals
sign. -/
theorem stringToSign_eq_iff (h : ∀ e ∈ q.entries, Unbroken e.1)
    (h' : ∀ e ∈ q'.entries, Unbroken e.1) :
    stringToSign q = stringToSign q' ↔
      (q.entries.map folded).Perm (q'.entries.map folded) := by
  refine ⟨fun heq => ?_, stringToSign_congr⟩
  have hread := covered_stringToSign h
  rw [heq] at hread
  exact hread.symm.trans (covered_stringToSign h')

/-- Separators in keys and values, a key with a capital beyond ASCII, and two
parameters that differ in letter case only. -/
theorem stringToSign_eq_iff_recased :
    (∀ e ∈ [("a&b=c", "x=1&Y"), ("ÄK", "é"), ("äk", "é")], Unbroken e.1) ∧
      (∀ e ∈ [("äk", "é"), ("äk", "é"), ("A&B=C", "X=1&y")], Unbroken e.1) ∧
      stringToSign ⟨[("a&b=c", "x=1&Y"), ("ÄK", "é"), ("äk", "é")]⟩ =
        stringToSign ⟨[("äk", "é"), ("äk", "é"), ("A&B=C", "X=1&y")]⟩ ∧
      (∀ e ∈ [("äk", "É"), ("äk", "é"), ("A&B=C", "X=1&y")], Unbroken e.1) ∧
      stringToSign ⟨[("a&b=c", "x=1&Y"), ("ÄK", "é"), ("äk", "é")]⟩ ≠
        stringToSign ⟨[("äk", "É"), ("äk", "é"), ("A&B=C", "X=1&y")]⟩ := by
  have h : ∀ e ∈ [("a&b=c", "x=1&Y"), ("ÄK", "é"), ("äk", "é")], Unbroken e.1 := by decide
  have h' : ∀ e ∈ [("äk", "é"), ("äk", "é"), ("A&B=C", "X=1&y")], Unbroken e.1 := by decide
  have h'' : ∀ e ∈ [("äk", "É"), ("äk", "é"), ("A&B=C", "X=1&y")], Unbroken e.1 := by decide
  refine ⟨h, h', (stringToSign_eq_iff h h').2 ?_, h'', fun heq => ?_⟩
  · decide
  · exact absurd ((stringToSign_eq_iff h h'').1 heq) (by decide)

/-- Two parameters. -/
def separate : Query := ⟨[("x", "1"), ("y", "2")]⟩

/-- One parameter, whose key reads like the first of them and the key of the
second. -/
def merged : Query := ⟨[("x=1&y", "2")]⟩

/-- An account to sign for. -/
def account : Credentials := ⟨"user", "key", none⟩

/-- **A key that holds an ampersand behind an equals sign** is covered like two
parameters: they have the same text, and still have it when the account is
named. So the signature made for the two is good for the one. -/
theorem stringToSign_merged :
    stringToSign separate = stringToSign merged ∧
      ¬ (separate.entries.map folded).Perm (merged.entries.map folded) ∧
      stringToSign (named account separate) = stringToSign (named account merged) ∧
      ¬ ((named account separate).entries.map folded).Perm
        ((named account merged).entries.map folded) ∧
      Verified account.secret ((named account merged).append signatureKey
        (sign account.secret (stringToSign (named account separate)))) := by
  have htext : stringToSign (named account separate) = stringToSign (named account merged) := by decide
  refine ⟨by decide, by decide, htext, by decide, ?_⟩
  rw [htext]
  exact verified_signQuery

end Filter

end RestCall
