import RestCall.Proofs.Encoding.Percent
import RestCall.Proofs.Url.Scheme
/-!
# RestCall — where the marks of a URL stand

A question mark begins a query and a number sign a fragment, and in the text
of a URL they stand nowhere before these: the scheme is made of letters,
digits and three other characters, user information and path have the marks
escaped, no host holds one, and a path that is not divided ends at the first
of them. So the text of a URL without query and fragment is free of marks
(`unmarked_text`), and only a text that is free of them is read as such a
URL (`isBare_iff_unmarked`).
-/

namespace RestCall

namespace Url

variable {c : Char} {cs cs' rest : List Char} {set : Char → Bool} {n : Nat}

/-- What a query or a fragment begins with. -/
def isMark (c : Char) : Bool := c == '?' || c == '#'

/-- Whether a text is free of marks. -/
def Unmarked (cs : List Char) : Prop := ∀ c ∈ cs, isMark c = false

instance : DecidablePred Unmarked := fun cs => List.decidableBAll (isMark · = false) cs

theorem unmarked_iff : Unmarked cs ↔ '?' ∉ cs ∧ '#' ∉ cs := by
  constructor
  · intro h
    exact ⟨fun hquestion => absurd (h _ hquestion) (by decide),
      fun hnumber => absurd (h _ hnumber) (by decide)⟩
  · rintro ⟨hquestion, hnumber⟩ c hc
    have hne : c ≠ '?' ∧ c ≠ '#' := ⟨fun heq => hquestion (heq ▸ hc), fun heq => hnumber (heq ▸ hc)⟩
    simp [isMark, hne]

theorem unmarked_append : Unmarked (cs ++ cs') ↔ Unmarked cs ∧ Unmarked cs' :=
  List.forall_mem_append

theorem unmarked_cons : Unmarked (c :: cs) ↔ isMark c = false ∧ Unmarked cs :=
  List.forall_mem_cons

theorem Unmarked.mono (h : Unmarked cs) (hsub : cs' ⊆ cs) : Unmarked cs' :=
  fun c hc => h c (hsub hc)

theorem unmarked_flatten {css : List (List Char)} (h : ∀ cs ∈ css, Unmarked cs) :
    Unmarked css.flatten := by
  intro c hc
  obtain ⟨cs, hcs, hmem⟩ := List.mem_flatten.1 hc
  exact h cs hcs c hmem

/-- A class that holds no mark: it is enough to look at the two of them. -/
theorem not_isMark_of {p : Char → Bool} (hp : p '?' = false ∧ p '#' = false) (hc : p c = true) :
    isMark c = false := by
  have hquery : c ≠ '?' := by
    rintro rfl
    exact absurd (hp.1.symm.trans hc) Bool.false_ne_true
  have hfragment : c ≠ '#' := by
    rintro rfl
    exact absurd (hp.2.symm.trans hc) Bool.false_ne_true
  simp [isMark, hquery, hfragment]

/-- A class that holds both marks: what is outside it is none. -/
theorem not_isMark_of_not {p : Char → Bool} (hp : p '?' = true ∧ p '#' = true)
    (hc : p c = false) : isMark c = false :=
  not_isMark_of (p := fun c => !p c) (by rw [hp.1, hp.2]; exact ⟨rfl, rfl⟩) (by rw [hc]; rfl)

/-! ## Escapes -/

theorem unmarked_escape (b : UInt8) : Unmarked (Percent.escape b) := by
  intro c hc
  rcases Percent.mem_escape hc with hunreserved | rfl
  · exact not_isMark_of ⟨by decide, by decide⟩ hunreserved
  · decide

/-- **Escaping leaves no marks** but those that the set lets through. -/
theorem unmarked_escaped (h : ∀ c ∈ cs, set c = false → isMark c = false) :
    Unmarked (escaped set cs) := by
  intro d hd
  obtain ⟨c, hc, hd⟩ := List.mem_flatMap.1 hd
  split at hd
  · obtain ⟨b, -, hb⟩ := List.mem_flatMap.1 hd
    exact unmarked_escape b d hb
  · rename_i hset
    obtain rfl := List.mem_singleton.1 hd
    exact h d hc (Bool.eq_false_iff.2 hset)

theorem unmarked_escaped_path (cs : List Char) : Unmarked (escaped inPathSet cs) :=
  unmarked_escaped fun _ _ => not_isMark_of_not ⟨by decide, by decide⟩

theorem unmarked_escaped_user (cs : List Char) : Unmarked (escaped inUserSet cs) :=
  unmarked_escaped fun _ _ => not_isMark_of_not ⟨by decide, by decide⟩

/-! ## Scheme -/

/-- What a scheme is made of. -/
def isSchemeChar (c : Char) : Bool := c.isAlphanum || c == '+' || c == '-' || c == '.'

theorem isMark_lowerAscii (h : isMark c = false) : isMark (Text.lowerAscii c) = false := by
  unfold Text.lowerAscii
  split
  · rename_i hupper
    simp only [Bool.and_eq_true, decide_eq_true_eq, Char.le_def, UInt32.le_iff_toNat_le] at hupper
    change 65 ≤ c.toNat ∧ c.toNat ≤ 90 at hupper
    have hletters : ∀ n < 26, isMark (Char.ofNat (n + 97)) = false := by decide
    have hletter := hletters (c.toNat - 65) (by omega)
    rwa [show c.toNat - 65 + 97 = c.toNat + 32 by omega] at hletter
  · exact h

/-- **What is trimmed off** is no mark. -/
theorem unmarked_trimEndOf_iff {p : Char → Bool} (hp : p '?' = false ∧ p '#' = false) :
    Unmarked (Text.trimEndOf p cs) ↔ Unmarked cs := by
  constructor
  · intro h c hc
    cases hend : p c with
    | true => exact not_isMark_of hp hend
    | false => exact h c (Text.mem_trimEndOf hc hend)
  · intro h
    exact h.mono (Text.trimEndOf_isPrefix p cs).subset

theorem unmarked_trimmed_iff : Unmarked (trimmed cs) ↔ Unmarked cs := by
  have hedge : isEdge '?' = false ∧ isEdge '#' = false := ⟨by decide, by decide⟩
  change Unmarked (Text.trimEndOf isEdge (cs.dropWhile isEdge)) ↔ Unmarked cs
  rw [unmarked_trimEndOf_iff hedge]
  constructor
  · intro h c hc
    cases hlead : isEdge c with
    | true => exact not_isMark_of hedge hlead
    | false => exact h c (Text.mem_dropWhile hc hlead)
  · intro h
    exact h.mono (List.dropWhile_sublist _).subset

theorem not_isMark_of_isBreak (h : isBreak c = true) : isMark c = false :=
  not_isMark_of ⟨by decide, by decide⟩ h

theorem unmarked_of_unbroken (h : Unmarked (unbroken cs)) : Unmarked cs := by
  intro c hc
  cases hbreak : isBreak c with
  | true => exact not_isMark_of_isBreak hbreak
  | false => exact h c (List.mem_filter.2 ⟨hc, by rw [hbreak]; rfl⟩)

/-- **A scheme is free of marks**, as it is written and in normal form. -/
theorem unmarked_of_scheme? {name : String} (h : scheme? cs = some (name, rest)) :
    Unmarked name.toList ∧ ∃ front, Unmarked front ∧ cs = front ++ ':' :: rest := by
  cases cs with
  | nil => cases h
  | cons c cs =>
    simp only [scheme?] at h
    split at h
    · split at h
      · cases h
      · rename_i front rest' hsplit
        obtain ⟨mark, hmark, hcs, -⟩ := Text.splitFirst_eq_some hsplit
        rw [beq_iff_eq.1 hmark] at hcs
        split at h
        · rename_i hname
          cases h
          have hfront : Unmarked (unbroken front) := fun x hx =>
            not_isMark_of (p := isSchemeChar) ⟨by decide, by decide⟩ (List.all_eq_true.1 hname x hx)
          refine ⟨?_, front, unmarked_of_unbroken hfront, hcs⟩
          intro x hx
          rw [String.toList_ofList] at hx
          obtain ⟨y, hy, rfl⟩ := List.mem_map.1 hx
          exact isMark_lowerAscii (hfront y hy)
        · cases h
    · cases h

/-! ## Numeric hosts -/

theorem unmarked_digits (n : Nat) : Unmarked (toString n).toList := by
  intro c hc
  rw [Nat.toString_eq_ofList_toDigits, String.toList_ofList] at hc
  have hdigit := Nat.isDigit_of_mem_toDigits (by omega) (by omega) hc
  exact not_isMark_of ⟨by decide, by decide⟩ hdigit

theorem unmarked_ipv4Text (n : Nat) : Unmarked (ipv4Text n).toList := by
  have hdot : Unmarked ".".toList := by decide
  have htext : ipv4Text n = toString (n / 16777216 % 256) ++ "." ++ toString (n / 65536 % 256) ++
      "." ++ toString (n / 256 % 256) ++ "." ++ toString (n % 256) := rfl
  simp only [htext, String.toList_append, unmarked_append]
  exact ⟨⟨⟨⟨⟨⟨unmarked_digits _, hdot⟩, unmarked_digits _⟩, hdot⟩, unmarked_digits _⟩, hdot⟩,
    unmarked_digits _⟩

theorem unmarked_ipv4? {address : String} (h : ipv4? cs = some address) :
    Unmarked address.toList := by
  obtain ⟨parts, -, h⟩ := Option.bind_eq_some_iff.1 h
  obtain ⟨n, -, h⟩ := Option.bind_eq_some_iff.1 h
  cases h
  exact unmarked_ipv4Text n

theorem unmarked_hex (n : Nat) : Unmarked (Numeral.hex n) := by
  have hdigits : ∀ n < 16, isMark (Numeral.hexDigit n) = false := by decide
  induction n using Numeral.hex.induct with
  | case1 n hlt =>
    rw [Numeral.hex, if_pos hlt]
    exact unmarked_cons.2 ⟨hdigits n hlt, fun _ h => absurd h List.not_mem_nil⟩
  | case2 n hle ih =>
    rw [Numeral.hex, if_neg hle]
    exact unmarked_append.2 ⟨ih, unmarked_cons.2
      ⟨hdigits _ (Nat.mod_lt _ (by omega)), fun _ h => absurd h List.not_mem_nil⟩⟩

theorem mem_of_mem_intersperse {sep : List Char} {css : List (List Char)}
    (h : cs ∈ css.intersperse sep) : cs = sep ∨ cs ∈ css := by
  fun_induction List.intersperse sep css with
  | case1 => cases h
  | case2 x => exact .inr h
  | case3 x y rest ih =>
    rcases List.mem_cons.1 h with rfl | h
    · exact .inr List.mem_cons_self
    rcases List.mem_cons.1 h with rfl | h
    · exact .inl rfl
    · exact (ih h).imp_right (List.mem_cons_of_mem _)

theorem unmarked_wordsText (words : List Nat) : Unmarked (wordsText words) := by
  unfold wordsText
  refine unmarked_flatten fun cs hcs => ?_
  rcases mem_of_mem_intersperse hcs with rfl | hmem
  · decide
  · obtain ⟨n, -, rfl⟩ := List.mem_map.1 hmem
    exact unmarked_hex n

theorem unmarked_ipv6Text (words : List Nat) : Unmarked (ipv6Text words) := by
  unfold ipv6Text
  dsimp only
  split
  · exact unmarked_wordsText words
  · exact unmarked_append.2 ⟨unmarked_append.2 ⟨unmarked_wordsText _, by decide⟩,
      unmarked_wordsText _⟩

/-! ## Authority -/

theorem unmarked_bracketedHost {host : List Char} (h : bracketedHost cs = .ok host) :
    Unmarked host := by
  unfold bracketedHost at h
  split at h
  · split at h
    · cases h
      exact unmarked_cons.2 ⟨by decide, unmarked_append.2 ⟨unmarked_ipv6Text _, by decide⟩⟩
    · cases h
  · cases h

/-- A domain name in plain form is free of marks, since no name holds them. -/
theorem unmarked_asciiDomain? {name : List Char} (h : asciiDomain? cs = some name) :
    Unmarked name := by
  unfold asciiDomain? at h
  obtain ⟨forms, -, h⟩ := Option.bind_eq_some_iff.1 h
  obtain ⟨labels, -, h⟩ := Option.bind_eq_some_iff.1 h
  dsimp only at h
  split at h
  · cases h
  · rename_i hname
    cases h
    rw [Bool.or_eq_true, not_or, List.any_eq_true] at hname
    intro c hc
    have hallowed : isForbidden c = false :=
      Bool.eq_false_iff.2 fun hforbidden => hname.1 ⟨c, hc, hforbidden⟩
    exact not_isMark_of_not ⟨by decide, by decide⟩ hallowed

theorem unmarked_webHost {host : List Char} (h : webHost cs = .ok host) : Unmarked host := by
  unfold webHost at h
  split at h
  · cases h
  · exact unmarked_bracketedHost h
  · split at h
    · cases h
    · cases h
    · rename_i domain _ hdomain
      obtain ⟨text, -, hname⟩ := Option.bind_eq_some_iff.1 hdomain
      split at h
      · split at h
        · rename_i address haddress
          cases h
          exact unmarked_ipv4? haddress
        · cases h
      · cases h
        exact unmarked_asciiDomain? hname

theorem unmarked_plainHost {host : List Char} (h : plainHost cs = .ok host) : Unmarked host := by
  unfold plainHost at h
  split at h
  · exact unmarked_bracketedHost h
  · split at h
    · cases h
    · rename_i hname
      cases h
      rw [List.any_eq_true] at hname
      refine unmarked_escaped fun c hc _ => ?_
      have hallowed : isForbiddenHost c = false :=
        Bool.eq_false_iff.2 fun hforbidden => hname ⟨c, hc, hforbidden⟩
      exact not_isMark_of_not ⟨by decide, by decide⟩ hallowed

theorem unmarked_userText (cs : List Char) : Unmarked (userText cs) := by
  unfold userText
  dsimp only
  split
  · decide
  · refine unmarked_append.2 ⟨unmarked_append.2 ⟨unmarked_escaped_user _, ?_⟩, by decide⟩
    split
    · decide
    · exact unmarked_cons.2 ⟨by decide, unmarked_escaped_user _⟩

theorem unmarked_portText {standard : Option Nat} {port : List Char}
    (h : portText standard cs = .ok (port, rest)) : Unmarked port := by
  unfold portText at h
  split at h
  · dsimp only at h
    split at h
    · cases h
    · -- a port that is shown is a colon and digits; that of the scheme is left out
      have hshown : ∀ n : Nat, Unmarked (':' :: (toString n).toList) :=
        fun n => unmarked_cons.2 ⟨by decide, unmarked_digits n⟩
      split at h
      · cases h
        split
        · decide
        · exact hshown _
      · cases h
        split
        · decide
        · exact hshown _
      · cases h
  · cases h
    decide

/-- **An authority is free of marks.** -/
theorem unmarked_authority {web : Option (Option Nat)} {endsText : Bool} {a : Authority}
    (h : Authority.parse web endsText cs = .ok a) : Unmarked a.text := by
  have htext : ∀ user host after port rest : List Char, Unmarked host →
      portText web.join after = .ok (port, rest) → Unmarked (userText user ++ host ++ port) :=
    fun user _ _ _ _ hhost hport =>
      unmarked_append.2 ⟨unmarked_append.2 ⟨unmarked_userText user, hhost⟩, unmarked_portText hport⟩
  unfold Authority.parse at h
  cases web with
  | some port =>
    simp only [bind_eq_ok_iff, guard_eq_ok_iff] at h
    obtain ⟨-, host, hhost, -, ⟨port, rest⟩, hport, -, ha⟩ := h
    cases ha
    exact htext _ host _ port rest (unmarked_webHost hhost) hport
  | none =>
    simp only [bind_eq_ok_iff, guard_eq_ok_iff] at h
    obtain ⟨-, host, hhost, -, ⟨port, rest⟩, hport, -, ha⟩ := h
    cases ha
    exact htext _ host _ port rest (unmarked_plainHost hhost) hport

/-! ## Path -/

/-- Whether all segments of a path are free of marks. -/
def Trail.Unmarked (t : Trail) : Prop := ∀ segment ∈ t.segments, Url.Unmarked segment

namespace Trail

variable {t : Trail} {file last : Bool} {segment : List Char}

theorem unmarked_add (h : Url.Unmarked segment) (ht : t.Unmarked) : (t.add segment).Unmarked :=
  List.forall_mem_cons.2 ⟨h, ht⟩

theorem unmarked_up (ht : t.Unmarked) : t.up.Unmarked := by
  unfold up
  split
  · exact ht
  · rename_i first rest hsegments
    split
    · exact ht
    · intro segment hsegment
      exact ht segment (by rw [hsegments]; exact List.mem_cons_of_mem _ hsegment)

theorem unmarked_follow (h : Url.Unmarked segment) (ht : t.Unmarked) :
    (t.follow file last segment).Unmarked := by
  have hnil : Url.Unmarked [] := by decide
  unfold follow
  split
  · split
    · exact unmarked_add hnil (unmarked_up ht)
    · exact unmarked_up ht
  · split
    · split
      · exact unmarked_add hnil ht
      · exact ht
    · exact unmarked_add h ht

theorem unmarked_cutDrive? {drive : List Char} (h : cutDrive? segment = some (drive, rest)) :
    Url.Unmarked drive := by
  unfold cutDrive? at h
  split at h
  · split at h
    · split at h
      · rename_i hdrive
        simp only [Bool.and_eq_true] at hdrive
        cases h
        have hletter := not_isMark_of (p := Char.isAlpha) ⟨by decide, by decide⟩ hdrive.1.1
        exact unmarked_cons.2 ⟨hletter, by decide⟩
      · cases h
    · cases h
  · cases h

/-- **A segment has its marks escaped** when it is entered. -/
theorem unmarked_enter (ht : t.Unmarked) : (t.enter file last segment).Unmarked := by
  unfold enter
  split
  · rename_i drive rest hcut
    split at hcut
    · exact unmarked_add (unmarked_escaped_path _) (unmarked_add (unmarked_cutDrive? hcut) ht)
    · cases hcut
  · exact unmarked_follow (unmarked_escaped_path _) ht

theorem unmarked_enterAll {segments : List (List Char)} (ht : t.Unmarked) :
    (enterAll file segments t).Unmarked := by
  fun_induction enterAll file segments t with
  | case1 t => exact ht
  | case2 segment t => exact unmarked_enter ht
  | case3 segment rest t _ ih => exact ih (unmarked_enter ht)

theorem unmarked_text (ht : t.Unmarked) : Url.Unmarked (t.text file) := by
  have hshown : ∀ segments : List (List Char), segments ⊆ t.segments →
      Url.Unmarked (if segments.isEmpty then ['/'] else segments.flatMap ('/' :: ·)) := by
    intro segments hsub
    split
    · decide
    · intro c hc
      obtain ⟨segment, hsegment, hc⟩ := List.mem_flatMap.1 hc
      exact unmarked_cons.2 ⟨by decide, ht segment (hsub hsegment)⟩ c hc
  unfold text
  refine hshown _ ?_
  -- in a file path empty segments at the front are dropped, which adds none
  split
  · exact fun s hs => List.mem_reverse.1 ((List.dropWhile_sublist _).subset hs)
  · exact fun s hs => List.mem_reverse.1 hs

end Trail

theorem unmarked_resolved (web file : Bool) (cs : List Char) :
    Unmarked ((resolved web file cs).text file) :=
  Trail.unmarked_text (Trail.unmarked_enterAll fun _ h => absurd h List.not_mem_nil)

/-! ## Hierarchies -/

/-- Whether authority and path are free of marks. -/
structure Hierarchy.Unmarked (h : Hierarchy) : Prop where
  authority : ∀ a, h.authority = some a → Url.Unmarked a
  path : Url.Unmarked h.path

variable {hierarchy : Hierarchy}

theorem unmarked_webHierarchy {port : Option Nat} (h : webHierarchy port cs = .ok hierarchy) :
    hierarchy.Unmarked := by
  unfold webHierarchy at h
  obtain ⟨a, ha, h⟩ := bind_eq_ok_iff.1 h
  cases h
  refine ⟨?_, unmarked_resolved true false _⟩
  rintro _ ⟨⟩
  exact unmarked_authority ha

theorem unmarked_filePath {host : List Char} (hhost : Unmarked host) :
    (filePath host cs).Unmarked := by
  refine ⟨?_, unmarked_resolved true true _⟩
  rintro _ ⟨⟩
  split
  · decide
  · exact hhost

theorem unmarked_fileHierarchy (h : fileHierarchy cs = .ok hierarchy) : hierarchy.Unmarked := by
  have hnil : Unmarked [] := by decide
  unfold fileHierarchy at h
  split at h
  · cases h
    exact unmarked_filePath hnil
  · dsimp only at h
    split at h
    · -- a drive where the host would be
      cases h
      refine ⟨?_, unmarked_resolved true true _⟩
      rintro _ ⟨⟩
      exact hnil
    · split at h
      · cases h
        exact unmarked_filePath hnil
      · obtain ⟨host, hhost, h⟩ := bind_eq_ok_iff.1 h
        cases h
        refine unmarked_filePath ?_
        -- the local host is left out
        split
        · exact hnil
        · exact unmarked_webHost hhost

/-- A path that is not divided keeps its characters, so it must not hold a
mark itself. -/
theorem unmarked_plainHierarchy {endsText : Bool} (hcs : Unmarked cs)
    (h : plainHierarchy endsText cs = .ok hierarchy) : hierarchy.Unmarked := by
  unfold plainHierarchy at h
  split at h
  · obtain ⟨a, ha, h⟩ := bind_eq_ok_iff.1 h
    cases h
    constructor
    · rintro _ ⟨⟩
      exact unmarked_authority ha
    · dsimp only
      split
      · decide
      · exact unmarked_resolved false false _
  · cases h
    constructor
    · rintro _ ⟨⟩
    · dsimp only
      split
      · exact unmarked_append.2 ⟨by decide, unmarked_resolved false false _⟩
      · exact unmarked_resolved false false _
  · cases h
    constructor
    · rintro _ ⟨⟩
    · exact unmarked_escaped fun c hc _ => hcs c hc

/-! ## The whole -/

theorem cutAt_of_not_mem {mark : Char} (h : mark ∉ cs) : cutAt mark cs = (cs, none) := by
  have hnone : Text.splitFirst (· == mark) cs = none :=
    Text.splitFirst_eq_none_iff.2 fun c hc => beq_eq_false_iff_ne.2 fun heq => h (heq ▸ hc)
  rw [cutAt, hnone]

/-- **A text is cut before its first mark**, if there is one. -/
theorem cutAt_spec (mark : Char) (cs : List Char) :
    (cutAt mark cs).1 ⊆ cs ∧ mark ∉ (cutAt mark cs).1 ∧
      ((cutAt mark cs).2 = none ↔ mark ∉ cs) := by
  by_cases hmark : mark ∈ cs
  · cases hsplit : Text.splitFirst (· == mark) cs with
    | none =>
      have hne := Text.splitFirst_eq_none_iff.1 hsplit mark hmark
      rw [beq_self_eq_true] at hne
      cases hne
    | some parts =>
      obtain ⟨_, -, hcs, hbefore⟩ := Text.splitFirst_eq_some hsplit
      rw [cutAt, hsplit]
      refine ⟨hcs ▸ List.subset_append_left _ _, fun hmem => ?_, ?_⟩
      · exact beq_eq_false_iff_ne.1 (hbefore mark hmem) rfl
      · exact ⟨fun hnone => (by cases hnone), fun hnot => absurd hmark hnot⟩
  · rw [cutAt_of_not_mem hmark]
    exact ⟨fun _ h => h, hmark, fun _ => hmark, fun _ => rfl⟩

/-- **What is left of a text** without fragment and query is free of marks;
there is neither when the whole text is. -/
theorem unmarked_body (cs : List Char) :
    Unmarked (cutAt '?' (cutAt '#' cs).1).1 ∧
      ((cutAt '?' (cutAt '#' cs).1).2 = none ∧ (cutAt '#' cs).2 = none ↔ Unmarked cs) := by
  obtain ⟨-, hnumber, hfragment⟩ := cutAt_spec '#' cs
  obtain ⟨hsub, hquestion, hquery⟩ := cutAt_spec '?' (cutAt '#' cs).1
  -- the query is looked for in front of the fragment, so neither mark is in what is left
  refine ⟨unmarked_iff.2 ⟨hquestion, fun hmem => hnumber (hsub hmem)⟩, ?_⟩
  rw [hquery, hfragment, unmarked_iff]
  by_cases hmem : '#' ∈ cs
  · simp [hmem]
  · rw [cutAt_of_not_mem hmem]

variable {s : String} {u : Url}

/-- **A URL is put together** from a scheme and a hierarchy without marks;
it is bare when no mark stands in what follows the scheme. -/
theorem exists_of_parse (h : parse s = .ok u) :
    ∃ (rest : List Char) (hierarchy : Hierarchy),
      scheme? (trimmed s.toList) = some (u.scheme, rest) ∧ hierarchy.Unmarked ∧
      u.authority = hierarchy.authority.map String.ofList ∧
      u.path = String.ofList hierarchy.path ∧ (u.isBare = true ↔ Unmarked rest) := by
  unfold parse at h
  split at h
  · cases h
  · rename_i scheme rest hscheme
    obtain ⟨hbody, hrest⟩ := unmarked_body rest
    dsimp only at h
    -- a web URL, a file URL, or any other: only the last may keep its path undivided
    split at h
    · obtain ⟨hierarchy, hmade, h⟩ := bind_eq_ok_iff.1 h
      cases h
      exact ⟨rest, hierarchy, hscheme, unmarked_webHierarchy hmade, rfl, rfl, by simpa [isBare]⟩
    · obtain ⟨hierarchy, hmade, h⟩ := bind_eq_ok_iff.1 h
      cases h
      exact ⟨rest, hierarchy, hscheme, unmarked_fileHierarchy hmade, rfl, rfl, by simpa [isBare]⟩
    · obtain ⟨hierarchy, hmade, h⟩ := bind_eq_ok_iff.1 h
      cases h
      have hunbroken := hbody.mono (List.filter_sublist.subset : unbroken _ ⊆ _)
      exact ⟨rest, hierarchy, hscheme, unmarked_plainHierarchy hunbroken hmade, rfl, rfl,
        by simpa [isBare]⟩

/-- **The text of a bare URL is free of marks.** -/
theorem unmarked_text (h : parse s = .ok u) (hbare : u.isBare = true) : Unmarked u.text.toList := by
  obtain ⟨rest, hierarchy, hscheme, hunmarked, hauthority, hpath, -⟩ := exists_of_parse h
  rw [isBare, Bool.and_eq_true, Option.isNone_iff_eq_none, Option.isNone_iff_eq_none] at hbare
  have hslashes : Unmarked (marked "//" u.authority).toList := by
    rw [hauthority]
    cases ha : hierarchy.authority with
    | none => decide
    | some a =>
      rw [Option.map_some, marked, String.toList_append]
      refine unmarked_append.2 ⟨by decide, ?_⟩
      rw [String.toList_ofList]
      exact hunmarked.authority a ha
  rw [text, hbare.1, hbare.2, hpath]
  simp only [String.toList_append, String.toList_ofList, unmarked_append]
  exact ⟨⟨⟨⟨⟨(unmarked_of_scheme? hscheme).1, by decide⟩, hslashes⟩, hunmarked.path⟩, by decide⟩,
    by decide⟩

/-- **A URL is bare** when its text has been read from one without marks. -/
theorem isBare_iff_unmarked (h : parse s = .ok u) : u.isBare = true ↔ Unmarked s.toList := by
  obtain ⟨rest, -, hscheme, -, -, -, hrest⟩ := exists_of_parse h
  obtain ⟨-, front, hfront, htrimmed⟩ := unmarked_of_scheme? hscheme
  -- the scheme and its colon hold no mark, so what follows them decides
  have htext : Unmarked (trimmed s.toList) ↔ Unmarked rest := by
    rw [htrimmed, unmarked_append, unmarked_cons, and_iff_right hfront, and_iff_right (by decide)]
  rw [hrest, ← htext, unmarked_trimmed_iff]

end Url

end RestCall
