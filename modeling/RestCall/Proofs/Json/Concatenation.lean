import RestCall.Proofs.Json.Path
/-!
# RestCall — paths put one behind another

A path is cut at its dots before anything else is read of it, so two paths with
a dot between them have the parts of the one, then those of the other
(`partsOf_append_dot`), and neither can mend what is malformed in the other.
What a part is made of does not depend on how it is read: a key, then numbers in
brackets, of which one may be missing (`ofPart?_eq_some_iff`). Only the sign for
the whole value is told by more than a part; it stands at the front of the first
path and nowhere else. So a joined path leads where the second leads from the
end of the first, and a number selects the same in brackets as behind a dot
(`at?_composed`).
-/

namespace RestCall

namespace Json

open Step

variable {cs ds key groups part : List Char} {ns ms : List Nat} {steps : List Step}
variable {parts : List (List Char)} {p q : String} {c : Char} {i : Nat}

/-! ## What a path is made of -/

/-- **Numbers in brackets**, one behind another; blanks may stand around them. -/
inductive Bracketed : List Char → List Nat → Prop
  | nil : Bracketed [] []
  | cons {inner rest : List Char} {n : Nat} {ns : List Nat} (hinner : ']' ∉ inner)
      (hbound : n ≤ Numeral.max64) (hnumeral : Numeral.IsNumeral n (Text.trim inner))
      (hrest : Bracketed rest ns) : Bracketed ('[' :: (inner ++ ']' :: rest)) (n :: ns)

/-- **A part of a path**: a key, and numbers in brackets behind it. One of the
two may be missing. -/
structure IsPart (cs key : List Char) (ns : List Nat) : Prop where
  filled : cs ≠ []
  key_plain : '[' ∉ key
  behind : ∃ groups, Bracketed groups ns ∧ cs = key ++ groups

/-- A path without the sign for the whole value in front. -/
def unrooted (cs : List Char) : List Char := (Text.after? ['$', '.'] cs).getD cs

/-- The parts of a path. -/
def partsOf (path : String) : List (List Char) :=
  Text.splitOn '.' (unrooted (Text.trim path.toList))

/-- **A well-formed path**: between its dots stand parts. -/
def IsPath (path : String) : Prop := ∀ part ∈ partsOf path, ∃ key ns, IsPart part key ns

/-! ## Brackets -/

theorem brackets?_of_bracketed (h : Bracketed cs ns) {count : Nat} (hcount : cs.length ≤ count) :
    brackets? count cs = some (ns.map .index) := by
  induction h generalizing count with
  | nil => rw [brackets?]; rfl
  | @cons inner rest n ns hinner hbound hnumeral _ ih =>
    cases count with
    | zero => simp at hcount
    | succ count =>
      have hposition : position? (Text.trim inner) = some n :=
        Numeral.natural?_eq_some_iff.2 ⟨hbound, hnumeral⟩
      have hrest : brackets? count rest = some (ns.map .index) := by
        refine ih ?_
        simp only [List.length_cons, List.length_append] at hcount
        omega
      rw [brackets?, if_pos rfl, Text.splitFirst_beq_append hinner]
      simp [hposition, hrest]

theorem bracketed_of_brackets? {count : Nat} (h : brackets? count cs = some steps) :
    ∃ ns, Bracketed cs ns ∧ steps = ns.map .index := by
  induction count generalizing cs steps with
  | zero =>
    cases cs with
    | nil => exact ⟨[], .nil, (Option.some.inj h).symm⟩
    | cons c cs => cases h
  | succ count ih =>
    cases cs with
    | nil => exact ⟨[], .nil, (Option.some.inj h).symm⟩
    | cons c cs =>
      rw [brackets?] at h
      split at h
      · rename_i hopen
        obtain ⟨⟨inner, after⟩, hsplit, hgroup⟩ := Option.bind_eq_some_iff.1 h
        obtain ⟨n, hn, hbehind⟩ := Option.bind_eq_some_iff.1 hgroup
        obtain ⟨further, hfurther, hsteps⟩ := Option.bind_eq_some_iff.1 hbehind
        obtain ⟨mark, hmark, rfl, hinner⟩ := Text.splitFirst_eq_some hsplit
        obtain ⟨ns, hns, rfl⟩ := ih hfurther
        obtain ⟨hbound, hnumeral⟩ := Numeral.natural?_eq_some_iff.1 hn
        have hplain : ']' ∉ inner := fun hmem => absurd (hinner _ hmem) (by decide)
        obtain rfl : mark = ']' := beq_iff_eq.1 hmark
        exact ⟨n :: ns, hopen ▸ .cons hplain hbound hnumeral hns, (Option.some.inj hsteps).symm⟩
      · cases h

theorem Bracketed.append (h : Bracketed cs ns) (h' : Bracketed ds ms) :
    Bracketed (cs ++ ds) (ns ++ ms) := by
  induction h with
  | nil => exact h'
  | cons hinner hbound hnumeral _ ih =>
    rw [List.cons_append, List.append_assoc, List.cons_append, List.cons_append]
    exact .cons hinner hbound hnumeral ih

/-- Brackets begin with one that opens. -/
theorem Bracketed.dropWhile_eq (h : Bracketed groups ns) :
    groups.dropWhile (· != '[') = groups := by
  cases h <;> rfl

/-! ## Parts -/

/-- The steps of the key of a part. -/
def keySteps (key : List Char) : List Step :=
  if key = [] then [] else [stepOf (String.ofList key)]

theorem keySteps_of_ne_nil (h : key ≠ []) : keySteps key = [stepOf (String.ofList key)] := if_neg h

/-- **A part is cut** in front of its first bracket. -/
theorem ofPart?_append (hkey : '[' ∉ key) (hgroups : groups.dropWhile (· != '[') = groups)
    (hfilled : key ++ groups ≠ []) :
    ofPart? (key ++ groups) = (brackets? groups.length groups).map (keySteps key ++ ·) := by
  have hplain : ∀ c ∈ key, (c != '[') = true := fun c hc => bne_iff_ne.2 fun heq => hkey (heq ▸ hc)
  have hdrop : (key ++ groups).dropWhile (· != '[') = groups := by
    rw [List.dropWhile_append_of_pos hplain, hgroups]
  have htake : (key ++ groups).takeWhile (· != '[') = key := by
    have hwhole := List.takeWhile_append_dropWhile (p := (· != '[')) (l := key ++ groups)
    rw [hdrop] at hwhole
    exact List.append_cancel_right hwhole
  rw [ofPart?, htake, hdrop]
  cases key with
  | nil =>
    have hempty : groups.isEmpty = false := by simpa using hfilled
    rw [hempty]
    simp [keySteps]
  | cons c cs =>
    rw [keySteps_of_ne_nil (List.cons_ne_nil c cs), stepOf, String.toList_ofList]
    cases position? (c :: cs) <;> cases brackets? groups.length groups <;> rfl

/-- **A part is read** as the step of its key and one for each number. -/
theorem ofPart?_eq_some_iff : ofPart? cs = some steps ↔
    ∃ key ns, IsPart cs key ns ∧ steps = keySteps key ++ ns.map .index := by
  constructor
  · intro h
    have hfilled : cs ≠ [] := by
      rintro rfl
      cases h
    have hsplit : cs = cs.takeWhile (· != '[') ++ cs.dropWhile (· != '[') :=
      List.takeWhile_append_dropWhile.symm
    have hkey : '[' ∉ cs.takeWhile (· != '[') := fun hmem =>
      absurd (List.mem_takeWhile_imp hmem) (by decide)
    have hfirst : ∀ c, (cs.dropWhile (· != '[')).head? = some c → (c != '[') = false :=
      fun _ hc => Text.not_of_head?_dropWhile (p := (· != '[')) hc
    have hgroups := Text.dropWhile_eq_self hfirst
    have hread := ofPart?_append hkey hgroups (hsplit ▸ hfilled)
    rw [← hsplit, h] at hread
    obtain ⟨further, hbrackets, rfl⟩ := Option.map_eq_some_iff.1 hread.symm
    obtain ⟨ns, hns, rfl⟩ := bracketed_of_brackets? hbrackets
    exact ⟨_, ns, ⟨hfilled, hkey, _, hns, hsplit⟩, rfl⟩
  · rintro ⟨key, ns, ⟨hfilled, hkey, groups, hgroups, rfl⟩, rfl⟩
    rw [ofPart?_append hkey hgroups.dropWhile_eq hfilled,
      brackets?_of_bracketed hgroups (Nat.le_refl _)]
    rfl

theorem IsPart.append (h : IsPart cs key ns) (h' : Bracketed ds ms) :
    IsPart (cs ++ ds) key (ns ++ ms) := by
  obtain ⟨hfilled, hkey, groups, hgroups, rfl⟩ := h
  exact ⟨List.append_ne_nil_of_left_ne_nil hfilled _, hkey, groups ++ ds, hgroups.append h',
    List.append_assoc _ _ _⟩

/-! ## Paths -/

/-- The steps of parts, one part after another. -/
def stepsOf? (parts : List (List Char)) : Option (List Step) :=
  (parts.mapM ofPart?).map List.flatten

/-- **A path is read** as its parts. -/
theorem ofPath?_eq (path : String) : ofPath? path = stepsOf? (partsOf path) := by
  have hread : ofPath? path = if (unrooted (Text.trim path.toList)).isEmpty then none
      else stepsOf? (partsOf path) := rfl
  rw [hread]
  split
  · rename_i hempty
    rw [partsOf, List.isEmpty_iff.1 hempty]
    rfl
  · rfl

theorem stepsOf?_append (front back : List (List Char)) : stepsOf? (front ++ back) =
    (stepsOf? front).bind fun steps => (stepsOf? back).map (steps ++ ·) := by
  rw [stepsOf?, List.mapM_append, stepsOf?, stepsOf?]
  cases front.mapM ofPart? with
  | none => rfl
  | some front =>
    cases back.mapM ofPart? with
    | none => rfl
    | some back => simp

theorem stepsOf?_singleton (part : List Char) : stepsOf? [part] = ofPart? part := by
  rw [stepsOf?, List.mapM_cons, List.mapM_nil]
  cases ofPart? part with
  | none => rfl
  | some steps => simp

theorem stepsOf?_isSome_iff : (∃ steps, stepsOf? parts = some steps) ↔
    ∀ part ∈ parts, ∃ key ns, IsPart part key ns := by
  induction parts with
  | nil => simp [stepsOf?]
  | cons part parts ih =>
    rw [List.forall_mem_cons, ← ih, ← List.singleton_append, stepsOf?_append, stepsOf?_singleton]
    constructor
    · rintro ⟨steps, h⟩
      obtain ⟨front, hfront, hback⟩ := Option.bind_eq_some_iff.1 h
      obtain ⟨back, hback, -⟩ := Option.map_eq_some_iff.1 hback
      obtain ⟨key, ns, hpart, -⟩ := ofPart?_eq_some_iff.1 hfront
      exact ⟨⟨key, ns, hpart⟩, back, hback⟩
    · rintro ⟨⟨key, ns, hpart⟩, back, hback⟩
      have hfront := ofPart?_eq_some_iff.2 ⟨key, ns, hpart, rfl⟩
      exact ⟨_, by rw [hfront, hback]; rfl⟩

/-- **A path has steps** when it is well-formed, and only then. -/
theorem ofPath?_isSome_iff : (∃ steps, ofPath? p = some steps) ↔ IsPath p := by
  rw [ofPath?_eq, stepsOf?_isSome_iff, IsPath]

theorem at?_of_not_isPath (h : ¬ IsPath p) (root : Json) : root.at? p = none := by
  have hnone : ofPath? p = none := by
    rw [Option.eq_none_iff_forall_ne_some]
    exact fun steps hsteps => h (ofPath?_isSome_iff.1 ⟨steps, hsteps⟩)
  rw [at?, hnone]
  rfl

/-! ## One path behind another -/

/-- **The sign for the whole value** is told by the first two characters, unless
the first path is that sign without its dot. -/
theorem unrooted_append (hroot : cs ≠ ['$']) (hc : c ≠ '$') (ds : List Char) :
    unrooted (cs ++ c :: ds) = unrooted cs ++ c :: ds := by
  have hother : ∀ {a : Char} (rest : List Char), a ≠ '$' → unrooted (a :: rest) = a :: rest := by
    intro a rest ha
    rw [unrooted, Text.after?, if_neg (Ne.symm ha)]
    rfl
  cases cs with
  | nil => exact hother ds hc
  | cons a cs =>
    by_cases ha : a = '$'
    · subst ha
      cases cs with
      | nil => exact absurd rfl hroot
      | cons b cs =>
        by_cases hb : b = '.'
        · rw [hb]
          rfl
        · simp [unrooted, Text.after?, Ne.symm hb]
    · rw [List.cons_append, hother _ ha, hother _ ha, List.cons_append]

theorem unrooted_of_not_prefix (h : ¬ "$.".toList <+: cs) : unrooted cs = cs := by
  cases hafter : Text.after? ['$', '.'] cs with
  | none => rw [unrooted, hafter, Option.getD_none]
  | some rest => exact absurd ⟨rest, (Text.after?_eq_some hafter).symm⟩ h

section Joined

variable (hp : Text.Tight p.toList) (hroot : p ≠ "$")
include hp hroot

/-- **What is put behind a path** has nothing to do with the sign for the whole
value in front of it. -/
theorem partsOf_append {s : String} (hs : s.toList = c :: ds) (hc : c ≠ '$')
    (hblank : Text.isBlank c = false) (hds : Text.Tight ds) :
    partsOf (p ++ s) = Text.splitOn '.' (unrooted (Text.trim p.toList) ++ s.toList) := by
  have hroot' : p.toList ≠ ['$'] := fun heq => hroot (String.toList_inj.1 heq)
  rw [partsOf, String.toList_append, hs, (hp.append_cons hblank hds).trim_eq, hp.trim_eq,
    unrooted_append hroot' hc]

/-- **A dot between two paths** parts them. -/
theorem partsOf_append_dot (hq : Text.Tight q.toList) (hrootless : ¬ "$.".toList <+: q.toList) :
    partsOf (p ++ "." ++ q) = partsOf p ++ partsOf q := by
  have hdot : ("." ++ q).toList = '.' :: q.toList := String.toList_append
  have hsecond : partsOf q = Text.splitOn '.' q.toList := by
    rw [partsOf, hq.trim_eq, unrooted_of_not_prefix hrootless]
  rw [String.append_assoc, partsOf_append hp hroot hdot (by decide) (by decide) hq, hdot,
    Text.splitOn_append_cons, hsecond, partsOf]

theorem ofPath?_append_dot (hq : Text.Tight q.toList) (hrootless : ¬ "$.".toList <+: q.toList) :
    ofPath? (p ++ "." ++ q) =
      (ofPath? p).bind fun steps => (ofPath? q).map (steps ++ ·) := by
  rw [ofPath?_eq, partsOf_append_dot hp hroot hq hrootless, stepsOf?_append, ← ofPath?_eq,
    ← ofPath?_eq]

/-- **A joined path** leads where the second leads from the end of the first. -/
theorem at?_append_dot (hq : Text.Tight q.toList) (hrootless : ¬ "$.".toList <+: q.toList)
    (root : Json) : root.at? (p ++ "." ++ q) = (root.at? p).bind fun v => v.at? q := by
  simp only [at?, ofPath?_append_dot hp hroot hq hrootless]
  cases ofPath? p with
  | none => rfl
  | some front =>
    cases ofPath? q with
    | none => simp
    | some back => simp [List.foldlM_append]

end Joined

/-! ## Numbers behind a path -/

/-- Characters that are no digits do not occur in a number. -/
theorem not_mem_toString (h : c.toNat < 0x30 ∨ 0x39 < c.toNat) : c ∉ (toString i).toList :=
  fun hmem => by
    have hdigit := Numeral.toNat_of_mem_toString hmem
    omega

theorem isDottable_toString (i : Nat) : IsDottable (toString i) where
  ne_empty := Numeral.toString_ne_empty i
  dot := not_mem_toString (by decide)
  bracket := not_mem_toString (by decide)
  blank c hc := by
    have hdigit := Numeral.toNat_of_mem_toString hc
    simp [Text.isBlank]
    omega

theorem position?_toString (hi : i ≤ Numeral.max64) : position? (toString i).toList = some i :=
  position?_eq_some_iff.2 ⟨hi, Numeral.isNumeral_toString i⟩

/-- **A number by itself** is a path to what stands at its place. -/
theorem at?_toString (hi : i ≤ Numeral.max64) (v : Json) :
    v.at? (toString i) = follow? v (.index i) := by
  have hkeys : ∀ key ∈ [toString i], IsDottable key :=
    List.forall_mem_singleton.2 (isDottable_toString i)
  have hroot : [toString i].head? ≠ some "$" := fun heq => by
    have hsign : '$' ∈ (toString i).toList := by
      rw [Option.some.inj heq]
      exact List.mem_singleton_self _
    exact not_mem_toString (by decide) hsign
  have hstep : stepOf (toString i) = .index i := by
    rw [stepOf, position?_toString hi]
  have hpath := at?_dotted_eq (List.cons_ne_nil _ _) hkeys hroot v
  rw [List.map_singleton, hstep] at hpath
  simpa [dotted, Text.join] using hpath

theorem toList_brackets (i : Nat) :
    ("[" ++ toString i ++ "]").toList = '[' :: ((toString i).toList ++ [']']) := by
  rw [String.toList_append, String.toList_append]
  rfl

theorem bracketed_toString (hi : i ≤ Numeral.max64) :
    Bracketed ("[" ++ toString i ++ "]").toList [i] := by
  rw [toList_brackets]
  refine .cons (not_mem_toString (by decide)) hi ?_ .nil
  rw [(Text.tight_of_not_blank (isDottable_toString i).blank).trim_eq]
  exact Numeral.isNumeral_toString i

/-- **A number in brackets** goes to the last part of a path. -/
theorem ofPath?_append_brackets (hp : Text.Tight p.toList) (hroot : p ≠ "$")
    (hi : i ≤ Numeral.max64) (h : ofPath? p = some steps) :
    ofPath? (p ++ "[" ++ toString i ++ "]") = some (steps ++ [.index i]) := by
  have hplain : '.' ∉ ("[" ++ toString i ++ "]").toList := by
    rw [toList_brackets, List.mem_cons, List.mem_append, List.mem_singleton]
    rintro (hopen | hdigit | hclose)
    · exact absurd hopen (by decide)
    · exact (isDottable_toString i).dot hdigit
    · exact absurd hclose (by decide)
  have htight : Text.Tight ((toString i).toList ++ [']']) :=
    (Text.tight_of_not_blank (isDottable_toString i).blank).append_cons (by decide)
      (Text.tight_of_not_blank (by simp))
  obtain ⟨front, last, hsplit, happend⟩ :=
    Text.splitOn_append_of_not_mem hplain (unrooted (Text.trim p.toList))
  rw [ofPath?_eq, partsOf, hsplit, stepsOf?_append, stepsOf?_singleton] at h
  obtain ⟨before, hbefore, hsteps⟩ := Option.bind_eq_some_iff.1 h
  obtain ⟨own, hown, rfl⟩ := Option.map_eq_some_iff.1 hsteps
  obtain ⟨key, ns, hpart, rfl⟩ := ofPart?_eq_some_iff.1 hown
  have hgrown : ofPart? (last ++ ("[" ++ toString i ++ "]").toList) =
      some (keySteps key ++ (ns ++ [i]).map .index) :=
    ofPart?_eq_some_iff.2 ⟨key, ns ++ [i], hpart.append (bracketed_toString hi), rfl⟩
  have hparts : partsOf (p ++ ("[" ++ toString i ++ "]")) =
      front ++ [last ++ ("[" ++ toString i ++ "]").toList] := by
    rw [partsOf_append hp hroot (toList_brackets i) (by decide) (by decide) htight, happend]
  have hjoined : p ++ "[" ++ toString i ++ "]" = p ++ ("[" ++ toString i ++ "]") := by
    simp only [String.append_assoc]
  rw [hjoined, ofPath?_eq, hparts, stepsOf?_append, stepsOf?_singleton, hbefore, hgrown]
  simp

theorem at?_append_brackets (hp : Text.Tight p.toList) (hroot : p ≠ "$") (h : IsPath p)
    (hi : i ≤ Numeral.max64) (root : Json) : root.at? (p ++ "[" ++ toString i ++ "]") =
      (root.at? p).bind fun v => follow? v (.index i) := by
  obtain ⟨steps, hsteps⟩ := ofPath?_isSome_iff.2 h
  simp only [at?, ofPath?_append_brackets hp hroot hi hsteps, hsteps]
  simp [List.foldlM_append]

/-- **Paths compose.** A path with blanks at neither end, other than the sign for
the whole value, and such a path behind a dot, without that sign in front, lead
where the second leads from the end of the first; nowhere, if either is
malformed. Behind a well-formed path a number in brackets and a number behind a
dot lead to the same value, the one at its place. -/
theorem at?_composed (hp : Text.Tight p.toList) (hroot : p ≠ "$") :
    (∀ q : String, Text.Tight q.toList → ¬ "$.".toList <+: q.toList → ∀ root : Json,
      root.at? (p ++ "." ++ q) = ((root.at? p).bind fun v => v.at? q) ∧
      (¬ IsPath p ∨ ¬ IsPath q → root.at? (p ++ "." ++ q) = none)) ∧
    (IsPath p → ∀ i ≤ Numeral.max64, ∀ root : Json,
      root.at? (p ++ "[" ++ toString i ++ "]") = root.at? (p ++ "." ++ toString i) ∧
      root.at? (p ++ "." ++ toString i) = (root.at? p).bind fun v => follow? v (.index i)) := by
  refine ⟨fun q hq hrootless root => ?_, fun h i hi root => ?_⟩
  · have hjoined := at?_append_dot hp hroot hq hrootless root
    refine ⟨hjoined, fun hmalformed => ?_⟩
    rw [hjoined]
    rcases hmalformed with hfirst | hsecond
    · rw [at?_of_not_isPath hfirst, Option.bind_none]
    · cases root.at? p with
      | none => rfl
      | some v => exact at?_of_not_isPath hsecond v
  · have hdot : root.at? (p ++ "." ++ toString i) =
        (root.at? p).bind fun v => follow? v (.index i) := by
      have htight := Text.tight_of_not_blank (isDottable_toString i).blank
      have hrootless : ¬ "$.".toList <+: (toString i).toList := fun hlead =>
        (isDottable_toString i).dot (hlead.subset (by decide))
      rw [at?_append_dot hp hroot htight hrootless]
      simp only [at?_toString hi]
    rw [hdot]
    exact ⟨at?_append_brackets hp hroot h hi root, rfl⟩

/-- Two servers, the second without a name. -/
def servers : Json :=
  .object [("list", .array [.object [("name", .string "a")], .object [("id", .string "b")]])]

theorem at?_composed_servers :
    (Text.Tight "$.list[ 0 ]".toList ∧ "$.list[ 0 ]" ≠ "$" ∧ IsPath "$.list[ 0 ]") ∧
      (Text.Tight "name".toList ∧ ¬ "$.".toList <+: "name".toList ∧
        servers.at? ("$.list[ 0 ]" ++ "." ++ "name") = some (.string "a")) ∧
      (Text.Tight "name[".toList ∧ ¬ "$.".toList <+: "name[".toList ∧ ¬ IsPath "name[" ∧
        servers.at? ("$.list[ 0 ]" ++ "." ++ "name[") = none) ∧
      7 ≤ Numeral.max64 ∧ servers.at? ("$.list[ 0 ]" ++ "[" ++ toString 7 ++ "]") =
        servers.at? ("$.list[ 0 ]" ++ "." ++ toString 7) := by
  have hfront : Text.Tight "$.list[ 0 ]".toList :=
    ⟨fun c hc => (by cases hc; decide), fun c hc => (by cases hc; decide)⟩
  have hname : Text.Tight "name".toList := Text.tight_of_not_blank (by simp [Text.isBlank])
  have hopen : Text.Tight "name[".toList := Text.tight_of_not_blank (by simp [Text.isBlank])
  have hpath : IsPath "$.list[ 0 ]" := ofPath?_isSome_iff.1 ⟨_, rfl⟩
  have hmalformed : ¬ IsPath "name[" := fun h => by
    obtain ⟨steps, hsteps⟩ := ofPath?_isSome_iff.2 h
    cases hsteps
  have hname' : ¬ "$.".toList <+: "name".toList := by decide
  have hopen' : ¬ "$.".toList <+: "name[".toList := by decide
  obtain ⟨hjoined, hnumber⟩ := at?_composed hfront (by decide)
  refine ⟨⟨hfront, by decide, hpath⟩, ⟨hname, hname', ?_⟩, ⟨hopen, hopen', hmalformed, ?_⟩,
    by decide, (hnumber hpath 7 (by decide) servers).1⟩
  · rw [(hjoined "name" hname hname' servers).1]
    rfl
  · exact (hjoined "name[" hopen hopen' servers).2 (.inr hmalformed)

end Json

end RestCall
