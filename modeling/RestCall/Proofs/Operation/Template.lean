import Mathlib.Data.List.Chain
import RestCall.Operation.Template
import RestCall.Proofs.Text.Lines
/-!
# RestCall — the grammar of templates

A template is written as a sequence of pieces: characters other than braces,
and groups of a name in braces. The texts that are templates are those that
pieces spell, and pieces determine the parts (`scan_eq_ok_iff`): runs of
characters become literals, groups become slots. What the parts spell is the
text with nothing but the blanks around names removed (`render_parts`).

Parts that come from a text have a canonical form (`canonicalFrom_parts`). Parts
in that form are read from what they spell exactly when no name has a brace
(`parse_render_iff`), and those that come from a text have none.
-/

namespace RestCall

namespace Token

/-- The text of a part. -/
def spelled : Token → List Char
  | literal text => text.toList
  | slot name _ => '\x7b' :: (name.toList ++ ['\x7d'])

/-- Whether a part is a literal. -/
def IsLiteral : Token → Prop
  | literal _ => True
  | slot _ _ => False

/-- The argument of a slot. -/
def argument? : Token → Option Nat
  | literal _ => none
  | slot _ argument => some argument

end Token

namespace Template

/-- A piece of the text of a template. -/
inductive Piece where
  | plain (c : Char)
  | group (name : List Char)

/-- A text without braces. -/
def Unbraced (cs : List Char) : Prop := '\x7b' ∉ cs ∧ '\x7d' ∉ cs

namespace Piece

/-- The text of a piece. -/
def text : Piece → List Char
  | plain c => [c]
  | group name => '\x7b' :: (name ++ ['\x7d'])

/-- No brace but those of groups, and a name in each group. -/
def IsValid : Piece → Prop
  | plain c => Unbraced [c]
  | group name => Unbraced name ∧ Text.trim name ≠ []

/-- A piece without the blanks around its name. -/
def tightened : Piece → Piece
  | plain c => plain c
  | group name => group (Text.trim name)

end Piece

/-- The text of some pieces. -/
def spelled (ps : List Piece) : List Char := ps.flatMap Piece.text

/-- **The texts of templates**: characters other than braces, and groups. -/
def Grammatical (cs : List Char) : Prop := ∃ ps : List Piece, (∀ p ∈ ps, p.IsValid) ∧ spelled ps = cs

/-- **One text is another** with only the blanks around names removed. -/
def Tightens (cs tight : List Char) : Prop :=
  ∃ ps : List Piece, (∀ p ∈ ps, p.IsValid) ∧ spelled ps = cs ∧
    spelled (ps.map Piece.tightened) = tight

/-- The parts that pieces stand for, behind a literal in reverse, with the
number of the next slot. -/
def parts : (literal : List Char) → (next : Nat) → List Piece → List Token
  | literal, _, [] => literalTokens literal
  | literal, next, .plain c :: ps => parts (c :: literal) next ps
  | literal, next, .group name :: ps =>
    literalTokens literal ++ .slot (String.ofList (Text.trim name)) next :: parts [] (next + 1) ps

variable {c : Char} {cs name literal rest : List Char} {next : Nat} {p : Piece}
variable {ps : List Piece} {tokens : List Token} {slot : Option (List Char)}

theorem unbraced_cons : Unbraced (c :: cs) ↔ Unbraced [c] ∧ Unbraced cs := by
  simp only [Unbraced, List.mem_cons, List.not_mem_nil, or_false, not_or]
  exact and_and_and_comm

theorem unbraced_singleton : Unbraced [c] ↔ c ≠ '\x7b' ∧ c ≠ '\x7d' := by
  simp only [Unbraced, List.mem_singleton, ne_eq, eq_comm]

/-! ## Reading -/

theorem scan_plain (h : Unbraced [c]) :
    scan none literal next (c :: rest) = scan none (c :: literal) next rest := by
  obtain ⟨hopen, hclose⟩ := unbraced_singleton.1 h
  rw [scan, if_neg hopen, if_neg hclose]

theorem scan_name (h : Unbraced cs) :
    scan (some name) literal next (cs ++ rest) =
      scan (some (cs.reverse ++ name)) literal next rest := by
  induction cs generalizing name with
  | nil => rfl
  | cons c cs ih =>
    obtain ⟨hc, hcs⟩ := unbraced_cons.1 h
    obtain ⟨hopen, hclose⟩ := unbraced_singleton.1 hc
    rw [List.cons_append, scan, if_neg hclose, if_neg hopen, ih hcs, List.reverse_cons,
      List.append_assoc, List.singleton_append]

/-- **What pieces spell** is read as their parts. -/
theorem scan_pieces (h : ∀ p ∈ ps, p.IsValid) :
    scan none literal next (spelled ps) = .ok (parts literal next ps) := by
  induction ps generalizing literal next with
  | nil => rfl
  | cons p ps ih =>
    rw [List.forall_mem_cons] at h
    rw [spelled, List.flatMap_cons]
    cases p with
    | plain c => exact (scan_plain h.1).trans (ih h.2)
    | group name =>
      obtain ⟨hname, hnonblank⟩ := h.1
      rw [Piece.text, List.cons_append, scan, if_pos rfl, List.append_assoc, scan_name hname,
        List.singleton_append, scan, if_pos rfl, List.append_nil, List.reverse_reverse]
      dsimp only
      rw [if_neg (by simpa [List.isEmpty_iff] using hnonblank), ← spelled, ih h.2, parts]

theorem Grammatical.nil : Grammatical [] := ⟨[], by simp, rfl⟩

theorem Grammatical.cons (hp : p.IsValid) (h : Grammatical cs) : Grammatical (p.text ++ cs) := by
  obtain ⟨ps, hps, rfl⟩ := h
  exact ⟨p :: ps, List.forall_mem_cons.2 ⟨hp, hps⟩, List.flatMap_cons⟩

/-- What is left to be read when a template is read to its end: pieces, and
before them the rest of a name that has been begun. -/
def Remains : (slot : Option (List Char)) → List Char → Prop
  | none, cs => Grammatical cs
  | some name, cs => ∃ front rest, cs = front ++ '\x7d' :: rest ∧ Unbraced front ∧
      Text.trim (name.reverse ++ front) ≠ [] ∧ Grammatical rest

/-- **What is read to its end** is spelled by pieces. -/
theorem remains_of_scan (h : scan slot literal next cs = .ok tokens) : Remains slot cs := by
  fun_induction scan slot literal next cs generalizing tokens with
  | case1 => exact .nil
  | case2 => cases h
  | case3 literal next rest ih =>
    obtain ⟨front, behind, rfl, hfront, hname, hrest⟩ := ih h
    have hgroup : (Piece.group front).IsValid := ⟨hfront, hname⟩
    simpa [Remains, Piece.text] using hrest.cons hgroup
  | case4 => cases h
  | case5 literal next c rest hopen hclose ih =>
    have hplain : (Piece.plain c).IsValid := unbraced_singleton.2 ⟨hopen, hclose⟩
    exact (ih h).cons hplain
  | case6 => cases h
  | case7 name literal next rest trimmed hname found hfound =>
    rename_i ih
    refine ⟨[], rest, rfl, by simp [Unbraced], ?_, ih hfound⟩
    rw [List.append_nil]
    exact fun hblank => hname (List.isEmpty_iff.2 hblank)
  | case8 => cases h
  | case9 => cases h
  | case10 name literal next c rest hclose hopen ih =>
    -- the character belongs to the name that has been begun
    obtain ⟨front, behind, rfl, hfront, hname, hrest⟩ := ih h
    have hc : Unbraced [c] := unbraced_singleton.2 ⟨hopen, hclose⟩
    refine ⟨c :: front, behind, rfl, unbraced_cons.2 ⟨hc, hfront⟩, ?_, hrest⟩
    rwa [List.reverse_cons, List.append_assoc, List.singleton_append] at hname

/-- **A text is read as a template** exactly when pieces spell it. -/
theorem scan_eq_ok_iff : scan none literal next cs = .ok tokens ↔
    ∃ ps : List Piece, (∀ p ∈ ps, p.IsValid) ∧ spelled ps = cs ∧ parts literal next ps = tokens := by
  constructor
  · intro h
    obtain ⟨ps, hps, rfl⟩ := remains_of_scan h
    rw [scan_pieces hps] at h
    exact ⟨ps, hps, rfl, Except.ok.inj h⟩
  · rintro ⟨ps, hps, rfl, rfl⟩
    exact scan_pieces hps

theorem parse_eq_ok_iff {text : String} {t : Template} : parse text = .ok t ↔
    t.text = text ∧ ∃ ps : List Piece, (∀ p ∈ ps, p.IsValid) ∧ spelled ps = text.toList ∧
      parts [] 0 ps = t.tokens := by
  rw [← scan_eq_ok_iff, parse]
  obtain ⟨written, tokens⟩ := t
  cases scan none [] 0 text.toList with
  | error flaw => simp [Except.map]
  | ok found => simp [Except.map, eq_comm]

/-! ## Spelling parts -/

/-- The text that parts spell. -/
def render (tokens : List Token) : String := String.ofList (tokens.flatMap Token.spelled)

theorem toList_render : (render tokens).toList = tokens.flatMap Token.spelled :=
  String.toList_ofList

theorem spelled_literalTokens (literal : List Char) :
    (literalTokens literal).flatMap Token.spelled = literal.reverse := by
  cases literal with
  | nil => rfl
  | cons c literal => simp [literalTokens, Token.spelled]

/-- **What parts spell** is what their pieces spell without the blanks around
names. -/
theorem render_parts : (parts literal next ps).flatMap Token.spelled =
    literal.reverse ++ spelled (ps.map Piece.tightened) := by
  induction ps generalizing literal next with
  | nil => simp [parts, spelled, spelled_literalTokens]
  | cons p ps ih =>
    cases p with
    | plain c => simp [parts, ih, spelled, Piece.tightened, Piece.text]
    | group name =>
      simp [parts, ih, spelled, Piece.tightened, Piece.text, spelled_literalTokens, Token.spelled]

theorem Unbraced.trim (h : Unbraced cs) : Unbraced (Text.trim cs) :=
  ⟨fun hc => h.1 (Text.mem_of_mem_trim hc), fun hc => h.2 (Text.mem_of_mem_trim hc)⟩

/-! ## The canonical form -/

/-- **Parts in canonical form**: literals are not empty, have no braces and do
not stand side by side, names are trimmed and not empty, and the slots take one
argument after another. -/
structure CanonicalFrom (next : Nat) (tokens : List Token) : Prop where
  literal : ∀ text, .literal text ∈ tokens → text ≠ "" ∧ Unbraced text.toList
  apart : tokens.IsChain fun a b => ¬ (a.IsLiteral ∧ b.IsLiteral)
  name : ∀ name argument, .slot name argument ∈ tokens → name ≠ "" ∧ Text.trimmed name = name
  arguments : ∃ count, tokens.filterMap Token.argument? = List.range' next count

/-- No name has a brace. -/
def NamesUnbraced (tokens : List Token) : Prop :=
  ∀ name argument, .slot name argument ∈ tokens → Unbraced name.toList

/-! ### Of what is read -/

theorem eq_of_mem_literalTokens {token : Token} (h : token ∈ literalTokens literal) :
    literal ≠ [] ∧ token = .literal (String.ofList literal.reverse) := by
  rw [literalTokens] at h
  split at h
  · cases h
  · rename_i hne
    exact ⟨fun hnil => hne (List.isEmpty_iff.2 hnil), List.mem_singleton.1 h⟩

theorem literal_of_mem_parts {text : String} (hliteral : Unbraced literal)
    (hps : ∀ p ∈ ps, p.IsValid) (h : .literal text ∈ parts literal next ps) :
    text ≠ "" ∧ Unbraced text.toList := by
  have hown : ∀ {literal : List Char}, Unbraced literal → .literal text ∈ literalTokens literal →
      text ≠ "" ∧ Unbraced text.toList := by
    intro literal hliteral hmem
    obtain ⟨hne, heq⟩ := eq_of_mem_literalTokens hmem
    obtain rfl : text = String.ofList literal.reverse := Token.literal.inj heq
    exact ⟨by simpa using hne, by simpa [Unbraced] using hliteral⟩
  induction ps generalizing literal next with
  | nil => exact hown hliteral h
  | cons p ps ih =>
    rw [List.forall_mem_cons] at hps
    cases p with
    | plain c => exact ih (unbraced_cons.2 ⟨hps.1, hliteral⟩) hps.2 h
    | group name =>
      rw [parts, List.mem_append, List.mem_cons] at h
      rcases h with h | h | h
      · exact hown hliteral h
      · cases h
      · exact ih (by simp [Unbraced]) hps.2 h

theorem slot_of_mem_parts {name : String} {argument : Nat} (hps : ∀ p ∈ ps, p.IsValid)
    (h : .slot name argument ∈ parts literal next ps) :
    name ≠ "" ∧ Text.trimmed name = name ∧ Unbraced name.toList := by
  have hown : ∀ {literal : List Char}, .slot name argument ∉ literalTokens literal := fun hmem =>
    nomatch (eq_of_mem_literalTokens hmem).2
  induction ps generalizing literal next with
  | nil => exact absurd h hown
  | cons p ps ih =>
    rw [List.forall_mem_cons] at hps
    cases p with
    | plain c => exact ih hps.2 h
    | group cs =>
      rw [parts, List.mem_append, List.mem_cons] at h
      rcases h with h | h | h
      · exact absurd h hown
      · obtain ⟨rfl, -⟩ := Token.slot.inj h
        refine ⟨by simpa using hps.1.2, ?_, ?_⟩
        · rw [Text.trimmed, String.toList_ofList, Text.trim_trim]
        · rw [String.toList_ofList]
          exact hps.1.1.trim
      · exact ih hps.2 h

/-- A slot stands between any two literals. -/
theorem apart_parts (literal : List Char) (next : Nat) (ps : List Piece) :
    (parts literal next ps).IsChain fun a b => ¬ (a.IsLiteral ∧ b.IsLiteral) := by
  have hown : ∀ literal : List Char, (literalTokens literal).IsChain
      fun a b => ¬ (a.IsLiteral ∧ b.IsLiteral) := by
    intro literal
    rw [literalTokens]
    split
    · exact .nil
    · exact .singleton _
  induction ps generalizing literal next with
  | nil => exact hown literal
  | cons p ps ih =>
    cases p with
    | plain c => exact ih (c :: literal) next
    | group name =>
      rw [parts, List.isChain_append, List.isChain_cons]
      refine ⟨hown literal, ⟨fun _ _ hboth => hboth.1, ih [] (next + 1)⟩, ?_⟩
      intro a _ b hb hboth
      obtain rfl : .slot (String.ofList (Text.trim name)) next = b := Option.some.inj hb
      exact hboth.2

theorem arguments_parts (literal : List Char) (next : Nat) (ps : List Piece) :
    ∃ count, (parts literal next ps).filterMap Token.argument? = List.range' next count := by
  have hown : ∀ literal : List Char, (literalTokens literal).filterMap Token.argument? = [] := by
    intro literal
    rw [literalTokens]
    split <;> rfl
  induction ps generalizing literal next with
  | nil => exact ⟨0, hown literal⟩
  | cons p ps ih =>
    cases p with
    | plain c => exact ih (c :: literal) next
    | group name =>
      obtain ⟨count, hcount⟩ := ih [] (next + 1)
      refine ⟨count + 1, ?_⟩
      rw [parts, List.filterMap_append, hown, List.nil_append, List.filterMap_cons, hcount,
        List.range'_succ]
      rfl

/-- **The parts of a text** are in canonical form. -/
theorem canonicalFrom_parts (hps : ∀ p ∈ ps, p.IsValid) : CanonicalFrom next (parts [] next ps) where
  literal _ h := literal_of_mem_parts (by simp [Unbraced]) hps h
  apart := apart_parts [] next ps
  name _ _ h := ⟨(slot_of_mem_parts hps h).1, (slot_of_mem_parts hps h).2.1⟩
  arguments := arguments_parts [] next ps

/-! ### Back to a text -/

/-- The pieces of a part. -/
def piecesOf : Token → List Piece
  | .literal text => text.toList.map Piece.plain
  | .slot name _ => [.group name.toList]

theorem CanonicalFrom.of_literal {text : String} (h : CanonicalFrom next (.literal text :: tokens)) :
    CanonicalFrom next tokens where
  literal text' hmem := h.literal text' (List.mem_cons_of_mem _ hmem)
  apart := h.apart.tail
  name name argument hmem := h.name name argument (List.mem_cons_of_mem _ hmem)
  arguments := h.arguments

theorem CanonicalFrom.of_slot {name : String} {argument : Nat}
    (h : CanonicalFrom next (.slot name argument :: tokens)) :
    argument = next ∧ CanonicalFrom (next + 1) tokens := by
  obtain ⟨count, hcount⟩ := h.arguments
  rw [List.filterMap_cons] at hcount
  cases count with
  | zero => cases hcount
  | succ count =>
    rw [List.range'_succ] at hcount
    obtain ⟨hargument, hrest⟩ := List.cons.inj hcount
    exact ⟨hargument, fun text hmem => h.literal text (List.mem_cons_of_mem _ hmem), h.apart.tail,
      fun name' argument' hmem => h.name name' argument' (List.mem_cons_of_mem _ hmem),
      count, hrest⟩

theorem parts_plain (cs literal : List Char) (next : Nat) (ps : List Piece) :
    parts literal next (cs.map Piece.plain ++ ps) = parts (cs.reverse ++ literal) next ps := by
  induction cs generalizing literal with
  | nil => rfl
  | cons c cs ih =>
    rw [List.map_cons, List.cons_append, parts, ih, List.reverse_cons, List.append_assoc,
      List.singleton_append]

/-- **Parts in canonical form** are those of their pieces. -/
theorem parts_piecesOf (h : CanonicalFrom next tokens) :
    parts [] next (tokens.flatMap piecesOf) = tokens := by
  induction tokens generalizing next with
  | nil => rfl
  | cons token tokens ih =>
    rw [List.flatMap_cons]
    cases token with
    | literal text =>
      have htext : text.toList.reverse ≠ [] := by
        simpa using (h.literal text List.mem_cons_self).1
      have hliteral : literalTokens text.toList.reverse = [.literal text] := by
        rw [literalTokens, if_neg (by simpa [List.isEmpty_iff] using htext), List.reverse_reverse,
          String.ofList_toList]
      have hrest := ih h.of_literal
      rw [piecesOf, parts_plain, List.append_nil]
      -- what follows is nothing or begins with a slot, which ends the literal
      cases tokens with
      | nil => exact hliteral
      | cons token tokens =>
        cases token with
        | literal text' =>
          exact absurd ⟨trivial, trivial⟩ (List.isChain_cons_cons.1 h.apart).1
        | slot name argument =>
          rw [List.flatMap_cons, piecesOf, List.singleton_append, parts] at hrest ⊢
          rw [hliteral, List.singleton_append]
          exact congrArg _ hrest
    | slot name argument =>
      obtain ⟨rfl, hrest⟩ := h.of_slot
      have hname : String.ofList (Text.trim name.toList) = name :=
        (h.name name argument List.mem_cons_self).2
      rw [piecesOf, List.singleton_append, parts, ih hrest, hname]
      rfl

theorem spelled_piecesOf : spelled (tokens.flatMap piecesOf) = tokens.flatMap Token.spelled := by
  rw [spelled, List.flatMap_assoc]
  refine List.flatMap_congr fun token _ => ?_
  cases token with
  | literal text => simp [piecesOf, Token.spelled, List.flatMap_map, Piece.text]
  | slot name argument => simp [piecesOf, Token.spelled, Piece.text]

theorem isValid_piecesOf (h : CanonicalFrom next tokens) (hnames : NamesUnbraced tokens) :
    ∀ p ∈ tokens.flatMap piecesOf, p.IsValid := by
  intro p hp
  obtain ⟨token, htoken, hp⟩ := List.mem_flatMap.1 hp
  cases token with
  | literal text =>
    obtain ⟨c, hc, rfl⟩ := List.mem_map.1 hp
    have htext := (h.literal text htoken).2
    exact unbraced_singleton.2
      ⟨fun hopen => htext.1 (hopen ▸ hc), fun hclose => htext.2 (hclose ▸ hc)⟩
  | slot name argument =>
    obtain rfl := List.mem_singleton.1 hp
    obtain ⟨hne, htrimmed⟩ := h.name name argument htoken
    refine ⟨hnames name argument htoken, fun hblank => hne ?_⟩
    rw [← htrimmed, Text.trimmed, hblank]

/-- **Parts in canonical form** are read from what they spell exactly when no
name has a brace. -/
theorem parse_render_iff (h : CanonicalFrom 0 tokens) :
    parse (render tokens) = .ok ⟨render tokens, tokens⟩ ↔ NamesUnbraced tokens := by
  rw [parse_eq_ok_iff]
  constructor
  · rintro ⟨-, ps, hps, -, rfl⟩ name argument hmem
    exact (slot_of_mem_parts hps hmem).2.2
  · intro hnames
    refine ⟨rfl, tokens.flatMap piecesOf, isValid_piecesOf h hnames, ?_, parts_piecesOf h⟩
    rw [spelled_piecesOf, toList_render]

/-- **The grammar of templates.** A text is a template exactly when it is a
sequence of characters other than braces and of groups of a name in braces, the
name without braces and not blank. The parts of a template are in canonical
form, with no brace in a name; they spell its text with only the blanks around
names removed, and what they spell has the same parts. Parts in canonical form
are the parts of what they spell exactly when no name has a brace. -/
theorem parse_grammar (text : String) (tokens : List Token) :
    ((∃ t, parse text = .ok t) ↔ Grammatical text.toList) ∧
    (∀ t, parse text = .ok t →
      CanonicalFrom 0 t.tokens ∧ NamesUnbraced t.tokens ∧
      Tightens text.toList (render t.tokens).toList ∧
      parse (render t.tokens) = .ok ⟨render t.tokens, t.tokens⟩) ∧
    (CanonicalFrom 0 tokens →
      (parse (render tokens) = .ok ⟨render tokens, tokens⟩ ↔ NamesUnbraced tokens)) := by
  refine ⟨⟨?_, ?_⟩, ?_, parse_render_iff⟩
  · rintro ⟨t, ht⟩
    obtain ⟨-, ps, hps, hspelled, -⟩ := parse_eq_ok_iff.1 ht
    exact ⟨ps, hps, hspelled⟩
  · rintro ⟨ps, hps, hspelled⟩
    exact ⟨⟨text, parts [] 0 ps⟩, parse_eq_ok_iff.2 ⟨rfl, ps, hps, hspelled, rfl⟩⟩
  · intro t ht
    obtain ⟨-, ps, hps, hspelled, hparts⟩ := parse_eq_ok_iff.1 ht
    have hcanonical : CanonicalFrom 0 t.tokens := hparts ▸ canonicalFrom_parts hps
    have hnames : NamesUnbraced t.tokens := fun name argument hmem =>
      (slot_of_mem_parts hps (hparts ▸ hmem)).2.2
    refine ⟨hcanonical, hnames, ⟨ps, hps, hspelled, ?_⟩, (parse_render_iff hcanonical).2 hnames⟩
    rw [toList_render, ← hparts, render_parts, List.reverse_nil, List.nil_append]

/-- A literal and two slots. -/
def twoSlots : List Token := [.literal "/a", .slot "id" 0, .slot "b" 1]

theorem parse_grammar_spaced :
    parse "/a\x7b id \x7d\x7bb\x7d" = .ok ⟨"/a\x7b id \x7d\x7bb\x7d", twoSlots⟩ ∧
      CanonicalFrom 0 twoSlots ∧ NamesUnbraced twoSlots ∧
      render twoSlots = "/a\x7bid\x7d\x7bb\x7d" ∧
      parse (render twoSlots) = .ok ⟨render twoSlots, twoSlots⟩ := by
  have hparse : parse "/a\x7b id \x7d\x7bb\x7d" =
      .ok ⟨"/a\x7b id \x7d\x7bb\x7d", twoSlots⟩ := by decide
  obtain ⟨-, hread, hrender⟩ := parse_grammar "/a\x7b id \x7d\x7bb\x7d" twoSlots
  obtain ⟨hcanonical, hnames, -, -⟩ := hread _ hparse
  exact ⟨hparse, hcanonical, hnames, by decide, (hrender hcanonical).2 hnames⟩

/-- **A name with a brace** does not keep a part from the canonical form, and
what such a part spells is no template. -/
theorem parse_braced_name :
    CanonicalFrom 0 [.slot "a\x7d" 0] ∧ render [.slot "a\x7d" 0] = "\x7ba\x7d\x7d" ∧
      parse "\x7ba\x7d\x7d" = .error .unmatched := by
  refine ⟨⟨by simp, .singleton _, ?_, 1, rfl⟩, by decide, by decide⟩
  intro name argument hmem
  obtain ⟨rfl, -⟩ := Token.slot.inj (List.mem_singleton.1 hmem)
  decide

end Template

end RestCall
