import RestCall.Proofs.Operation.Rebinding
/-!
# RestCall — templates with a character before them

A character other than a brace, put before the text of a template, goes into
its first literal, or becomes a literal of its own when the template begins
with a slot (`parts_begun`). Nothing else changes: what follows is read alike,
slots keep their names and are pointed alike, and so a draft with the character
is an operation exactly when the draft without it is (`finish_begun_iff`).
-/

namespace RestCall

/-- Parts with a character before them. -/
def Token.begun (c : Char) : List Token → List Token
  | literal text :: rest => literal (String.singleton c ++ text) :: rest
  | tokens => literal (String.singleton c) :: tokens

/-- A template with a character before it. -/
def Template.begun (c : Char) (t : Template) : Template :=
  ⟨String.singleton c ++ t.text, Token.begun c t.tokens⟩

/-- A draft with a character before its template. -/
def Draft.begun (c : Char) (d : Draft) : Draft := { d with path := String.singleton c ++ d.path }

/-- An operation with a character before its template. -/
def Operation.begun (c : Char) (o : Operation) : Operation := { o with path := o.path.begun c }

namespace Template

variable {text id id' source source' : String} {t t' : Template} {tokens : List Token}
variable {c : Char} {literal : List Char} {next : Nat} {ps : List Piece}
variable {calls : List (String × Nat)}

/-! ## Reading -/

/-- A literal that begins with a character, and a slot or nothing behind it. -/
theorem literalTokens_begun (h : ∀ text rest, tokens ≠ .literal text :: rest) :
    literalTokens (literal ++ [c]) ++ tokens = Token.begun c (literalTokens literal ++ tokens) := by
  cases literal with
  | cons last literal => simp [literalTokens, Token.begun]
  | nil =>
    cases tokens with
    | nil => simp [literalTokens, Token.begun]
    | cons token rest =>
      cases token with
      | literal text => exact absurd rfl (h text rest)
      | slot name argument => simp [literalTokens, Token.begun]

/-- **The parts of a text with a character before it** are those of the text,
with the character before them. -/
theorem parts_begun : parts (literal ++ [c]) next ps = Token.begun c (parts literal next ps) := by
  induction ps generalizing literal next with
  | nil =>
    have hend : literalTokens (literal ++ [c]) ++ [] = Token.begun c (literalTokens literal ++ []) :=
      literalTokens_begun fun _ _ h => by cases h
    rwa [List.append_nil, List.append_nil] at hend
  | cons p ps ih =>
    cases p with
    | plain c' => rw [parts, parts, ← List.cons_append, ih]
    | group name => exact literalTokens_begun fun _ _ h => by cases h

theorem parse_begun_iff (hc : Unbraced [c]) :
    parse (String.singleton c ++ text) = .ok t' ↔ ∃ t, parse text = .ok t ∧ t.begun c = t' := by
  have hscan : parse (String.singleton c ++ text) = .ok t' ↔
      t'.text = String.singleton c ++ text ∧ scan none [c] 0 text.toList = .ok t'.tokens := by
    rw [parse_eq_ok_iff, ← scan_eq_ok_iff, String.toList_append, String.toList_singleton,
      List.singleton_append, scan_plain hc]
  simp only [hscan, scan_eq_ok_iff, parse_eq_ok_iff]
  constructor
  · rintro ⟨htext, ps, hps, hspelled, hparts⟩
    refine ⟨⟨text, parts [] 0 ps⟩, ⟨rfl, ps, hps, hspelled, rfl⟩, ?_⟩
    rw [begun, ← parts_begun, ← htext]
    exact congrArg (Template.mk t'.text) hparts
  · rintro ⟨t, ⟨rfl, ps, hps, hspelled, hparts⟩, rfl⟩
    exact ⟨rfl, ps, hps, hspelled, parts_begun.trans (congrArg (Token.begun c) hparts)⟩

/-- What begins with a closing brace is no template. -/
theorem unbraced_of_parse (hopen : c ≠ '\x7b') (h : parse (String.singleton c ++ text) = .ok t) :
    Unbraced [c] := by
  rw [parse_eq_ok_iff, ← scan_eq_ok_iff, String.toList_append, String.toList_singleton,
    List.singleton_append, scan, if_neg hopen] at h
  refine unbraced_singleton.2 ⟨hopen, fun hclose => ?_⟩
  rw [if_pos hclose] at h
  cases h.2

/-! ## Pointing -/

theorem names_begun : (t.begun c).names = t.names := by
  rw [names_eq, names_eq, begun]
  cases t.tokens with
  | nil => rfl
  | cons token rest => cases token <;> rfl

theorem map_pointed_begun :
    (Token.begun c tokens).map (Token.pointed calls) =
      Token.begun c (tokens.map (Token.pointed calls)) := by
  cases tokens with
  | nil => rfl
  | cons token rest => cases token <;> rfl

/-- **Slots are pointed alike** behind a character. -/
theorem rebound_begun_iff : Draft.rebound id' source' (t.begun c) calls = .ok t' ↔
    ∃ p, Draft.rebound id source t calls = .ok p ∧ p.begun c = t' := by
  simp only [rebound_eq_ok_iff, names_begun, and_assoc]
  constructor
  · rintro ⟨hnames, rfl⟩
    refine ⟨_, hnames, rfl, ?_⟩
    rw [begun, begun, map_pointed_begun]
  · rintro ⟨_, hnames, rfl, rfl⟩
    refine ⟨hnames, ?_⟩
    rw [begun, begun, map_pointed_begun]

end Template

variable {d : Draft} {o o' : Operation} {c : Char}

/-- **A draft is an operation** with a character before its template exactly
when it is one without, and the operation is the same but for the character. -/
theorem Draft.finish_begun_iff (hc : Template.Unbraced [c]) :
    (d.begun c).finish = .ok o' ↔ ∃ o, d.finish = .ok o ∧ o.begun c = o' := by
  simp only [finish_eq_ok_iff]
  constructor
  · rintro ⟨hid, hkeys, t', path', hparse, hrebound, rfl⟩
    obtain ⟨t, ht, rfl⟩ := (Template.parse_begun_iff hc).1 hparse
    obtain ⟨path, hpath, rfl⟩ := Template.rebound_begun_iff.1 hrebound
    exact ⟨_, ⟨hid, hkeys, t, path, ht, hpath, rfl⟩, rfl⟩
  · rintro ⟨_, ⟨hid, hkeys, t, path, ht, hpath, rfl⟩, rfl⟩
    exact ⟨hid, hkeys, t.begun c, path.begun c, (Template.parse_begun_iff hc).2 ⟨t, ht, rfl⟩,
      Template.rebound_begun_iff.2 ⟨path, hpath, rfl⟩, rfl⟩

/-- **A template that begins with a literal** has its first character before
it in the operation, too. -/
theorem Draft.begun_of_finish {rest : List Char} (h : d.finish = .ok o)
    (hpath : d.path.toList = c :: rest) (hopen : c ≠ '\x7b') :
    ∃ o' : Operation, o = o'.begun c := by
  have hd : Draft.begun c { d with path := String.ofList rest } = d := by
    have htext : String.singleton c ++ String.ofList rest = d.path := by
      rw [← String.toList_inj, hpath]
      simp
    rw [begun, htext]
  have hc : Template.Unbraced [c] := by
    obtain ⟨-, -, t, -, hparse, -⟩ := finish_eq_ok_iff.1 (hd.symm ▸ h)
    exact Template.unbraced_of_parse hopen hparse
  rw [← hd, finish_begun_iff hc] at h
  obtain ⟨o', -, ho'⟩ := h
  exact ⟨o', ho'.symm⟩

end RestCall
