import RestCall.Proofs.Operation.Declaration
import RestCall.Proofs.Operation.Template
/-!
# RestCall — which argument a slot takes

Slots are pointed at arguments by name, one call after another, and a name may
stand in several slots and several calls. What comes out does not depend on
what was pointed where in between (`rebound_eq_ok_iff`): every slot of a name
takes the argument of the last call with the name. A slot without a call takes
the argument of its number among all slots (`argument_of_getElem?`), pointed
ones among them. So a declaration is refused exactly when a call has a name
that no slot has, and else its template is known slot by slot (`declare_slots`).
-/

namespace RestCall

/-- The argument of the last call with a name. -/
def lastCall? (calls : List (String × Nat)) (name : String) : Option Nat :=
  (calls.filter fun call => call.1 = name).getLast?.map Prod.snd

theorem lastCall?_cons (call : String × Nat) (calls : List (String × Nat)) (name : String) :
    lastCall? (call :: calls) name =
      (lastCall? calls name).or (if call.1 = name then some call.2 else none) := by
  rw [lastCall?, lastCall?, List.filter_cons]
  by_cases h : call.1 = name
  · rw [if_pos (decide_eq_true h), if_pos h, List.getLast?_cons]
    cases (calls.filter fun call => call.1 = name).getLast? <;> rfl
  · rw [if_neg (by simpa using h), if_neg h, Option.or_none]

/-- The name of a slot. -/
def Token.name? : Token → Option String
  | literal _ => none
  | slot name _ => some name

/-- A part with its slot pointed at the argument of the last call with its
name, if there is one. -/
def Token.pointed (calls : List (String × Nat)) : Token → Token
  | slot name argument => slot name ((lastCall? calls name).getD argument)
  | literal text => literal text

namespace Template

variable {t t' : Template} {calls : List (String × Nat)} {tokens : List Token}
variable {name id source text : String} {argument index next place : Nat}

/-- The names of slots. -/
def names (t : Template) : List String := t.slots.map Prod.fst

/-- The number of a slot at a place: how many slots stand before it. -/
def ordinal (t : Template) (place : Nat) : Nat :=
  ((t.tokens.take place).filterMap Token.argument?).length

/-- **A template whose slots are pointed** by calls: text and literals are
kept, and so are names, and a slot takes the argument of the last call with its
name, or that of its number. -/
structure IsPointed (t : Template) (calls : List (String × Nat)) (t' : Template) : Prop where
  text : t'.text = t.text
  length : t'.tokens.length = t.tokens.length
  literal : ∀ (place : Nat) (text : String), t.tokens[place]? = some (.literal text) →
    t'.tokens[place]? = some (.literal text)
  slot : ∀ (place : Nat) (name : String) (argument : Nat),
    t.tokens[place]? = some (.slot name argument) →
    t'.tokens[place]? = some (.slot name ((lastCall? calls name).getD (t.ordinal place)))

/-! ## Names -/

theorem names_eq : t.names = t.tokens.filterMap Token.name? := by
  rw [names, slots, List.map_filterMap]
  refine List.filterMap_congr fun token _ => ?_
  cases token <;> rfl

theorem name?_rebind (token : Token) : (Token.rebind name index token).name? = token.name? := by
  cases token with
  | literal own => rfl
  | slot own number =>
    rw [Token.rebind]
    split <;> rfl

theorem names_rebind : (t.rebind name index).names = t.names := by
  rw [names_eq, names_eq, rebind, List.filterMap_map]
  exact List.filterMap_congr fun token _ => name?_rebind token

theorem hasSlot_iff : t.hasSlot name = true ↔ name ∈ t.names := by
  simp [hasSlot, names]

/-! ## Calls, one after another -/

theorem pointed_nil (token : Token) : token.pointed [] = token := by
  cases token <;> rfl

/-- A call before others counts for the slots that these leave alone. -/
theorem pointed_rebind (token : Token) :
    (Token.rebind name index token).pointed calls = token.pointed ((name, index) :: calls) := by
  cases token with
  | literal own => rfl
  | slot own number =>
    rw [Token.rebind]
    by_cases h : own = name
    · rw [if_pos h, Token.pointed, Token.pointed, lastCall?_cons, if_pos h.symm]
      cases lastCall? calls own <;> rfl
    · rw [if_neg h, Token.pointed, Token.pointed, lastCall?_cons, if_neg (Ne.symm h),
        Option.or_none]

/-- **Calls go through** when each has the name of a slot, and what comes out
is as if only the last with each name had been made. -/
theorem rebound_eq_ok_iff : Draft.rebound id text t calls = .ok t' ↔
    (∀ call ∈ calls, call.1 ∈ t.names) ∧
      t' = { t with tokens := t.tokens.map (Token.pointed calls) } := by
  induction calls generalizing t with
  | nil =>
    have hnil : t.tokens.map (Token.pointed []) = t.tokens := List.map_id'' pointed_nil _
    rw [Draft.rebound, hnil, Except.ok.injEq, eq_comm]
    exact (and_iff_right nofun).symm
  | cons call calls ih =>
    obtain ⟨name, index⟩ := call
    have hpointed : Token.pointed calls ∘ Token.rebind name index =
        Token.pointed ((name, index) :: calls) := funext pointed_rebind
    rw [Draft.rebound, List.forall_mem_cons]
    by_cases h : t.hasSlot name = true
    · rw [if_pos h, ih, names_rebind, and_assoc, and_iff_right (hasSlot_iff.1 h), rebind,
        List.map_map, hpointed]
    · rw [if_neg h]
      exact iff_of_false nofun fun hall => h (hasSlot_iff.2 hall.1.1)

/-! ## Numbers -/

theorem argument_of_canonicalFrom (h : CanonicalFrom next tokens)
    (hslot : tokens[place]? = some (.slot name argument)) :
    argument = next + ((tokens.take place).filterMap Token.argument?).length := by
  induction tokens generalizing next place with
  | nil => cases hslot
  | cons token tokens ih =>
    cases token with
    | literal own =>
      cases place with
      | zero => cases hslot
      | succ place => exact ih h.of_literal hslot
    | slot own number =>
      obtain ⟨rfl, hrest⟩ := h.of_slot
      cases place with
      | zero =>
        cases hslot
        rfl
      | succ place =>
        rw [ih hrest hslot, Nat.add_right_comm]
        rfl

/-- **The slots of a text** are numbered from its front. -/
theorem argument_of_getElem? (ht : parse source = .ok t)
    (hslot : t.tokens[place]? = some (.slot name argument)) : argument = t.ordinal place := by
  obtain ⟨-, ps, hps, -, hparts⟩ := parse_eq_ok_iff.1 ht
  have hcanonical : CanonicalFrom 0 t.tokens := hparts ▸ canonicalFrom_parts hps
  rw [argument_of_canonicalFrom hcanonical hslot, Nat.zero_add, ordinal]

/-- **What calls make of the template of a text** is that template with its
slots pointed. -/
theorem isPointed_of_rebound (ht : parse source = .ok t)
    (h : Draft.rebound id text t calls = .ok t') : t.IsPointed calls t' := by
  obtain ⟨-, rfl⟩ := rebound_eq_ok_iff.1 h
  refine ⟨rfl, List.length_map .., fun place own hown => ?_, fun place own number hown => ?_⟩
  · rw [List.getElem?_map, hown]
    rfl
  · rw [List.getElem?_map, hown, ← argument_of_getElem? ht hown]
    rfl

end Template

namespace Operation

open Template

/-- **Which argument a slot takes.** With an id that is not blank, a text that
is a template and no empty key, clauses declare an operation exactly when every
name that they point is that of a slot. The template of the operation is then
that of the text, but for the arguments of its slots: each takes that of the
last clause with its name, and without one that of its number among all slots. -/
theorem declare_slots {id : String} (method : String) {clauses : List Clause} {t : Template}
    (hid : Text.isBlankText id = false)
    (ht : Template.parse (Clause.templateText clauses) = .ok t)
    (hkeys : ∀ p ∈ clauses.filterMap Clause.parameter?, p.key ≠ "") :
    ((∃ o, declare id method clauses = .ok o) ↔
      ∀ call ∈ clauses.filterMap Clause.pointer?, call.1 ∈ t.names) ∧
    ∀ o, declare id method clauses = .ok o →
      t.IsPointed (clauses.filterMap Clause.pointer?) o.path := by
  refine ⟨⟨?_, fun hnames => ?_⟩, fun o ho => ?_⟩
  · rintro ⟨o, ho⟩
    have hrebound := (declare_path_iff hid ht hkeys).1 ⟨o, ho, rfl⟩
    exact (rebound_eq_ok_iff.1 hrebound).1
  · obtain ⟨o, ho, -⟩ := (declare_path_iff hid ht hkeys).2 (rebound_eq_ok_iff.2 ⟨hnames, rfl⟩)
    exact ⟨o, ho⟩
  · exact isPointed_of_rebound ht ((declare_path_iff hid ht hkeys).1 ⟨o, ho, rfl⟩)

/-- A template with one name in two slots, which change places with the slot of
another; that one is pointed twice, and the last slot not at all. -/
def swapped : List Clause :=
  [.pathArgument "b" 7, .path "/\x7ba\x7d/\x7bb\x7d\x7ba\x7d\x7bc\x7d", .pathArgument "a" 1,
    .pathArgument "b" 0]

theorem declare_slots_swapped :
    ∃ t o, Template.parse (Clause.templateText swapped) = .ok t ∧
      declare "op" "GET" swapped = .ok o ∧
      t.slots = [("a", 0), ("b", 1), ("a", 2), ("c", 3)] ∧
      o.path.tokens[1]? = some (.slot "a" 1) ∧ o.path.tokens[3]? = some (.slot "b" 0) ∧
      o.path.tokens[4]? = some (.slot "a" 1) ∧ o.path.tokens[5]? = some (.slot "c" 3) := by
  have ht : Template.parse (Clause.templateText swapped) =
      .ok ⟨Clause.templateText swapped, [.literal "/", .slot "a" 0, .literal "/", .slot "b" 1,
        .slot "a" 2, .slot "c" 3]⟩ := by decide
  have hid : Text.isBlankText "op" = false := by decide
  obtain ⟨hdeclared, hpointed⟩ := declare_slots "GET" hid ht (by decide)
  obtain ⟨o, ho⟩ := hdeclared.2 (by decide)
  have hslot := (hpointed o ho).slot
  exact ⟨_, o, ht, ho, rfl, hslot 1 "a" 0 rfl, hslot 3 "b" 1 rfl, hslot 4 "a" 2 rfl,
    hslot 5 "c" 3 rfl⟩

end Operation

end RestCall
