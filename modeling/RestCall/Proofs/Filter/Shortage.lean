import RestCall.Proofs.Filter.Reapplication
/-!
# RestCall — when a chain of filters fails

The date can always be sent. The other built-in filters need credentials, one
of them with a token, and which of them a moment can supply does not change
while a chain is applied. A chain therefore succeeds exactly when all its
filters are supplied (`apply_named_succeeds_iff`), and otherwise fails at the
first one that is not, with a fault that names the operation and that filter
(`apply_named_error_iff`). The two are put together in `apply_supplied`.
-/

namespace RestCall

/-- There are credentials at a moment. -/
def Moment.HasCredentials (m : Moment) : Prop := ∃ c, m.credentials = some c

/-- There are credentials with a session token at a moment. -/
def Moment.HasToken (m : Moment) : Prop := ∃ c token, m.credentials = some c ∧ c.token = some token

namespace BuiltinFilter

variable {b : BuiltinFilter} {bs : List BuiltinFilter} {m : Moment} {fault : Fault}

/-- A moment has what a filter needs. -/
def Supplied (m : Moment) : BuiltinFilter → Prop
  | basicAuth => m.HasCredentials
  | authToken => m.HasToken
  | querySigner => m.HasCredentials
  | dateHeader => True

/-- What is missing at a moment that does not supply a filter. -/
def shortage (m : Moment) : String :=
  match m.credentials with
  | none => "no credentials available"
  | some _ => "credentials carry no session token"

/-- A token is one of some credentials. -/
theorem hasCredentials_of_hasToken (h : m.HasToken) : m.HasCredentials := by
  obtain ⟨c, -, hc, -⟩ := h
  exact ⟨c, hc⟩

/-- **What a filter lacks** is what the moment does not supply. -/
theorem lack?_eq_some_iff : b.lack? m = some fault ↔
    ¬ b.Supplied m ∧ fault = Filter.lack b.id (shortage m) := by
  obtain ⟨credentials, now⟩ := m
  cases credentials with
  | none => cases b <;> simp [lack?, Supplied, shortage, Moment.HasCredentials, Moment.HasToken,
      eq_comm]
  | some c =>
    obtain ⟨identity, secret, token⟩ := c
    cases token <;> cases b <;>
      simp [lack?, Supplied, shortage, Moment.HasCredentials, Moment.HasToken, id, eq_comm]

theorem lack?_eq_none_iff : b.lack? m = none ↔ b.Supplied m := by
  rw [Option.eq_none_iff_forall_ne_some]
  constructor
  · intro h
    by_contra hneeds
    exact h _ (lack?_eq_some_iff.2 ⟨hneeds, rfl⟩)
  · intro h fault hlack
    exact (lack?_eq_some_iff.1 hlack).1 h

/-- **Several filters are supplied** by credentials, unless none needs any, and
by a token, unless the one that sends it is not among them. -/
theorem forall_supplied_iff : (∀ b ∈ bs, b.Supplied m) ↔
    (m.HasCredentials ∨ basicAuth ∉ bs ∧ authToken ∉ bs ∧ querySigner ∉ bs) ∧
      (m.HasToken ∨ authToken ∉ bs) := by
  constructor
  · intro h
    refine ⟨?_, or_iff_not_imp_right.2 fun hmem => h authToken (not_not.1 hmem)⟩
    by_cases hm : m.HasCredentials
    · exact .inl hm
    · exact .inr ⟨fun hmem => hm (h basicAuth hmem),
        fun hmem => hm (hasCredentials_of_hasToken (h authToken hmem)),
        fun hmem => hm (h querySigner hmem)⟩
  · rintro ⟨hcredentials, htoken⟩ b hb
    cases b with
    | basicAuth => exact hcredentials.resolve_right fun h => h.1 hb
    | authToken => exact htoken.resolve_right fun h => h hb
    | querySigner => exact hcredentials.resolve_right fun h => h.2.2 hb
    | dateHeader => trivial

end BuiltinFilter

namespace FilterChain

open BuiltinFilter

variable {m : Moment} {r : Request} {fault : Fault} {c : FilterChain}
variable {entries : List (String × BuiltinFilter)}

/-- Built-in filters in order, each under a name of its own. -/
def named (entries : List (String × BuiltinFilter)) : FilterChain :=
  ⟨entries.map fun e => (e.1, e.2.filter)⟩

/-- **Chains of built-in filters** are those of built-in filters under names. -/
theorem builtin_iff : c.Builtin ↔ ∃ entries, named entries = c := by
  constructor
  · intro h
    have hrange : c.filters ∈ Set.range
        (List.map fun e : String × BuiltinFilter => (e.1, e.2.filter)) := by
      rw [Set.range_list_map]
      intro e he
      obtain ⟨id, hid⟩ := h e he
      obtain ⟨b, -, hb⟩ := BuiltinFilter.exists_of_find? hid
      exact ⟨(e.1, b), Prod.ext rfl hb⟩
    obtain ⟨entries, hentries⟩ := hrange
    exact ⟨entries, by rw [named, hentries]⟩
  · rintro ⟨entries, rfl⟩ e he
    obtain ⟨⟨name, b⟩, -, rfl⟩ := List.mem_map.1 he
    exact ⟨b.id, by cases b <;> rfl⟩

/-- **A chain of built-in filters** ends at the first that lacks something, and
otherwise all of them write. -/
theorem apply_named (entries : List (String × BuiltinFilter)) :
    (named entries).apply m r =
      match entries.findSome? fun e => e.2.lack? m with
      | some fault => .error (located r.operation fault)
      | none => .ok (writeAll (fun _ => m) (entries.map Prod.snd) r) := by
  have hfilters : (entries.map Prod.snd).map BuiltinFilter.filter =
      (named entries).filters.map Prod.snd := by
    rw [named, List.map_map, List.map_map]
    rfl
  rw [apply, applyAll_eq hfilters, List.findSome?_map]
  rfl

/-- **A chain succeeds** when each of its filters is supplied. -/
theorem apply_named_succeeds_iff :
    (∃ r', (named entries).apply m r = .ok r') ↔ ∀ b ∈ entries.map Prod.snd, b.Supplied m := by
  have hnone : (entries.findSome? fun e => e.2.lack? m) = none ↔
      ∀ b ∈ entries.map Prod.snd, b.Supplied m := by
    simp only [List.findSome?_eq_none_iff, lack?_eq_none_iff, List.forall_mem_map]
  rw [← hnone, apply_named]
  cases entries.findSome? fun e => e.2.lack? m <;> simp

/-- **A chain fails** at the first of its filters that is not supplied. -/
theorem apply_named_error_iff :
    (named entries).apply m r = .error fault ↔
      ∃ before e after, entries = before ++ e :: after ∧ (∀ x ∈ before, x.2.Supplied m) ∧
        ¬ e.2.Supplied m ∧
        fault = .filter (shortage m) ⟨some r.operation, none, none, some e.2.id⟩ := by
  have hfirst : (named entries).apply m r = .error fault ↔
      ∃ lacking, (entries.findSome? fun e => e.2.lack? m) = some lacking ∧
        fault = located r.operation lacking := by
    rw [apply_named]
    cases entries.findSome? fun e => e.2.lack? m <;> simp [eq_comm]
  rw [hfirst]
  simp only [List.findSome?_eq_some_iff, lack?_eq_some_iff, lack?_eq_none_iff]
  constructor
  · rintro ⟨lacking, ⟨before, e, after, hentries, ⟨hneeds, rfl⟩, hbefore⟩, rfl⟩
    exact ⟨before, e, after, hentries, hbefore, hneeds, rfl⟩
  · rintro ⟨before, e, after, hentries, hbefore, hneeds, rfl⟩
    exact ⟨_, ⟨before, e, after, hentries, ⟨hneeds, rfl⟩, hbefore⟩, rfl⟩

/-- **When a chain of built-in filters fails.** It succeeds exactly when there
are credentials, unless none of its filters needs any, and they carry a token,
unless none of its filters sends one. When it fails, the fault is one of a
filter: it names the operation of the request and the first filter in the
order of the chain that is not supplied. -/
theorem apply_supplied (entries : List (String × BuiltinFilter)) (m : Moment) (r : Request) :
    ((∃ r', (named entries).apply m r = .ok r') ↔
      (m.HasCredentials ∨ basicAuth ∉ entries.map Prod.snd ∧
        authToken ∉ entries.map Prod.snd ∧ querySigner ∉ entries.map Prod.snd) ∧
      (m.HasToken ∨ authToken ∉ entries.map Prod.snd)) ∧
    ∀ fault, (named entries).apply m r = .error fault ↔
      ∃ before e after, entries = before ++ e :: after ∧ (∀ x ∈ before, x.2.Supplied m) ∧
        ¬ e.2.Supplied m ∧
        fault = .filter (shortage m) ⟨some r.operation, none, none, some e.2.id⟩ :=
  ⟨apply_named_succeeds_iff.trans forall_supplied_iff, fun _ => apply_named_error_iff⟩

end FilterChain

end RestCall
