import RestCall.Proofs.Binding.Stages
import RestCall.Proofs.Payload.Serializer
/-!
# RestCall — which calls are bound

With the built-in serializers a call is bound exactly when it is acceptable:
options are welcome, endpoint, path, query and headers have the arguments
that they need, and so has the payload, whose serializer is there and takes
them. What is refused is refused in the name of the operation
(`bind_accepts`). Each stage of binding has one lemma that says when it
succeeds and one that says how it fails.
-/

namespace RestCall

/-- The URL that an argument stands for: a URL for itself, any other
argument for the absolute URI that its text is. -/
def Argument.url? : Argument → Option Url
  | .uri u => some u
  | a => a.wire?.bind fun text => (Url.parse text).toOption

namespace Binding

variable {endpoint : String} {o : Operation} {args : List Argument} {options : List Options}
variable {index : Nat} {a : Argument} {part : Part} {refusal : Refusal}

/-! ## What is acceptable -/

/-- The argument at a position, unless it is missing or null. -/
def given? (args : List Argument) (index : Nat) : Option Argument :=
  args[index]?.filter fun a => !a.isNull

/-- Whether a parameter has its value. One that comes from an argument may
go without when it is not required; where names are listed, the argument is
a text or a name, and it is one of them. -/
def Suits (args : List Argument) (p : Parameter) : Prop :=
  match p.origin with
  | .fixed _ => True
  | .argument index required allowed =>
    match given? args index with
    | none => required = false
    | some a => ∀ names, allowed = some names → ∃ s ∈ names, a = .text s ∨ a = .name s

/-- Whether a payload has its value, and its serializer takes it. -/
def PayloadSuits (args : List Argument) (options : List Options) : Option PayloadSpec → Prop
  | none => Options.allFields options = []
  | some ⟨.argument index, serializer, _⟩ =>
    Options.allFields options = [] ∧ Serializer.builtin.contains serializer = true ∧
      ∃ a, given? args index = some a ∧
        (Serializer.TakesObjects serializer → ∃ members, a.toJson = .object members)
  | some ⟨.fields fields, serializer, _⟩ =>
    Serializer.builtin.contains serializer = true ∧ serializer ≠ "raw" ∧
      ∀ p ∈ fields, Suits args p

/-- **What a call needs** to be bound. -/
structure Acceptable (o : Operation) (args : List Argument) (options : List Options) : Prop where
  welcome : Welcome o options
  endpoint : ∀ index, o.endpointArgument = some index →
    ∃ a u, given? args index = some a ∧ a.url? = some u ∧ u.isBare = true
  slots : ∀ name index, Token.slot name index ∈ o.path.tokens → ∃ a, given? args index = some a
  query : ∀ p ∈ o.query, Suits args p
  headers : ∀ p ∈ o.headers, Suits args p
  payload : PayloadSuits args options o.payload

/-- The faults that a refused call ends with: one of binding that names the
operation, or that of a declared serializer that is not there. -/
inductive Refused (o : Operation) : Fault → Prop
  | binding (message : String) (context : Context) (named : context.operation = some o.id) :
    Refused o (.binding message context)
  | serializer (spec : PayloadSpec) (hint : Option String) (declared : o.payload = some spec)
      (absent : Serializer.builtin.contains spec.serializer = false) :
    Refused o (.declaration (.unknownComponent "serializer" spec.serializer o.id hint))

/-! ## Arguments that are given -/

theorem given?_eq_some_iff : given? args index = some a ↔
    args[index]? = some a ∧ a.isNull = false := by
  simp [given?, Option.filter_eq_some_iff]

/-- **An argument that is given** is one that has a text. -/
theorem given?_isSome_iff :
    (∃ a, given? args index = some a) ↔ ∃ text, args[index]?.bind Argument.wire? = some text := by
  simp only [given?_eq_some_iff, Option.bind_eq_some_iff, ← Argument.exists_wire?_iff]
  constructor
  · rintro ⟨a, ha, text, htext⟩
    exact ⟨text, a, ha, htext⟩
  · rintro ⟨text, a, ha, htext⟩
    exact ⟨a, ha, text, htext⟩

theorem wire?_of_given?_eq_none (h : given? args index = none) :
    args[index]?.bind Argument.wire? = none := by
  rw [← Option.not_isSome_iff_eq_none, Option.isSome_iff_exists, ← given?_isSome_iff, h]
  simp

/-! ## Refusals of binding itself -/

/-- Whether a refusal is not a component's. -/
def Refusal.IsOwn : Refusal → Prop
  | .component _ => False
  | _ => True

theorem Refusal.refused_of_isOwn (h : refusal.IsOwn) : Refused o (refusal.fault o.id) := by
  cases refusal with
  | component fault => exact absurd h id
  | _ => exact .binding _ _ rfl

/-! ## Endpoint -/

theorem url?_of_ne_uri (h : ∀ u, a ≠ .uri u) :
    a.url? = a.wire?.bind fun text => (Url.parse text).toOption := by
  cases a with
  | uri u => exact absurd rfl (h u)
  | _ => rfl

theorem endpointUrl_of_ne_uri (h : ∀ u, a ≠ .uri u) : endpointUrl index (some a) =
    match a.wire? with
    | none => .error (.endpointNull index)
    | some text => (Url.parse text).mapError (.endpointRelative index) := by
  cases a with
  | uri u => exact absurd rfl (h u)
  | _ => rfl

theorem endpointUrl_some_eq_ok_iff {u : Url} :
    endpointUrl index (some a) = .ok u ↔ a.isNull = false ∧ a.url? = some u := by
  by_cases huri : ∃ v, a = .uri v
  · obtain ⟨v, rfl⟩ := huri
    simp [endpointUrl, Argument.isNull, Argument.url?]
  · have hne : ∀ v, a ≠ .uri v := fun v hv => huri ⟨v, hv⟩
    rw [endpointUrl_of_ne_uri hne, url?_of_ne_uri hne, ← Argument.exists_wire?_iff]
    cases a.wire? with
    | none => simp
    | some text =>
      simp only [mapError_eq_ok_iff, Option.bind_some, Option.some.injEq, exists_eq', true_and]
      cases Url.parse text <;> simp [Except.toOption]

/-- **The URL of an endpoint argument** is the one that it stands for. -/
theorem endpointUrl_eq_ok_iff {u : Url} : endpointUrl index args[index]? = .ok u ↔
    ∃ a, given? args index = some a ∧ a.url? = some u := by
  simp only [given?_eq_some_iff]
  cases args[index]? with
  | none => simp [endpointUrl]
  | some a =>
    rw [endpointUrl_some_eq_ok_iff]
    constructor
    · rintro ⟨hnull, hu⟩
      exact ⟨a, ⟨rfl, hnull⟩, hu⟩
    · rintro ⟨a', ⟨ha, hnull⟩, hu⟩
      cases ha
      exact ⟨hnull, hu⟩

/-- **An endpoint is made** when the operation takes none from an argument,
or from one that stands for a bare URL. -/
theorem base_succeeds_iff (endpoint : String) : (∃ text, base endpoint o args = .ok text) ↔
    ∀ index, o.endpointArgument = some index →
      ∃ a u, given? args index = some a ∧ a.url? = some u ∧ u.isBare = true := by
  rw [base]
  cases o.endpointArgument with
  | none => simp
  | some index =>
    simp only [Option.some.injEq, forall_eq', bind_succeeds_iff, endpointUrl_eq_ok_iff]
    constructor
    · rintro ⟨u, ⟨a, ha, hu⟩, text, htext⟩
      refine ⟨a, u, ha, hu, ?_⟩
      split at htext
      · assumption
      · cases htext
    · rintro ⟨a, u, ha, hu, hbare⟩
      refine ⟨u, ⟨a, ha, hu⟩, trimSlashes u.text, ?_⟩
      rw [if_pos hbare]
      rfl

theorem endpointUrl_error (h : endpointUrl index args[index]? = .error refusal) :
    refusal.IsOwn := by
  cases harg : args[index]? with
  | none =>
    rw [harg] at h
    cases h
    trivial
  | some a =>
    rw [harg] at h
    by_cases huri : ∃ v, a = .uri v
    · obtain ⟨v, rfl⟩ := huri
      cases h
    · rw [endpointUrl_of_ne_uri fun v hv => huri ⟨v, hv⟩] at h
      split at h
      · cases h
        trivial
      · obtain ⟨flaw, -, rfl⟩ := mapError_eq_error_iff.1 h
        trivial

theorem base_error (h : base endpoint o args = .error refusal) : refusal.IsOwn := by
  rw [base] at h
  cases hindex : o.endpointArgument with
  | none =>
    rw [hindex] at h
    cases h
  | some index =>
    rw [hindex] at h
    rcases bind_eq_error_iff.1 h with hurl | ⟨u, -, hbare⟩
    · exact endpointUrl_error hurl
    · split at hbare
      · cases hbare
      · cases hbare
        trivial

/-! ## Path -/

theorem tokenText_succeeds_iff {literal : List Char} {token : Token} :
    (∃ text, tokenText literal args token = .ok text) ↔
      ∀ name index, token = .slot name index → ∃ a, given? args index = some a := by
  cases token with
  | literal text => simp [tokenText]
  | slot name index =>
    have hslot : (∃ text, tokenText literal args (.slot name index) = .ok text) ↔
        ∃ a, given? args index = some a := by
      rw [given?_isSome_iff, tokenText]
      cases args[index]?.bind Argument.wire? <;> simp
    rw [hslot]
    constructor
    · intro h name' index' heq
      cases heq
      exact h
    · intro h
      exact h name index rfl

/-- **A path is made** when all its slots have an argument. -/
theorem path_succeeds_iff : (∃ text, path o args = .ok text) ↔
    ∀ name index, Token.slot name index ∈ o.path.tokens → ∃ a, given? args index = some a := by
  rw [path, bind_succeeds_iff]
  have htokens : (∃ pieces, o.path.tokens.mapM (tokenText o.literal args) = .ok pieces) ↔
      ∀ name index, Token.slot name index ∈ o.path.tokens →
        ∃ a, given? args index = some a := by
    rw [mapM_succeeds_iff]
    constructor
    · intro h name index hmem
      exact tokenText_succeeds_iff.1 (h _ hmem) name index rfl
    · intro h token hmem
      refine tokenText_succeeds_iff.2 fun name index heq => ?_
      subst heq
      exact h name index hmem
  rw [← htokens]
  constructor
  · rintro ⟨pieces, hpieces, -⟩
    exact ⟨pieces, hpieces⟩
  · rintro ⟨pieces, hpieces⟩
    exact ⟨pieces, hpieces, _, rfl⟩

theorem path_error (h : path o args = .error refusal) : refusal.IsOwn := by
  rcases bind_eq_error_iff.1 h with htokens | ⟨pieces, -, hpure⟩
  · obtain ⟨token, -, htoken⟩ := exists_error_of_mapM htokens
    cases token with
    | literal text => cases htoken
    | slot name index =>
      rw [tokenText] at htoken
      split at htoken
      · cases htoken
      · cases htoken
        trivial
  · cases hpure

/-! ## Parameters -/

section Parameters

variable {p : Parameter} {required : Bool} {allowed : Option (List String)}

/-- What a parameter is worth whose argument is not given. -/
theorem value?_of_not_given (horigin : p.origin = .argument index required allowed)
    (h : given? args index = none) : value? args part p =
      if required then .error (.nullArgument part p.key index) else .ok none := by
  have hwire := wire?_of_given?_eq_none h
  cases harg : args[index]? with
  | none => simp only [value?, horigin, harg]
  | some a =>
    rw [harg, Option.bind_some] at hwire
    simp only [value?, horigin, harg, hwire]

/-- What a parameter is worth whose argument is given. -/
theorem value?_of_given (part : Part) (horigin : p.origin = .argument index required allowed)
    (h : given? args index = some a) : ∃ text, a.wire? = some text ∧ value? args part p =
      allowed.elim (.ok (some text)) fun names =>
        if isNameLike a && names.contains text then .ok (some text)
        else .error (.notAllowed part p.key text names) := by
  obtain ⟨harg, hnull⟩ := given?_eq_some_iff.1 h
  obtain ⟨text, htext⟩ := Argument.exists_wire?_iff.2 hnull
  refine ⟨text, htext, ?_⟩
  simp only [value?, horigin, harg, htext]
  cases allowed <;> rfl

theorem isNameLike_iff {text : String} {names : List String} (h : a.wire? = some text) :
    (isNameLike a && names.contains text) = true ↔ ∃ s ∈ names, a = .text s ∨ a = .name s := by
  cases a with
  | text s =>
    obtain rfl : s = text := Option.some.inj h
    simp [isNameLike]
  | name s =>
    obtain rfl : s = text := Option.some.inj h
    simp [isNameLike]
  | _ => simp [isNameLike]

/-- **A parameter is worth something** when it suits. -/
theorem value?_succeeds_iff : (∃ v, value? args part p = .ok v) ↔ Suits args p := by
  cases horigin : p.origin with
  | fixed value => simp [value?, Suits, horigin]
  | argument index required allowed =>
    cases hgiven : given? args index with
    | none =>
      simp only [Suits, horigin, hgiven, value?_of_not_given horigin hgiven]
      cases required <;> simp
    | some a =>
      obtain ⟨text, htext, hvalue⟩ := value?_of_given part horigin hgiven
      simp only [Suits, horigin, hgiven, hvalue]
      cases allowed with
      | none => simp
      | some names =>
        simp only [Option.some.injEq, forall_eq', Option.elim_some, ← isNameLike_iff htext]
        split
        · rename_i hlike
          exact ⟨fun _ => hlike, fun _ => ⟨_, rfl⟩⟩
        · rename_i hlike
          exact ⟨fun ⟨_, h⟩ => (by cases h), fun h => absurd h hlike⟩

theorem value?_error (h : value? args part p = .error refusal) : refusal.IsOwn := by
  cases horigin : p.origin with
  | fixed value =>
    simp only [value?, horigin] at h
    cases h
  | argument index required allowed =>
    cases hgiven : given? args index with
    | none =>
      rw [value?_of_not_given horigin hgiven] at h
      split at h
      · cases h
        trivial
      · cases h
    | some a =>
      obtain ⟨text, -, hvalue⟩ := value?_of_given part horigin hgiven
      rw [hvalue] at h
      cases allowed with
      | none => cases h
      | some names =>
        rw [Option.elim_some] at h
        split at h
        · cases h
        · cases h
          trivial

/-- **Parameters contribute** when each of them suits. -/
theorem entries_succeeds_iff (part : Part) {ps : List Parameter} :
    (∃ es, entries args part ps = .ok es) ↔ ∀ p ∈ ps, Suits args p := by
  induction ps with
  | nil => exact ⟨fun _ p hp => absurd hp List.not_mem_nil, fun _ => ⟨[], rfl⟩⟩
  | cons p ps ih =>
    rw [entries, bind_succeeds_iff, List.forall_mem_cons, ← ih, ← value?_succeeds_iff]
    constructor
    · rintro ⟨v, hv, hrest⟩
      obtain ⟨es, hes, -⟩ := bind_succeeds_iff.1 hrest
      exact ⟨⟨v, hv⟩, es, hes⟩
    · rintro ⟨⟨v, hv⟩, es, hes⟩
      exact ⟨v, hv, bind_succeeds_iff.2 ⟨es, hes, _, rfl⟩⟩

theorem entries_error {ps : List Parameter} (h : entries args part ps = .error refusal) :
    refusal.IsOwn := by
  induction ps with
  | nil => cases h
  | cons p ps ih =>
    rcases bind_eq_error_iff.1 h with hv | ⟨v, -, hrest⟩
    · exact value?_error hv
    · rcases bind_eq_error_iff.1 hrest with hes | ⟨es, -, hpure⟩
      · exact ih hes
      · cases hpure

end Parameters

/-! ## Payload -/

section Payload

variable {id : String} {s : Serializer} {source : PayloadSource} {fields : List Parameter}

theorem argumentData_succeeds_iff (h : Serializer.IsBuiltin id s) :
    (∃ data, payloadData s args options (.argument index) = .ok data) ↔
      Options.allFields options = [] ∧ ∃ a, given? args index = some a ∧
        (Serializer.TakesObjects id → ∃ members, a.toJson = .object members) := by
  rw [payloadData, ← List.isEmpty_iff]
  by_cases hfields : (Options.allFields options).isEmpty = true
  · simp only [hfields, if_true, true_and, given?_eq_some_iff]
    cases args[index]? with
    | none => simp
    | some a =>
      simp only [Option.some.injEq]
      cases hnull : a.isNull with
      | true =>
        rw [if_pos rfl]
        constructor
        · rintro ⟨data, hdata⟩
          cases hdata
        · rintro ⟨a', ⟨rfl, hgiven⟩, -⟩
          rw [hnull] at hgiven
          cases hgiven
      | false =>
        rw [if_neg Bool.false_ne_true]
        simp only [mapError_eq_ok_iff, Serializer.argument_succeeds_iff h hnull]
        constructor
        · intro hobject
          exact ⟨a, ⟨rfl, hnull⟩, hobject⟩
        · rintro ⟨a', ⟨rfl, -⟩, hobject⟩
          exact hobject
  · simp [hfields]

theorem fieldsData_succeeds_iff (h : Serializer.IsBuiltin id s) :
    (∃ data, payloadData s args options (.fields fields) = .ok data) ↔
      id ≠ "raw" ∧ ∀ p ∈ fields, Suits args p := by
  rw [payloadData, bind_succeeds_iff, ← entries_succeeds_iff .payload]
  simp only [mapError_eq_ok_iff, Serializer.fields_succeeds_iff h]
  constructor
  · rintro ⟨all, hall, hraw⟩
    obtain ⟨es, hes, -⟩ := bind_eq_ok_iff.1 hall
    exact ⟨hraw, es, hes⟩
  · rintro ⟨hraw, es, hes⟩
    exact ⟨Options.overFields options es, bind_eq_ok_iff.2 ⟨es, hes, rfl⟩, hraw⟩

/-- **A payload is made** when it suits. -/
theorem payload_succeeds_iff : (∃ p, payload Serializer.builtin o args options = .ok p) ↔
    PayloadSuits args options o.payload := by
  cases hspec : o.payload with
  | none =>
    simp only [payload, hspec, PayloadSuits, ← List.isEmpty_iff]
    split
    · rename_i hfields
      exact ⟨fun _ => hfields, fun _ => ⟨none, rfl⟩⟩
    · rename_i hfields
      exact ⟨fun ⟨_, h⟩ => (by cases h), fun h => absurd h hfields⟩
  | some spec =>
    obtain ⟨source, id, contentType⟩ := spec
    have hmade : (∃ p, payload Serializer.builtin o args options = .ok p) ↔
        ∃ s, Serializer.builtin.find? id = some s ∧
          ∃ data, payloadData s args options source = .ok data := by
      simp only [payload, hspec, bind_succeeds_iff, mapError_eq_ok_iff, Family.resolve_eq_ok_iff]
      constructor
      · rintro ⟨s, hs, data, hdata, -⟩
        exact ⟨s, hs, data, hdata⟩
      · rintro ⟨s, hs, data, hdata⟩
        exact ⟨s, hs, data, hdata, _, rfl⟩
    rw [hmade]
    cases source with
    | argument index =>
      rw [PayloadSuits, Family.contains_iff]
      constructor
      · rintro ⟨s, hs, hdata⟩
        obtain ⟨hfields, hgiven⟩ :=
          (argumentData_succeeds_iff (Serializer.isBuiltin_of_find? hs)).1 hdata
        exact ⟨hfields, ⟨s, hs⟩, hgiven⟩
      · rintro ⟨hfields, ⟨s, hs⟩, hgiven⟩
        exact ⟨s, hs, (argumentData_succeeds_iff (Serializer.isBuiltin_of_find? hs)).2
          ⟨hfields, hgiven⟩⟩
    | fields fields =>
      rw [PayloadSuits, Family.contains_iff]
      constructor
      · rintro ⟨s, hs, hdata⟩
        exact ⟨⟨s, hs⟩, (fieldsData_succeeds_iff (Serializer.isBuiltin_of_find? hs)).1 hdata⟩
      · rintro ⟨⟨s, hs⟩, hsuits⟩
        exact ⟨s, hs, (fieldsData_succeeds_iff (Serializer.isBuiltin_of_find? hs)).2 hsuits⟩

/-- **Data that is refused** is refused by binding itself, or by the
serializer. -/
theorem payloadData_error (h : payloadData s args options source = .error refusal) :
    refusal.IsOwn ∨ ∃ fault, refusal = .component fault ∧
      ((∃ a, s.argument a = .error fault) ∨ ∃ all, s.fields all = .error fault) := by
  cases source with
  | argument index =>
    rw [payloadData] at h
    split at h
    · split at h
      · cases h
        exact .inl trivial
      · rename_i a _
        split at h
        · cases h
          exact .inl trivial
        · obtain ⟨fault, hfault, rfl⟩ := mapError_eq_error_iff.1 h
          exact .inr ⟨fault, rfl, .inl ⟨a, hfault⟩⟩
    · cases h
      exact .inl trivial
  | fields fields =>
    rcases bind_eq_error_iff.1 h with hall | ⟨all, -, hdata⟩
    · rcases bind_eq_error_iff.1 hall with hes | ⟨es, -, hpure⟩
      · exact .inl (entries_error hes)
      · cases hpure
    · obtain ⟨fault, hfault, rfl⟩ := mapError_eq_error_iff.1 hdata
      exact .inr ⟨fault, rfl, .inr ⟨all, hfault⟩⟩

/-- **A payload that is refused** is refused by binding itself, for a
serializer that is not there, or by the one that is. -/
theorem payload_error {serializers : Family Serializer}
    (h : payload serializers o args options = .error refusal) :
    refusal.IsOwn ∨ ∃ spec fault, o.payload = some spec ∧ refusal = .component fault ∧
      ((∃ absent, serializers.resolve spec.serializer o.id = .error absent ∧
          fault = .declaration absent) ∨
        ∃ s, serializers.find? spec.serializer = some s ∧
          ((∃ a, s.argument a = .error fault) ∨ ∃ all, s.fields all = .error fault)) := by
  cases hspec : o.payload with
  | none =>
    simp only [payload, hspec] at h
    split at h
    · cases h
    · cases h
      exact .inl trivial
  | some spec =>
    simp only [payload, hspec] at h
    rcases bind_eq_error_iff.1 h with hresolve | ⟨s, hs, hrest⟩
    · obtain ⟨absent, habsent, rfl⟩ := mapError_eq_error_iff.1 hresolve
      exact .inr ⟨spec, _, rfl, rfl, .inl ⟨absent, habsent, rfl⟩⟩
    · rcases bind_eq_error_iff.1 hrest with hdata | ⟨data, -, hpure⟩
      · have hfind := Family.resolve_eq_ok_iff.1 (mapError_eq_ok_iff.1 hs)
        exact (payloadData_error hdata).imp_right fun ⟨fault, heq, hfault⟩ =>
          ⟨spec, fault, rfl, heq, .inr ⟨s, hfind, hfault⟩⟩
      · cases hpure

/-- The fault of a component that names no operation is refused in the name
of this one. -/
theorem refused_of_component {message : String} :
    Refused o (Refusal.fault o.id (.component (Serializer.refusal id message))) :=
  .binding _ _ rfl

/-- What a payload is refused with where the serializers are built in. -/
theorem refused_of_payload_error (h : payload Serializer.builtin o args options = .error refusal) :
    Refused o (refusal.fault o.id) := by
  rcases payload_error h with hown | ⟨spec, fault, hspec, rfl, ⟨absent, habsent, rfl⟩ | hfault⟩
  · exact Refusal.refused_of_isOwn hown
  · obtain ⟨hcontains, hint, rfl⟩ := Family.resolve_error habsent
    exact .serializer spec hint hspec hcontains
  · obtain ⟨s, hfind, hs⟩ := hfault
    have hbuiltin := Serializer.isBuiltin_of_find? hfind
    rcases hs with ⟨a, ha⟩ | ⟨all, hall⟩
    · obtain ⟨message, rfl⟩ := Serializer.argument_error hbuiltin ha
      exact refused_of_component
    · obtain ⟨message, rfl⟩ := Serializer.fields_error hbuiltin hall
      exact refused_of_component

end Payload

/-! ## The whole call -/

/-- **A call that is refused** is refused by binding itself, or for its
payload. -/
theorem bind?_refusal {serializers : Family Serializer}
    (h : bind? serializers endpoint o args options = .error refusal) :
    refusal.IsOwn ∨ payload serializers o args options = .error refusal := by
  by_cases hw : Welcome o options
  · rw [bind?_of_welcome hw] at h
    rcases bind_eq_error_iff.1 h with hbase | ⟨base, -, h⟩
    · exact .inl (base_error hbase)
    rcases bind_eq_error_iff.1 h with hpath | ⟨path, -, h⟩
    · exact .inl (path_error hpath)
    rcases bind_eq_error_iff.1 h with hquery | ⟨query, -, h⟩
    · exact .inl (entries_error hquery)
    rcases bind_eq_error_iff.1 h with hown | ⟨own, -, h⟩
    · exact .inl (entries_error hown)
    rcases bind_eq_error_iff.1 h with hpayload | ⟨payload, -, h⟩
    · exact .inr hpayload
    · cases h
  · rw [bind?_of_not_welcome hw] at h
    cases h
    exact .inl trivial

theorem bind?_error (h : bind? Serializer.builtin endpoint o args options = .error refusal) :
    Refused o (refusal.fault o.id) := by
  rcases bind?_refusal h with hown | hpayload
  · exact Refusal.refused_of_isOwn hown
  · exact refused_of_payload_error hpayload

/-- **A call is bound exactly when it is acceptable**, and otherwise refused
with a fault of binding that names the operation, or with that of a declared
serializer that is not there. -/
theorem bind_accepts (endpoint : String) (o : Operation) (args : List Argument)
    (options : List Options) :
    ((∃ r, bind Serializer.builtin endpoint o args options = .ok r) ↔
      Acceptable o args options) ∧
    ∀ fault, bind Serializer.builtin endpoint o args options = .error fault → Refused o fault := by
  refine ⟨?_, fun fault h => ?_⟩
  · simp only [bound_iff]
    constructor
    · rintro ⟨r, hw, s, hs, -⟩
      exact ⟨hw, (base_succeeds_iff endpoint).1 ⟨_, hs.base⟩, path_succeeds_iff.1 ⟨_, hs.path⟩,
        (entries_succeeds_iff .query).1 ⟨_, hs.query⟩, (entries_succeeds_iff .header).1 ⟨_, hs.own⟩,
        payload_succeeds_iff.1 ⟨_, hs.payload⟩⟩
    · intro h
      obtain ⟨base, hbase⟩ := (base_succeeds_iff endpoint).2 h.endpoint
      obtain ⟨path, hpath⟩ := path_succeeds_iff.2 h.slots
      obtain ⟨query, hquery⟩ := (entries_succeeds_iff .query).2 h.query
      obtain ⟨own, hown⟩ := (entries_succeeds_iff .header).2 h.headers
      obtain ⟨payload, hpayload⟩ := payload_succeeds_iff.2 h.payload
      exact ⟨_, h.welcome, ⟨base, path, query, own, payload⟩,
        ⟨hbase, hpath, hquery, hown, hpayload⟩, rfl⟩
  · obtain ⟨refusal, hrefusal, rfl⟩ := mapError_eq_error_iff.1 h
    exact bind?_error hrefusal

end Binding

end RestCall
