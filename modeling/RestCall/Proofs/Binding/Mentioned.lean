import RestCall.Proofs.Binding.Acceptance
/-!
# RestCall — what binding reads of its arguments

An operation mentions the positions of the arguments that its endpoint, the
slots of its path, its parameters and its payload take. Binding reads no
other position, and at these it does not tell a missing argument from a
null one. So two calls whose arguments agree at the mentioned positions come
out alike (`reads_mentioned`): the requests are equal, or both are refused
with faults of one kind in one context. Only the wording of a refusal can
differ, between an endpoint that is missing and one that is null.
-/

namespace RestCall

/-! ## Mentioned positions -/

/-- The positions that a parameter takes. -/
def Parameter.positions (p : Parameter) : List Nat :=
  match p.origin with
  | .fixed _ => []
  | .argument index _ _ => [index]

/-- The positions that a part of a template takes. -/
def Token.positions : Token → List Nat
  | .literal _ => []
  | .slot _ index => [index]

/-- The positions that a payload takes. -/
def PayloadSource.positions : PayloadSource → List Nat
  | .argument index => [index]
  | .fields ps => ps.flatMap Parameter.positions

/-- The positions that an operation mentions. -/
def Operation.mentioned (o : Operation) : List Nat :=
  o.endpointArgument.toList ++ o.path.tokens.flatMap Token.positions ++
    o.query.flatMap Parameter.positions ++ o.headers.flatMap Parameter.positions ++
    o.payload.toList.flatMap fun spec => spec.source.positions

namespace Binding

variable {serializers : Family Serializer} {endpoint : String} {o : Operation}
variable {args args' more : List Argument} {options : List Options}
variable {index : Nat} {part : Part} {positions : List Nat}

/-- Whether arguments agree at some positions, a missing one being the same
as one that is null. -/
def Agree (positions : List Nat) (args args' : List Argument) : Prop :=
  ∀ i ∈ positions, given? args i = given? args' i

theorem Agree.mono {fewer : List Nat} (h : Agree positions args args')
    (hsub : fewer ⊆ positions) : Agree fewer args args' :=
  fun i hi => h i (hsub hi)

theorem Agree.of_mem {α : Type} {items : List α} {reads : α → List Nat} {item : α}
    (h : Agree (items.flatMap reads) args args') (hmem : item ∈ items) :
    Agree (reads item) args args' :=
  h.mono fun _ hi => List.mem_flatMap.2 ⟨item, hmem, hi⟩

/-- What an operation mentions, part by part. -/
theorem Agree.parts (h : Agree o.mentioned args args') :
    Agree o.endpointArgument.toList args args' ∧
      Agree (o.path.tokens.flatMap Token.positions) args args' ∧
      Agree (o.query.flatMap Parameter.positions) args args' ∧
      Agree (o.headers.flatMap Parameter.positions) args args' ∧
      Agree (o.payload.toList.flatMap fun spec => spec.source.positions) args args' := by
  unfold Operation.mentioned at h
  refine ⟨h.mono ?_, h.mono ?_, h.mono ?_, h.mono ?_, h.mono ?_⟩ <;>
    (intro i hi; simp only [List.mem_append, hi, true_or, or_true])

/-! ## The stages read nothing else -/

/-- **The text at a position** is that of the argument that is given there. -/
theorem bind_wire? (args : List Argument) (index : Nat) :
    args[index]?.bind Argument.wire? = (given? args index).bind Argument.wire? := by
  cases hgiven : given? args index with
  | none => exact wire?_of_given?_eq_none hgiven
  | some a =>
    obtain ⟨harg, -⟩ := given?_eq_some_iff.1 hgiven
    rw [harg]

theorem tokenText_congr {literal : List Char} {token : Token}
    (h : Agree token.positions args args') :
    tokenText literal args token = tokenText literal args' token := by
  cases token with
  | literal text => rfl
  | slot name index =>
    have hgiven : given? args index = given? args' index := h index (List.mem_singleton_self index)
    rw [tokenText, tokenText, bind_wire?, hgiven, ← bind_wire?]

theorem path_congr (h : Agree (o.path.tokens.flatMap Token.positions) args args') :
    path o args = path o args' := by
  unfold path
  rw [mapM_congr fun token htoken => tokenText_congr (h.of_mem htoken)]

theorem value?_congr {p : Parameter} (h : Agree p.positions args args') :
    value? args part p = value? args' part p := by
  cases horigin : p.origin with
  | fixed value => simp only [value?, horigin]
  | argument index required allowed =>
    have hgiven : given? args index = given? args' index := by
      refine h index ?_
      rw [Parameter.positions, horigin]
      exact List.mem_singleton_self index
    cases hargs : given? args index with
    | none => rw [value?_of_not_given horigin hargs, value?_of_not_given horigin (hgiven ▸ hargs)]
    | some a =>
      obtain ⟨text, htext, hvalue⟩ := value?_of_given part horigin hargs
      obtain ⟨text', htext', hvalue'⟩ := value?_of_given part horigin (hgiven ▸ hargs)
      obtain rfl : text = text' := Option.some.inj (htext.symm.trans htext')
      rw [hvalue, hvalue']

theorem entries_congr {ps : List Parameter}
    (h : Agree (ps.flatMap Parameter.positions) args args') :
    entries args part ps = entries args' part ps := by
  induction ps with
  | nil => rfl
  | cons p ps ih =>
    have hp : value? args part p = value? args' part p := value?_congr (h.of_mem List.mem_cons_self)
    have hps : entries args part ps = entries args' part ps :=
      ih (h.mono fun i hi => by rw [List.flatMap_cons]; exact List.mem_append_right _ hi)
    rw [entries, entries, hp, hps]

/-- The bytes of a payload made of one argument, by what is given there. -/
theorem payloadData_argument (s : Serializer) (args : List Argument) (index : Nat) :
    payloadData s args options (.argument index) =
      if (Options.allFields options).isEmpty then
        (given? args index).elim (.error (.payloadNull index)) fun a =>
          (s.argument a).mapError .component
      else .error (.payloadNotFields index) := by
  rw [payloadData, given?]
  cases args[index]? with
  | none => rfl
  | some a => cases hnull : a.isNull <;> simp [Option.filter, hnull]

theorem payloadData_congr {s : Serializer} {source : PayloadSource}
    (h : Agree source.positions args args') :
    payloadData s args options source = payloadData s args' options source := by
  cases source with
  | argument index =>
    have hgiven : given? args index = given? args' index := h index (List.mem_singleton_self index)
    rw [payloadData_argument, payloadData_argument, hgiven]
  | fields fields =>
    have hentries : entries args .payload fields = entries args' .payload fields := entries_congr h
    rw [payloadData, payloadData, payloadFields, payloadFields, hentries]

theorem payload_congr
    (h : Agree (o.payload.toList.flatMap fun spec => spec.source.positions) args args') :
    payload serializers o args options = payload serializers o args' options := by
  unfold payload
  cases hspec : o.payload with
  | none => rfl
  | some spec =>
    have hdata : ∀ s, payloadData s args options spec.source =
        payloadData s args' options spec.source :=
      fun s => payloadData_congr (h.of_mem (by rw [hspec]; exact List.mem_singleton_self spec))
    simp only [hdata]

/-! ## Refusals -/

/-- Two faults that differ in their wording at most. -/
structure Akin (f f' : Fault) : Prop where
  kind : f.kind = f'.kind
  context : f.context? = f'.context?

/-- **Two calls come out alike**: with one request, or refused with akin
faults. -/
inductive Alike : Except Fault Request → Except Fault Request → Prop
  | bound (r : Request) : Alike (.ok r) (.ok r)
  | refused {f f' : Fault} (akin : Akin f f') : Alike (.error f) (.error f')

theorem Alike.refl : ∀ x, Alike x x
  | .ok r => .bound r
  | .error _ => .refused ⟨rfl, rfl⟩

theorem Alike.ok_iff {x y : Except Fault Request} {r : Request} (h : Alike x y) :
    x = .ok r ↔ y = .ok r := by
  cases h with
  | bound => rfl
  | refused => exact ⟨fun h => (by cases h), fun h => (by cases h)⟩

/-- An endpoint that is not given is refused, as missing or as null. -/
theorem endpointUrl_of_not_given (h : given? args index = none) :
    endpointUrl index args[index]? = .error (.endpointMissing index) ∨
      endpointUrl index args[index]? = .error (.endpointNull index) := by
  cases harg : args[index]? with
  | none => exact .inl rfl
  | some a =>
    right
    have hwire := wire?_of_given?_eq_none h
    rw [harg, Option.bind_some] at hwire
    have huri : ∀ u, a ≠ .uri u := by
      rintro u rfl
      cases hwire
    rw [endpointUrl_of_ne_uri huri, hwire]

/-- **The endpoint of agreeing calls** is the same, unless neither call gives
one; both are refused then. -/
theorem base_congr (endpoint : String) (h : Agree o.endpointArgument.toList args args') :
    base endpoint o args = base endpoint o args' ∨
      ∃ refusal refusal', base endpoint o args = .error refusal ∧
        base endpoint o args' = .error refusal' ∧
        Akin (refusal.fault o.id) (refusal'.fault o.id) := by
  unfold base
  cases hindex : o.endpointArgument with
  | none => exact .inl rfl
  | some index =>
    have hgiven : given? args index = given? args' index :=
      h index (by rw [hindex]; exact List.mem_singleton_self index)
    cases hargs : given? args index with
    | some a =>
      obtain ⟨harg, -⟩ := given?_eq_some_iff.1 hargs
      obtain ⟨harg', -⟩ := given?_eq_some_iff.1 (hgiven ▸ hargs)
      exact .inl (by simp only [harg, harg'])
    | none =>
      right
      -- missing and null are told apart by the wording, and by nothing else
      rcases endpointUrl_of_not_given hargs with hurl | hurl <;>
        rcases endpointUrl_of_not_given (hgiven ▸ hargs : given? args' index = none)
          with hurl' | hurl' <;>
        (simp only [hurl, hurl']; exact ⟨_, _, rfl, rfl, rfl, rfl⟩)

/-- **Calls that agree at the mentioned positions** come out alike. -/
theorem alike_of_agree (h : Agree o.mentioned args args') :
    Alike (bind serializers endpoint o args options)
      (bind serializers endpoint o args' options) := by
  obtain ⟨hendpoint, hpath, hquery, hheaders, hpayload⟩ := h.parts
  unfold bind
  by_cases hw : Welcome o options
  · rw [bind?_of_welcome hw, bind?_of_welcome hw]
    rcases base_congr endpoint hendpoint with
      hbase | ⟨refusal, refusal', hbase, hbase', hakin⟩
    · rw [hbase, path_congr hpath, entries_congr hquery, entries_congr hheaders,
        payload_congr hpayload]
      exact .refl _
    · rw [hbase, hbase']
      exact .refused hakin
  · rw [bind?_of_not_welcome hw, bind?_of_not_welcome hw]
    exact .refl _

/-! ## Further arguments -/

/-- Arguments that are appended do not count where they are null. -/
theorem given?_append (h : ∀ j a, more[j]? = some a → args.length + j = index → a.isNull = true) :
    given? (args ++ more) index = given? args index := by
  unfold given?
  by_cases hlt : index < args.length
  · rw [List.getElem?_append_left hlt]
  · have hle : args.length ≤ index := Nat.le_of_not_lt hlt
    rw [List.getElem?_append_right hle, List.getElem?_eq_none hle]
    cases hmore : more[index - args.length]? with
    | none => rfl
    | some a =>
      have hnull : a.isNull = true := h _ a hmore (Nat.add_sub_cancel' hle)
      simp [Option.filter, hnull]

/-- **Binding reads the mentioned arguments only.** Calls that agree there
come out alike, with any serializers, endpoint and options. So arguments may
be appended where none is mentioned, and null ones everywhere. -/
theorem reads_mentioned (serializers : Family Serializer) (endpoint : String) (o : Operation)
    (options : List Options) :
    (∀ args args', Agree o.mentioned args args' →
      Alike (bind serializers endpoint o args options)
        (bind serializers endpoint o args' options)) ∧
    ∀ args more, (∀ j a, more[j]? = some a →
        a.isNull = true ∨ args.length + j ∉ o.mentioned) →
      Alike (bind serializers endpoint o (args ++ more) options)
        (bind serializers endpoint o args options) := by
  refine ⟨fun args args' h => alike_of_agree h, fun args more h => alike_of_agree ?_⟩
  intro i hi
  refine given?_append fun j a hmore hj => ?_
  rcases h j a hmore with hnull | hnot
  · exact hnull
  · rw [hj] at hnot
    exact absurd hi hnot

/-- An operation that takes its endpoint, a slot and a parameter that may be
left out from the first, third and fourth argument. -/
def chapters : Operation :=
  { id := "chapters.list", method := "GET"
    path := ⟨"/\x7bbook\x7d/chapters", [.literal "/", .slot "book" 2, .literal "/chapters"]⟩
    query := [⟨"from", .argument 3 false none⟩], headers := [], accept := none, payload := none
    endpointArgument := some 0, parser := "json", mapper := none, filters := []
    unwrapping := none, literal := [], takesOptions := false }

/-- The second argument, a null fourth one and whatever follows do not count;
an endpoint that is missing is refused like one that is null. -/
theorem reads_mentioned_chapters :
    let endpoint : Url := ⟨"https", some "h", some "h", "/", none, none⟩
    let args : List Argument := [.uri endpoint, .text "read", .integer 7, .json .null]
    (∃ r, bind Serializer.builtin "" chapters args [] = .ok r ∧
      bind Serializer.builtin "" chapters [.uri endpoint, .bool true, .integer 7] [] = .ok r ∧
      bind Serializer.builtin "" chapters (args ++ [.text "more"]) [] = .ok r) ∧
    Alike (bind Serializer.builtin "" chapters [] [])
      (bind Serializer.builtin "" chapters [.null] []) ∧
    bind Serializer.builtin "" chapters [] [] ≠ bind Serializer.builtin "" chapters [.null] [] := by
  intro endpoint args
  have hagree : Agree chapters.mentioned args [.uri endpoint, .bool true, .integer 7] :=
    List.forall_mem_cons.2 ⟨rfl, List.forall_mem_cons.2 ⟨rfl, List.forall_mem_singleton.2 rfl⟩⟩
  have hmore : ∀ j a, [Argument.text "more"][j]? = some a →
      a.isNull = true ∨ args.length + j ∉ chapters.mentioned := by
    intro j a hj
    obtain ⟨hlt, -⟩ := List.getElem?_eq_some_iff.1 hj
    obtain rfl : j = 0 := by simpa using hlt
    exact .inr (by decide)
  have hnull : Agree chapters.mentioned [] [.null] :=
    List.forall_mem_cons.2 ⟨rfl, List.forall_mem_cons.2 ⟨rfl, List.forall_mem_singleton.2 rfl⟩⟩
  obtain ⟨hreads, happend⟩ := reads_mentioned Serializer.builtin "" chapters []
  obtain ⟨r, hr⟩ : ∃ r, bind Serializer.builtin "" chapters args [] = .ok r := ⟨_, rfl⟩
  exact ⟨⟨r, hr, (hreads _ _ hagree).ok_iff.1 hr, (happend _ _ hmore).ok_iff.2 hr⟩,
    hreads _ _ hnull, by decide⟩

end Binding

end RestCall
