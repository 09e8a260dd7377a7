import RestCall.Proofs.Binding.Mentioned
/-!
# RestCall — arguments that are passed as JSON

An argument and its JSON value have one text, lists within lists and what is
null at any depth included, as long as no double stands outside of a JSON
value: a double as an argument is written in another layout than in JSON. So
it does not matter to paths, queries, headers and payloads which arguments of
a call are passed as JSON (`bind_structured`), with one exception. A parameter
that is confined to some names takes texts and names only, and refuses the
JSON string of the name that it would take (`value?_passed`).
-/

namespace RestCall

/-! ## One text -/

namespace Argument

variable {a a' : Argument}

mutual

/-- Whether an argument has no double, other than within JSON values. -/
def isFloatless : Argument → Bool
  | .float _ => false
  | .list items => areFloatless items
  | _ => true

/-- Whether no argument has a double, other than within JSON values. -/
def areFloatless : List Argument → Bool
  | [] => true
  | a :: rest => a.isFloatless && areFloatless rest

end

mutual

/-- **An argument and its JSON value** have one text. -/
theorem wire?_toJson : ∀ a : Argument, a.isFloatless = true → a.toJson.wire? = a.wire?
  | .null, _ => rfl
  | .bool _, _ => rfl
  | .integer _, _ => rfl
  | .float _, h => by cases h
  | .text _, _ => rfl
  | .name _, _ => rfl
  | .uri _, _ => rfl
  | .json _, _ => rfl
  | .list items, h => by rw [toJson, Json.wire?, wires_toJsons items h, wire?]

theorem wires_toJsons : ∀ items : List Argument, areFloatless items = true →
    Json.wires (toJsons items) = wires items
  | [], _ => rfl
  | a :: rest, h => by
    obtain ⟨hfirst, hrest⟩ := Bool.and_eq_true_iff.1 h
    rw [toJsons, Json.wires, wires, wire?_toJson a hfirst, wires_toJsons rest hrest]

end

/-- **An argument in one of two forms**: as it is, or as its JSON value. -/
inductive PassedAs : Argument → Argument → Prop
  | native (a : Argument) : PassedAs a a
  | structured {a : Argument} (h : a.isFloatless = true) : PassedAs a (.json a.toJson)

theorem PassedAs.wire?_eq (h : PassedAs a a') : a'.wire? = a.wire? := by
  cases h with
  | native => rfl
  | structured hfloatless => exact wire?_toJson a hfloatless

theorem PassedAs.toJson_eq (h : PassedAs a a') : a'.toJson = a.toJson := by
  cases h <;> rfl

theorem PassedAs.isNull_eq (h : PassedAs a a') : a'.isNull = a.isNull := by
  rw [Bool.eq_iff_iff, ← wire?_eq_none_iff, ← wire?_eq_none_iff, h.wire?_eq]

/-- A text and a name of one string have its JSON value and its text. -/
theorem toJson_of_name {s : String} (h : a = .text s ∨ a = .name s) :
    a.toJson = .string s ∧ a.wire? = some s := by
  rcases h with rfl | rfl <;> exact ⟨rfl, rfl⟩

/-- Arguments position by position. -/
theorem PassedAs.getElem? {args args' : List Argument} (h : List.Forall₂ PassedAs args args')
    (index : Nat) : (args[index]? = none ∧ args'[index]? = none) ∨
      ∃ a a', args[index]? = some a ∧ args'[index]? = some a' ∧ a.PassedAs a' := by
  induction h generalizing index with
  | nil => exact .inl ⟨rfl, rfl⟩
  | cons hfirst _ ih =>
    cases index with
    | zero => exact .inr ⟨_, _, rfl, rfl, hfirst⟩
    | succ index => exact ih index

end Argument

/-! ## Payloads -/

namespace Serializer

variable {id : String} {s : Serializer} {a a' : Argument}

theorem argument_passed (hs : IsBuiltin id s) (h : a.PassedAs a') :
    s.argument a' = s.argument a := by
  cases hs with
  | json => simp only [json, h.toJson_eq]
  | keyValues => simp only [keyValues, h.toJson_eq]
  | form => simp only [form, h.toJson_eq]
  | raw => simp only [raw, h.wire?_eq]

/-- **Members of an object** make the fields of a form that they make as
arguments of their own. -/
theorem wireFields_toJson {members : List (String × Argument)}
    (h : ∀ m ∈ members, m.2.isFloatless = true) :
    wireFields (members.map fun m => (m.1, m.2.toJson)) =
      members.filterMap fun m => m.2.wire?.map fun s => (m.1, s) := by
  rw [wireFields, List.filterMap_map]
  refine List.filterMap_congr fun m hm => ?_
  exact congrArg (Option.map fun s => (m.1, s)) (m.2.wire?_toJson (h m hm))

end Serializer

/-! ## Binding -/

/-- The parameters that make the fields of a payload. -/
def PayloadSource.parameters : PayloadSource → List Parameter
  | .argument _ => []
  | .fields ps => ps

/-- The parameters of an operation: those of its query, its headers and its
payload. -/
def Operation.parameters (o : Operation) : List Parameter :=
  o.query ++ o.headers ++ o.payload.toList.flatMap fun spec => spec.source.parameters

namespace Binding

open Argument

variable {endpoint : String} {o : Operation} {args args' : List Argument} {options : List Options}
variable {part : Part} {p : Parameter} {ps : List Parameter} {index : Nat}

/-- A parameter that is confined to some names, and whose argument is one of
them as a text or a name in one call and its JSON string in another. -/
def Confined (args args' : List Argument) (p : Parameter) (names : List String) (text : String) :
    Prop :=
  ∃ index required, p.origin = .argument index required (some names) ∧ text ∈ names ∧
    (args[index]? = some (.text text) ∨ args[index]? = some (.name text)) ∧
    args'[index]? = some (.json (.string text))

/-- What is given as one argument is given in either form. -/
theorem given?_passed (h : List.Forall₂ PassedAs args args') (index : Nat) :
    (given? args index = none ∧ given? args' index = none) ∨
      ∃ a a', given? args index = some a ∧ given? args' index = some a' ∧ a.PassedAs a' := by
  rw [given?, given?]
  rcases PassedAs.getElem? h index with ⟨harg, harg'⟩ | ⟨a, a', harg, harg', hpassed⟩
  · exact .inl ⟨by rw [harg]; rfl, by rw [harg']; rfl⟩
  · rw [harg, harg', Option.filter_some, Option.filter_some, hpassed.isNull_eq]
    cases a.isNull with
    | true => exact .inl ⟨rfl, rfl⟩
    | false => exact .inr ⟨a, a', rfl, rfl, hpassed⟩

theorem path_passed (h : List.Forall₂ PassedAs args args') : path o args' = path o args := by
  have htoken : ∀ token ∈ o.path.tokens,
      tokenText o.literal args' token = tokenText o.literal args token := by
    intro token _
    cases token with
    | literal text => rfl
    | slot name index =>
      rcases PassedAs.getElem? h index with ⟨harg, harg'⟩ | ⟨a, a', harg, harg', hpassed⟩
      · rw [tokenText, tokenText, harg, harg']
      · rw [tokenText, tokenText, harg, harg', Option.bind_some, Option.bind_some,
          hpassed.wire?_eq]
  rw [path, path, mapM_congr htoken]

/-- **A parameter is worth the same** whether its argument is passed as JSON or
not, unless it is confined to some names: a name that it takes is refused as
a JSON string. -/
theorem value?_passed (part : Part) (p : Parameter) (h : List.Forall₂ PassedAs args args') :
    value? args' part p = value? args part p ∨
      ∃ names text, Confined args args' p names text ∧
        value? args part p = .ok (some text) ∧
        value? args' part p = .error (.notAllowed part p.key text names) := by
  cases horigin : p.origin with
  | fixed value => exact .inl (by simp only [value?, horigin])
  | argument index required allowed =>
    rcases given?_passed h index with ⟨hnone, hnone'⟩ | ⟨a, a', hgiven, hgiven', hpassed⟩
    · left
      rw [value?_of_not_given horigin hnone, value?_of_not_given horigin hnone']
    · obtain ⟨text, htext, hvalue⟩ := value?_of_given part horigin hgiven
      obtain ⟨text', htext', hvalue'⟩ := value?_of_given part horigin hgiven'
      obtain rfl : text' = text :=
        Option.some.inj (htext'.symm.trans (hpassed.wire?_eq.trans htext))
      rw [hvalue, hvalue']
      cases hpassed with
      | native => exact .inl rfl
      | structured hfloatless =>
        cases allowed with
        | none => exact .inl rfl
        | some names =>
          -- a JSON value is never taken for a name; the argument itself may be one
          have hjson : (isNameLike (.json a.toJson) && names.contains text') = false := rfl
          rw [Option.elim_some, Option.elim_some, hjson, if_neg Bool.false_ne_true]
          cases htaken : isNameLike a && names.contains text' with
          | false => exact .inl (if_neg Bool.false_ne_true).symm
          | true =>
            obtain ⟨s, hs, hname⟩ := (isNameLike_iff htext).1 htaken
            obtain ⟨hstring, hwire⟩ := toJson_of_name hname
            obtain rfl : s = text' := Option.some.inj (hwire.symm.trans htext)
            have harg : args[index]? = some a := (given?_eq_some_iff.1 hgiven).1
            have harg' : args'[index]? = some (.json (.string s)) :=
              hstring ▸ (given?_eq_some_iff.1 hgiven').1
            have hnative : args[index]? = some (.text s) ∨ args[index]? = some (.name s) :=
              hname.imp (fun h : a = .text s => h ▸ harg) fun h : a = .name s => h ▸ harg
            exact .inr ⟨names, s, ⟨index, required, horigin, hs, hnative, harg'⟩, rfl, rfl⟩

/-! ## Whole calls -/

/-- No parameter is confined to a name that the second call passes as JSON. -/
def Unconfined (args args' : List Argument) (ps : List Parameter) : Prop :=
  ∀ p ∈ ps, ∀ names text, ¬ Confined args args' p names text

theorem entries_passed (h : List.Forall₂ PassedAs args args') (hfree : Unconfined args args' ps) :
    entries args' part ps = entries args part ps := by
  induction ps with
  | nil => rfl
  | cons p ps ih =>
    obtain ⟨hp, hps⟩ := List.forall_mem_cons.1 hfree
    rcases value?_passed part p h with hsame | ⟨names, text, hconfined, -⟩
    · rw [entries, entries, hsame, ih hps]
    · exact absurd hconfined (hp names text)

theorem payloadData_passed {id : String} {s : Serializer} {source : PayloadSource}
    (hs : Serializer.IsBuiltin id s) (h : List.Forall₂ PassedAs args args')
    (hfree : Unconfined args args' source.parameters) :
    payloadData s args' options source = payloadData s args options source := by
  cases source with
  | argument index =>
    rw [payloadData_argument, payloadData_argument]
    rcases given?_passed h index with ⟨hnone, hnone'⟩ | ⟨a, a', hgiven, hgiven', hpassed⟩
    · rw [hnone, hnone']
    · rw [hgiven, hgiven', Option.elim_some, Option.elim_some,
        Serializer.argument_passed hs hpassed]
  | fields ps =>
    have hentries : entries args' .payload ps = entries args .payload ps := entries_passed h hfree
    rw [payloadData, payloadData, payloadFields, payloadFields, hentries]

theorem payload_passed (h : List.Forall₂ PassedAs args args')
    (hfree : Unconfined args args' (o.payload.toList.flatMap fun spec => spec.source.parameters)) :
    payload Serializer.builtin o args' options = payload Serializer.builtin o args options := by
  unfold payload
  cases hspec : o.payload with
  | none => rfl
  | some spec =>
    cases hs : Serializer.builtin.resolve spec.serializer o.id with
    | error fault => simp only [hs]; rfl
    | ok s =>
      have hbuiltin := Serializer.isBuiltin_of_find? (Family.resolve_eq_ok_iff.1 hs)
      have hdata : payloadData s args' options spec.source =
          payloadData s args options spec.source := by
        refine payloadData_passed hbuiltin h fun p hp => hfree p ?_
        rw [hspec]
        exact List.mem_flatMap.2 ⟨spec, List.mem_singleton_self spec, hp⟩
      simp only [hs]
      change payloadData s args' options spec.source >>= _ =
        payloadData s args options spec.source >>= _
      rw [hdata]

/-- **An endpoint** that is not given as a URL is the same when it is passed as
JSON. -/
theorem base_passed (endpoint : String) (h : List.Forall₂ PassedAs args args')
    (hurl : ∀ index u, o.endpointArgument = some index → args[index]? = some (.uri u) →
      args'[index]? = some (.uri u)) :
    base endpoint o args' = base endpoint o args := by
  unfold base
  cases hindex : o.endpointArgument with
  | none => rfl
  | some index =>
    have hsame : endpointUrl index args'[index]? = endpointUrl index args[index]? := by
      rcases PassedAs.getElem? h index with ⟨harg, harg'⟩ | ⟨a, a', harg, harg', hpassed⟩
      · rw [harg, harg']
      · rw [harg, harg']
        cases hpassed with
        | native => rfl
        | structured hfloatless =>
          have hne : ∀ u, a ≠ .uri u := by
            rintro u rfl
            have hkept := hurl index u hindex harg
            rw [harg'] at hkept
            cases hkept
          have hjson : ∀ u, Argument.json a.toJson ≠ .uri u := fun u hu => by cases hu
          rw [endpointUrl_of_ne_uri hne, endpointUrl_of_ne_uri hjson,
            (PassedAs.structured hfloatless).wire?_eq]
    simp only [hsame]

theorem bind_passed (h : List.Forall₂ PassedAs args args')
    (hurl : ∀ index u, o.endpointArgument = some index → args[index]? = some (.uri u) →
      args'[index]? = some (.uri u))
    (hfree : Unconfined args args' o.parameters) :
    bind Serializer.builtin endpoint o args' options =
      bind Serializer.builtin endpoint o args options := by
  unfold Unconfined Operation.parameters at hfree
  rw [List.forall_mem_append, List.forall_mem_append] at hfree
  obtain ⟨⟨hquery, hheaders⟩, hfields⟩ := hfree
  unfold bind
  by_cases hw : Welcome o options
  · rw [bind?_of_welcome hw, bind?_of_welcome hw, base_passed endpoint h hurl, path_passed h,
      entries_passed h hquery, entries_passed h hheaders, payload_passed h hfields]
  · rw [bind?_of_not_welcome hw, bind?_of_not_welcome hw]

/-- **Arguments and their JSON values bind alike.** An argument without doubles
outside of JSON values has the text of its JSON value and is absent when that
is. So whichever of the arguments are passed as JSON, the path is the same and so
is every parameter of query, headers and payload, except that one that is
confined to some names refuses the JSON string of a name that it takes as a
text or a name. An object makes the form that its members make as fields. And the
whole request is the same when no parameter is so confined and a URL that
gives the endpoint is passed as it is. -/
theorem bind_structured (h : List.Forall₂ PassedAs args args') :
    (∀ a : Argument, a.isFloatless = true →
      (Argument.json a.toJson).wire? = a.wire? ∧ (Argument.json a.toJson).isNull = a.isNull) ∧
    (∀ o : Operation, path o args' = path o args) ∧
    (∀ part p, value? args' part p = value? args part p ∨
      ∃ names text, Confined args args' p names text ∧
        value? args part p = .ok (some text) ∧
        value? args' part p = .error (.notAllowed part p.key text names)) ∧
    (∀ members : List (String × Argument), (∀ m ∈ members, m.2.isFloatless = true) →
      Serializer.form.argument (.json (.object (members.map fun m => (m.1, m.2.toJson)))) =
        Serializer.form.fields (members.filterMap fun m => m.2.wire?.map fun s => (m.1, s))) ∧
    ∀ endpoint o options,
      (∀ index u, o.endpointArgument = some index → args[index]? = some (.uri u) →
        args'[index]? = some (.uri u)) →
      Unconfined args args' o.parameters →
      bind Serializer.builtin endpoint o args' options =
        bind Serializer.builtin endpoint o args options := by
  refine ⟨fun a ha => ?_, fun o => path_passed h, fun part p => value?_passed part p h,
    fun members hmembers => ?_, fun endpoint o options => bind_passed h⟩
  · have hpassed : a.PassedAs (.json a.toJson) := .structured ha
    exact ⟨hpassed.wire?_eq, hpassed.isNull_eq⟩
  · rw [← Serializer.wireFields_toJson hmembers]
    rfl

/-- An operation that takes one argument into its path, its query, a header and
a field, and another one into a parameter that is confined to two names. -/
def polling : Operation :=
  { id := "servers.poll", method := "POST"
    path := ⟨"/servers/\x7bids\x7d", [.literal "/servers/", .slot "ids" 0]⟩
    query := [⟨"ids", .argument 0 true none⟩,
      ⟨"state", .argument 1 false (some ["running", "stopped"])⟩]
    headers := [⟨"X-Ids", .argument 0 true none⟩], accept := none
    payload := some ⟨.fields [⟨"ids", .argument 0 true none⟩], "form", "text/plain"⟩
    endpointArgument := none, parser := "json", mapper := none, filters := []
    unwrapping := none, literal := [','], takesOptions := false }

/-- Lists within lists, one of them empty and one of them JSON, and what is null
at two depths. -/
def nested : Argument :=
  .list [.integer (-1), .null, .list [], .json (.array [.null, .string "a/b"]), .list [.bool true]]

theorem bind_structured_polling :
    List.Forall₂ PassedAs [nested, .text "running"] [.json nested.toJson, .text "running"] ∧
      nested.wire? = some "-1,,a/b,true" ∧ (Argument.json nested.toJson).wire? = nested.wire? ∧
      ∃ r, bind Serializer.builtin "http://h" polling [nested, .text "running"] [] = .ok r ∧
        bind Serializer.builtin "http://h" polling [.json nested.toJson, .text "running"] [] =
          .ok r ∧
        r.uri = "http://h/servers/-1,,a%2Fb,true?ids=-1,,a%2Fb,true&state=running" ∧
        r.headers.getAll "X-Ids" = ["-1,,a/b,true"] ∧
        r.payload = some ⟨Utf8.ofString "ids=-1%2C%2Ca%2Fb%2Ctrue", "text/plain"⟩ := by
  have hpassed : List.Forall₂ PassedAs [nested, .text "running"]
      [.json nested.toJson, .text "running"] :=
    .cons (.structured rfl) (.cons (.native _) .nil)
  have hfree : Unconfined [nested, .text "running"] [.json nested.toJson, .text "running"]
      polling.parameters := by
    rintro p - names text ⟨index, required, -, -, hnative, hjson⟩
    match index with
    | 0 => simp [nested] at hnative
    | 1 => simp at hjson
    | _ + 2 => simp at hjson
  obtain ⟨htext, -, -, -, hbind⟩ := bind_structured hpassed
  have hr : bind Serializer.builtin "http://h" polling [nested, .text "running"] [] =
      .ok ⟨"servers.poll", "POST", "http://h/servers/-1,,a%2Fb,true",
        ⟨[("ids", "-1,,a/b,true"), ("state", "running")]⟩,
        ⟨[("X-Ids", "-1,,a/b,true"), ("Content-Type", "text/plain"), ("Content-Length", "24")]⟩,
        some ⟨Utf8.ofString "ids=-1%2C%2Ca%2Fb%2Ctrue", "text/plain"⟩, [], [',']⟩ := rfl
  have hsame := hbind "http://h" polling [] (fun index u hindex => by cases hindex) hfree
  exact ⟨hpassed, rfl, (htext nested rfl).1, _, hr, hsame.trans hr, rfl, rfl, rfl⟩

/-- **A name is refused as JSON.** The text that the parameter takes is that of
the JSON string, which the same parameter refuses. -/
theorem bind_refuses_structured_name :
    (Argument.json (Argument.text "running").toJson).wire? = (Argument.text "running").wire? ∧
      (∃ r, bind Serializer.builtin "http://h" polling [.integer 1, .text "running"] [] = .ok r ∧
        r.query.get? "state" = some "running") ∧
      bind Serializer.builtin "http://h" polling
          [.integer 1, .json (Argument.text "running").toJson] [] =
        .error (.binding "malformed enum argument 'running', expected one of: running, stopped"
          ⟨some "servers.poll", some "query.state", none, some "binder"⟩) :=
  ⟨rfl, ⟨_, rfl, rfl⟩, rfl⟩

end Binding

end RestCall
