import RestCall.Proofs.Response.Success
/-!
# RestCall — what becomes of failures

No failure is swallowed or taken for another one. A built-in mapper may
turn a resource that is not there into a result; every other failure stays
a failure, with the status and the timeout flag that it had. Cancellation
is not offered to a mapper, and neither is a successful response, which is
served from what its parser answers (`resolve_faithful`).
-/

namespace RestCall

/-! ## The same failure under another name -/

/-- Whether a fault says of a failure what another one says: the status,
and whether it is a timeout. Only the fault of a response may be replaced. -/
structure Fault.SameFailure (before after : Fault) : Prop where
  status : after.status? = before.status?
  timeout : after.isTimeout = before.isTimeout
  same : (∀ operation status body, before ≠ .response operation status body) → after = before

theorem Fault.SameFailure.refl (fault : Fault) : fault.SameFailure fault :=
  ⟨rfl, rfl, fun _ => rfl⟩

namespace Mapper

variable {id : String} {m : Mapper} {fault fault' : Fault} {result : Resolution}

/-! ## Mappers -/

/-- The result that a mapper of this name gives to a resource that is not
there. -/
def absence? (id : String) : Option Resolution :=
  if id = "null_on_not_found" then some .absent
  else if id = "void_on_not_found" then some .void
  else if id = "empty_on_not_found" then some (.value (.array []))
  else none

/-- The mappers that are built in: three that give a meaning to what is not
there, and one that gives none. -/
inductive IsBuiltin : String → Mapper → Prop
  | onNotFound (id : String) (result : Resolution) (meaning : absence? id = some result) :
    IsBuiltin id (onNotFound result)
  | mapHttp4xx : IsBuiltin "map_http_4xx" mapHttp4xx

theorem isBuiltin_of_find? (h : builtin.find? id = some m) : IsBuiltin id m := by
  have hmem : (id, m) ∈ [("null_on_not_found", nullOnNotFound),
      ("void_on_not_found", voidOnNotFound), ("empty_on_not_found", emptyOnNotFound),
      ("map_http_4xx", mapHttp4xx)] :=
    Family.mem_entries_of_find? h
  simp only [List.mem_cons, Prod.mk.injEq, List.not_mem_nil, or_false] at hmem
  rcases hmem with ⟨rfl, rfl⟩ | ⟨rfl, rfl⟩ | ⟨rfl, rfl⟩ | ⟨rfl, rfl⟩
  · exact .onNotFound _ _ rfl
  · exact .onNotFound _ _ rfl
  · exact .onNotFound _ _ rfl
  · exact .mapHttp4xx

theorem isNotFound_iff : fault.isNotFound = true ↔ fault.status? = some 404 :=
  beq_iff_eq

/-- **What a status stands for** keeps the status. -/
theorem sameFailure_classify (fault : Fault) : fault.SameFailure (classify fault) := by
  cases fault with
  | response operation status body =>
    have hsame : ∀ fault', (fault'.status? = some status ∧ fault'.isTimeout = false) →
        (Fault.response operation status body).SameFailure fault' :=
      fun fault' ⟨hstatus, htimeout⟩ =>
        ⟨hstatus, htimeout, fun hne => absurd rfl (hne operation status body)⟩
    simp only [classify]
    split
    · exact hsame _ ⟨rfl, rfl⟩
    · split
      · rename_i hstatus
        exact hsame _ ⟨by rw [hstatus]; rfl, rfl⟩
      · split
        · exact hsame _ ⟨rfl, rfl⟩
        · exact hsame _ ⟨rfl, rfl⟩
  | _ => exact .refl _

/-- **A failure has a result** when it is that of a resource that is not
there, and the mapper gives a meaning to that. -/
theorem map_eq_ok_iff (h : IsBuiltin id m) :
    m.map fault = .ok result ↔ fault.status? = some 404 ∧ absence? id = some result := by
  cases h with
  | onNotFound _ result' meaning =>
    simp only [onNotFound, meaning, Option.some.injEq, ← isNotFound_iff]
    split
    · rename_i hnone
      simp [hnone]
    · rename_i hnone
      simp [hnone]
  | mapHttp4xx =>
    have hmeaning : absence? "map_http_4xx" = none := rfl
    simp [mapHttp4xx, hmeaning]

/-- **A failure without a result** stays the failure that it was. -/
theorem sameFailure_of_map (h : IsBuiltin id m) (herr : m.map fault = .error fault') :
    fault.SameFailure fault' := by
  cases h with
  | onNotFound _ result' meaning =>
    simp only [onNotFound] at herr
    split at herr
    · cases herr
    · cases herr
      exact .refl fault
  | mapHttp4xx =>
    cases herr
    exact sameFailure_classify fault

end Mapper

namespace Resolver

variable {o : Operation} {fault fault' : Fault} {response : Response} {result : Resolution}

/-! ## Operations whose components are there -/

/-- Whether the parser and the mapper of an operation are there. -/
structure Knows (r : Resolver) (o : Operation) : Prop where
  parser : r.parsers.contains o.parser = true
  mapper : ∀ id, o.mapper = some id → r.mappers.contains id = true

theorem component_succeeds_iff {α : Type} {family : Family α} {id : String} :
    (∃ c, component family id o = .ok c) ↔ family.contains id = true := by
  simp only [component, mapError_eq_ok_iff, Family.resolve_succeeds_iff]

/-- **What is checked of an operation** is that its components are there. -/
theorem validate_eq_ok_iff {r : Resolver} : r.validate o = .ok () ↔ r.Knows o := by
  unfold validate
  rw [bind_eq_ok_iff]
  cases hmapper : o.mapper with
  | none =>
    constructor
    · rintro ⟨p, hp, -⟩
      refine ⟨component_succeeds_iff.1 ⟨p, hp⟩, fun id hid => ?_⟩
      cases hmapper.symm.trans hid
    · rintro ⟨hparser, -⟩
      obtain ⟨p, hp⟩ := component_succeeds_iff.2 hparser
      exact ⟨p, hp, rfl⟩
  | some id =>
    constructor
    · rintro ⟨p, hp, hrest⟩
      obtain ⟨m, hm, -⟩ := bind_eq_ok_iff.1 hrest
      refine ⟨component_succeeds_iff.1 ⟨p, hp⟩, fun id' hid => ?_⟩
      cases hmapper.symm.trans hid
      exact component_succeeds_iff.1 ⟨m, hm⟩
    · rintro ⟨hparser, hmappers⟩
      obtain ⟨p, hp⟩ := component_succeeds_iff.2 hparser
      obtain ⟨m, hm⟩ := component_succeeds_iff.2 (hmappers id hmapper)
      exact ⟨p, hp, bind_eq_ok_iff.2 ⟨m, hm, rfl⟩⟩

/-! ## Failures -/

/-- The result that the operation's mapper gives to a resource that is not
there. -/
def absence? (o : Operation) : Option Resolution := o.mapper.bind Mapper.absence?

/-- What becomes of a failure: it goes to the mapper, if there is one. -/
theorem mapFailure_builtin (fault : Fault) (h : builtin.Knows o) :
    (o.mapper = none ∧ builtin.mapFailure o fault = .error fault) ∨
      ∃ id m, o.mapper = some id ∧ Mapper.IsBuiltin id m ∧
        builtin.mapFailure o fault = m.map fault := by
  cases hmapper : o.mapper with
  | none => exact .inl ⟨rfl, by rw [mapFailure, hmapper]⟩
  | some id =>
    obtain ⟨m, hfind⟩ := Family.contains_iff.1 (h.mapper id hmapper)
    have hm : component Mapper.builtin id o = .ok m :=
      mapError_eq_ok_iff.2 (Family.resolve_eq_ok_iff.2 hfind)
    refine .inr ⟨id, m, rfl, Mapper.isBuiltin_of_find? hfind, ?_⟩
    simp only [mapFailure, hmapper, builtin, hm]
    rfl

theorem mapFailure_eq_ok_iff (h : builtin.Knows o) :
    builtin.mapFailure o fault = .ok result ↔
      fault.status? = some 404 ∧ absence? o = some result := by
  rcases mapFailure_builtin fault h with ⟨hnone, hmap⟩ | ⟨id, m, hid, hm, hmap⟩
  · simp [hmap, absence?, hnone]
  · rw [hmap, absence?, hid, Option.bind_some, Mapper.map_eq_ok_iff hm]

theorem sameFailure_of_mapFailure (h : builtin.Knows o)
    (herr : builtin.mapFailure o fault = .error fault') : fault.SameFailure fault' := by
  rcases mapFailure_builtin fault h with ⟨-, hmap⟩ | ⟨id, m, -, hm, hmap⟩
  · rw [hmap] at herr
    cases herr
    exact .refl fault
  · rw [hmap] at herr
    exact Mapper.sameFailure_of_map hm herr

/-! ## Outcomes -/

theorem resolve_error {r : Resolver} (hne : fault ≠ .cancelled) :
    r.resolve o (.error fault) = r.mapFailure o fault := by
  cases fault with
  | cancelled => exact absurd rfl hne
  | _ => rfl

theorem resolve_refused {r : Resolver} (h : response.isSuccess = false) :
    r.resolve o (.ok response) = r.mapFailure o (refused o response) := by
  rw [resolve, h]
  rfl

/-- **No failure is swallowed or taken for another one.** Of an operation
whose parser and mapper are built in, cancellation stays what it is; a
response without success has a result only if its status is 404 and the
mapper has one for that, and else a fault of its status; any other failure
keeps its status and its timeout flag, and itself if it is no response; and
a success is served from what its parser answers, whatever the mapper: its
value is unwrapped, to no null where something is unwrapped. -/
theorem resolve_faithful (h : builtin.Knows o) :
    builtin.resolve o (.error .cancelled) = .error .cancelled ∧
    (∀ response : Response, response.isSuccess = false →
      (∀ result, builtin.resolve o (.ok response) = .ok result ↔
        response.status = 404 ∧ absence? o = some result) ∧
      ∀ fault, builtin.resolve o (.ok response) = .error fault →
        fault.status? = some response.status) ∧
    (∀ fault, fault ≠ .cancelled → fault.status? ≠ some 404 →
      ∃ fault', builtin.resolve o (.error fault) = .error fault' ∧ fault.SameFailure fault') ∧
    ∀ response : Response, response.isSuccess = true →
      (∃ p, Parser.builtin.find? o.parser = some p ∧
        ∀ mappers mapper, Served o (p.parse response)
          (resolve ⟨Parser.builtin, mappers⟩ { o with mapper } (.ok response))) ∧
      (o.unwrapping ≠ none → builtin.resolve o (.ok response) ≠ .ok (.value .null)) := by
  refine ⟨rfl, fun response hfail => ⟨fun result => ?_, fun fault herr => ?_⟩,
    fun fault hne hstatus => ?_, fun response hsuccess => ?_⟩
  · rw [resolve_refused hfail, mapFailure_eq_ok_iff h, refused, Fault.status?, Option.some.injEq]
  · rw [resolve_refused hfail] at herr
    rw [(sameFailure_of_mapFailure h herr).status, refused, Fault.status?]
  · rw [resolve_error hne]
    cases hmap : builtin.mapFailure o fault with
    | error fault' => exact ⟨fault', rfl, sameFailure_of_mapFailure h hmap⟩
    | ok result => exact absurd ((mapFailure_eq_ok_iff h).1 hmap).1 hstatus
  · obtain ⟨p, hp⟩ := Family.contains_iff.1 h.parser
    refine ⟨⟨p, hp, fun mappers => ?_⟩, fun hunwrap => ?_⟩
    · exact served_resolve (r := ⟨Parser.builtin, mappers⟩) hsuccess hp
    · exact (served_resolve (r := builtin) hsuccess hp o.mapper).ne_null hunwrap

/-- An operation that lists what is there, from within the response. -/
def listing : Operation :=
  { id := "drives.list", method := "GET", path := ⟨"/drives", [.literal "/drives"]⟩, query := []
    headers := [], accept := none, payload := none, endpointArgument := none, parser := "json"
    mapper := some "empty_on_not_found", filters := [], unwrapping := some (.path "drives")
    literal := [], takesOptions := false }

theorem knows_listing : builtin.Knows listing :=
  ⟨rfl, fun id hid => by
    obtain rfl : "empty_on_not_found" = id := Option.some.inj hid
    rfl⟩

/-- A response of some status with a text for its body. -/
def answering (status : Nat) (body : String) : Response := ⟨status, Utf8.ofString body, .empty⟩

theorem resolve_faithful_listing :
    builtin.Knows listing ∧
      builtin.resolve listing (.ok (answering 404 "")) = .ok (.value (.array [])) ∧
      (∀ fault, builtin.resolve listing (.ok (answering 503 "")) = .error fault →
        fault.status? = some 503) ∧
      builtin.resolve listing (.ok (answering 200 "\x7b\"drives\":[\"boot\"]\x7d")) =
        .ok (.value (.array [.string "boot"])) ∧
      builtin.resolve listing (.ok (answering 200 "\x7b\"drives\":null\x7d")) = .ok .absent := by
  obtain ⟨-, hanswered, -, hserved⟩ := resolve_faithful knows_listing
  refine ⟨knows_listing, ((hanswered (answering 404 "") rfl).1 _).2 ⟨rfl, rfl⟩,
    (hanswered (answering 503 "") rfl).2, ?_, ?_⟩
  · obtain ⟨⟨p, hp, hresolve⟩, -⟩ := hserved (answering 200 "\x7b\"drives\":[\"boot\"]\x7d") rfl
    obtain rfl : Parser.json = p := Option.some.inj hp
    have hboot : Unwraps listing.unwrapping (.value (.object [("drives", .array [.string "boot"])]))
        (.value (.array [.string "boot"])) := .found rfl nofun
    exact (hresolve Mapper.builtin listing.mapper).unique (.unwrapped hboot)
  · obtain ⟨⟨p, hp, hresolve⟩, -⟩ := hserved (answering 200 "\x7b\"drives\":null\x7d") rfl
    obtain rfl : Parser.json = p := Option.some.inj hp
    have hnull : Unwraps listing.unwrapping (.value (.object [("drives", .null)])) .absent :=
      .null rfl
    exact (hresolve Mapper.builtin listing.mapper).unique (.unwrapped hnull)

end Resolver

end RestCall
