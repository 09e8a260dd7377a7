import RestCall.Proofs.Component.Lookup
import RestCall.Proofs.Fault.Propagation
import RestCall.Response.Resolver
/-!
# RestCall — what becomes of a success

A successful response is what its parser makes of it. A fault of the parser
stays that fault, and is given the operation's name if it has none
(`Attributed`). A value is unwrapped as the operation says: it is what its path
leads to, or what is left of it at its depth, and absence where that is nothing
or null (`Unwraps`). These two tell the answer to a success (`served_iff`),
whatever mapper the operation has (`served_resolve`).
-/

namespace RestCall

namespace Resolver

variable {o : Operation} {r : Resolver} {p : Parser} {response : Response}
variable {operation : String} {fault fault' : Fault}
variable {unwrapping : Option Unwrapping} {parsed result : Resolution}
variable {read answer answer' : Except Fault Resolution}

/-! ## Faults -/

/-- **A fault that has been given the operation's name.** Only one of a parser
takes it, and only when it has none. -/
inductive Attributed (operation : String) : Fault → Fault → Prop
  | given (message : String) (c : Context) (hnone : c.operation = none) :
    Attributed operation (.parse message c) (.parse message { c with operation := some operation })
  | kept (fault : Fault) (hnamed : ∀ message c, fault = .parse message c → c.operation ≠ none) :
    Attributed operation fault fault

theorem located_parse (message : String) (c : Context) :
    located operation (.parse message c) =
      .parse message { c with operation := c.operation.or (some operation) } := rfl

theorem attributed_iff : Attributed operation fault fault' ↔ located operation fault = fault' := by
  constructor
  · intro h
    cases h with
    | given message c hnone => rw [located_parse, hnone, Option.none_or]
    | kept _ hnamed =>
      cases fault with
      | parse message c =>
        obtain ⟨name, hname⟩ := Option.ne_none_iff_exists'.1 (hnamed message c rfl)
        rw [located_parse, hname, Option.some_or, ← hname]
      | _ => rfl
  · rintro rfl
    cases fault with
    | parse message c =>
      rw [located_parse]
      cases hname : c.operation with
      | none => exact .given message c hname
      | some name =>
        rw [Option.some_or, ← hname]
        refine .kept _ fun message' c' heq => ?_
        cases heq
        rw [hname]
        exact Option.some_ne_none name
    | _ => exact .kept _ nofun

/-! ## Unwrapping -/

/-- **What is unwrapped from a result.** Where nothing is to be unwrapped, and
where there is no value, it stays. Of a value it is the value that the path
leads to, or the one at the depth; what is not there, or null, is absence. -/
inductive Unwraps : Option Unwrapping → Resolution → Resolution → Prop
  | whole (kept : Resolution) : Unwraps none kept kept
  | valueless (u : Option Unwrapping) {kept : Resolution} (hnone : kept.value? = none) :
    Unwraps u kept kept
  | found {path : String} {v inner : Json} (hat : v.at? path = some inner) (hne : inner ≠ .null) :
    Unwraps (some (.path path)) (.value v) (.value inner)
  | missing {path : String} {v : Json} (hat : v.at? path = none) :
    Unwraps (some (.path path)) (.value v) .absent
  | null {path : String} {v : Json} (hat : v.at? path = some .null) :
    Unwraps (some (.path path)) (.value v) .absent
  | reached {depth : Nat} {v inner : Json} (hat : v.descend depth = inner) (hne : inner ≠ .null) :
    Unwraps (some (.depth depth)) (.value v) (.value inner)
  | bottomed {depth : Nat} {v : Json} (hat : v.descend depth = .null) :
    Unwraps (some (.depth depth)) (.value v) .absent

theorem unwrap_of_some {u : Unwrapping} {v inner : Json} (hinner : unwrapped v u = some inner)
    (hne : inner ≠ .null) : unwrap (some u) (.value v) = .value inner := by
  simp only [unwrap, hinner]

theorem unwrap_of_none {u : Unwrapping} {v : Json} (hinner : unwrapped v u = none) :
    unwrap (some u) (.value v) = .absent := by
  simp only [unwrap, hinner]

theorem unwrap_of_null {u : Unwrapping} {v : Json} (hinner : unwrapped v u = some .null) :
    unwrap (some u) (.value v) = .absent := by
  simp only [unwrap, hinner]

theorem unwraps_iff : Unwraps unwrapping parsed result ↔ unwrap unwrapping parsed = result := by
  constructor
  · intro h
    cases h with
    | whole => cases parsed <;> rfl
    | valueless _ hnone =>
      cases parsed with
      | value v => cases hnone
      | _ => rfl
    | found hat hne => exact unwrap_of_some hat hne
    | missing hat => exact unwrap_of_none hat
    | null hat => exact unwrap_of_null hat
    | reached hat hne => exact unwrap_of_some (congrArg some hat) hne
    | bottomed hat => exact unwrap_of_null (congrArg some hat)
  · rintro rfl
    cases parsed with
    | absent => exact .valueless unwrapping rfl
    | void => exact .valueless unwrapping rfl
    | value v =>
      cases unwrapping with
      | none => exact .whole _
      | some u =>
        cases u with
        | path path =>
          cases hat : v.at? path with
          | none => exact unwrap_of_none (u := .path path) hat ▸ .missing hat
          | some inner =>
            by_cases hne : inner = .null
            · obtain rfl := hne
              exact unwrap_of_null (u := .path path) hat ▸ .null hat
            · exact unwrap_of_some (u := .path path) hat hne ▸ .found hat hne
        | depth depth =>
          by_cases hne : v.descend depth = .null
          · exact unwrap_of_null (u := .depth depth) (congrArg some hne) ▸ .bottomed hne
          · exact unwrap_of_some (u := .depth depth) rfl hne ▸ .reached rfl hne

/-- **Unwrapping gives no null**: what it leads to is a value or absence. -/
theorem Unwraps.ne_null {u : Unwrapping} (h : Unwraps (some u) parsed result) :
    result ≠ .value .null := by
  rintro rfl
  cases h with
  | valueless _ hnone => cases hnone
  | found hat hne => exact hne rfl
  | reached hat hne => exact hne rfl

/-! ## Answers -/

/-- **What a parser's answer becomes**: a fault is given the operation's name,
and a result is unwrapped. -/
inductive Served (o : Operation) : Except Fault Resolution → Except Fault Resolution → Prop
  | refused {before after : Fault} (h : Attributed o.id before after) :
    Served o (.error before) (.error after)
  | unwrapped {before after : Resolution} (h : Unwraps o.unwrapping before after) :
    Served o (.ok before) (.ok after)

theorem served_iff :
    Served o read answer ↔ (read.mapError (located o.id)).map (unwrap o.unwrapping) = answer := by
  constructor
  · intro h
    cases h with
    | refused h => exact congrArg Except.error (attributed_iff.1 h)
    | unwrapped h => exact congrArg Except.ok (unwraps_iff.1 h)
  · rintro rfl
    cases read with
    | error fault => exact .refused (attributed_iff.2 rfl)
    | ok parsed => exact .unwrapped (unwraps_iff.2 rfl)

/-- **There is one answer.** -/
theorem Served.unique (h : Served o read answer) (h' : Served o read answer') : answer = answer' :=
  (served_iff.1 h).symm.trans (served_iff.1 h')

/-- **Where something is unwrapped**, no answer is null. -/
theorem Served.ne_null (h : Served o read answer) (hunwrap : o.unwrapping ≠ none) :
    answer ≠ .ok (.value .null) := by
  rintro rfl
  cases h with
  | unwrapped h =>
    obtain ⟨u, hu⟩ := Option.ne_none_iff_exists'.1 hunwrap
    rw [hu] at h
    exact h.ne_null rfl

/-- What becomes of a success: it is parsed and unwrapped. -/
theorem resolve_success (h : response.isSuccess = true)
    (hp : r.parsers.find? o.parser = some p) :
    r.resolve o (.ok response) =
      ((p.parse response).mapError (located o.id)).map (unwrap o.unwrapping) := by
  have hcomponent : component r.parsers o.parser o = .ok p :=
    mapError_eq_ok_iff.2 (Family.resolve_eq_ok_iff.2 hp)
  simp only [resolve, h, if_true, hcomponent]
  change ((p.parse response).mapError (located o.id) >>= fun parsed =>
    pure (unwrap o.unwrapping parsed)) = _
  cases (p.parse response).mapError (located o.id) <;> rfl

/-- **A success is served** from what its parser answers, whatever the mapper. -/
theorem served_resolve (h : response.isSuccess = true)
    (hp : r.parsers.find? o.parser = some p) (mapper : Option String) :
    Served o (p.parse response) (r.resolve { o with mapper } (.ok response)) :=
  served_iff.2 (resolve_success (o := { o with mapper }) h hp).symm

end Resolver

end RestCall
