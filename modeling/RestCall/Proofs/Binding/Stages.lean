import RestCall.Binding.Basic
import RestCall.Proofs.Fault.Propagation
/-!
# RestCall — the stages of binding

A call is bound in stages: options have to be welcome, and then endpoint,
path, query, headers and payload are made, each from the operation, the
arguments and the options alone. `bound_iff` takes a bound request apart
into what its stages have made; `bind?_of_welcome` is the sequence that a
refusal goes through.
-/

namespace RestCall

namespace Binding

variable {serializers : Family Serializer} {endpoint : String} {o : Operation}
variable {args : List Argument} {options : List Options} {r : Request} {refusal : Refusal}

/-- What the stages of binding make: the endpoint without the path, the
path, the entries of query and headers, and the payload. -/
structure Stages where
  base : String
  path : String
  query : Entries
  own : Entries
  payload : Option Payload

namespace Stages

/-- The request that is put together from the stages. -/
def request (o : Operation) (options : List Options) (s : Stages) : Request :=
  { operation := o.id
    method := o.method
    endpoint := s.base ++ s.path
    query := Options.overQuery options ⟨s.query⟩
    headers := describePayload (Options.overHeaders options (declaredHeaders o s.own)) s.payload
    payload := s.payload
    filters := o.filters
    literal := o.literal }

/-- All stages have succeeded. -/
structure Made (serializers : Family Serializer) (endpoint : String) (o : Operation)
    (args : List Argument) (options : List Options) (s : Stages) : Prop where
  base : Binding.base endpoint o args = .ok s.base
  path : Binding.path o args = .ok s.path
  query : entries args .query o.query = .ok s.query
  own : entries args .header o.headers = .ok s.own
  payload : Binding.payload serializers o args options = .ok s.payload

end Stages

/-- Whether the options of a call are welcome. -/
def Welcome (o : Operation) (options : List Options) : Prop :=
  options = [] ∨ o.takesOptions = true

theorem not_welcome_iff : (!options.isEmpty && !o.takesOptions) = true ↔ ¬ Welcome o options := by
  simp [Welcome]

/-- What follows once the options are welcome. -/
theorem bind?_of_welcome (h : Welcome o options) :
    bind? serializers endpoint o args options = do
      let base ← Binding.base endpoint o args
      let path ← Binding.path o args
      let query ← entries args .query o.query
      let own ← entries args .header o.headers
      let payload ← Binding.payload serializers o args options
      return Stages.request o options ⟨base, path, query, own, payload⟩ := by
  rw [bind?, if_neg (fun hnot => not_welcome_iff.1 hnot h)]
  rfl

theorem bind?_of_not_welcome (h : ¬ Welcome o options) :
    bind? serializers endpoint o args options = .error .optionsNotTaken := by
  rw [bind?, if_pos (not_welcome_iff.2 h)]
  rfl

/-- **A bound request** is put together from stages that have all succeeded. -/
theorem bound_iff :
    bind serializers endpoint o args options = .ok r ↔
      Welcome o options ∧
        ∃ s : Stages, s.Made serializers endpoint o args options ∧ s.request o options = r := by
  rw [bind, mapError_eq_ok_iff]
  by_cases hw : Welcome o options
  · rw [bind?_of_welcome hw]
    simp only [bind_eq_ok_iff]
    constructor
    · rintro ⟨base, hbase, path, hpath, query, hquery, own, hown, payload, hpayload, hr⟩
      exact ⟨hw, ⟨base, path, query, own, payload⟩, ⟨hbase, hpath, hquery, hown, hpayload⟩,
        Except.ok.inj hr⟩
    · rintro ⟨-, s, hs, hr⟩
      exact ⟨s.base, hs.base, s.path, hs.path, s.query, hs.query, s.own, hs.own, s.payload,
        hs.payload, congrArg Except.ok hr⟩
  · rw [bind?_of_not_welcome hw]
    constructor
    · intro h
      cases h
    · rintro ⟨hw', -⟩
      exact absurd hw' hw

theorem operation_of_bind (h : bind serializers endpoint o args options = .ok r) :
    r.operation = o.id := by
  obtain ⟨-, s, -, rfl⟩ := bound_iff.1 h
  rfl

theorem filters_of_bind (h : bind serializers endpoint o args options = .ok r) :
    r.filters = o.filters := by
  obtain ⟨-, s, -, rfl⟩ := bound_iff.1 h
  rfl

end Binding

end RestCall
