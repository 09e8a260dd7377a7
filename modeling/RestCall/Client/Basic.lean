import RestCall.Binding.Basic
import RestCall.Filter.Chain
import RestCall.Operation.Catalogue
import RestCall.Response.Resolver
import RestCall.Retry.Policy
/-!
# RestCall — clients

A client knows the operations of its providers and the components they
name. To prepare a call it binds the arguments and applies the filters of
the operation to the request, with the credentials and the time as they
are at that moment.
-/

namespace RestCall

/-- A client. -/
structure Client where
  catalogue : Catalogue
  endpoint : String
  serializers : Family Serializer
  filters : Family Filter
  resolver : Resolver
  retry : RetryPolicy

namespace Client

/-- The operation of an id. -/
def describe (c : Client) (id : String) : Except Fault Operation :=
  (c.catalogue.describe id).mapError .declaration

/-- The request of a call of an operation. -/
def prepareWith (c : Client) (m : Moment) (o : Operation) (args : List Argument)
    (options : List Options) : Except Fault Request := do
  let bound ← Binding.bind c.serializers c.endpoint o args options
  let chain ← (FilterChain.resolve c.filters o.id bound.filters).mapError .declaration
  chain.apply m bound

/-- The request of a call. -/
def prepare (c : Client) (m : Moment) (id : String) (args : List Argument)
    (options : List Options) : Except Fault Request := do
  c.prepareWith m (← c.describe id) args options

end Client

end RestCall
