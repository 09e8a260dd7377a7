import RestCall.Component.Basic
import RestCall.Response.Basic
/-!
# RestCall — failure mappers

A mapper is offered the failure of a call. It turns it into a result, into
a fault that says more, or gives it back. Three mappers give a meaning to
a resource that is not there; one names what the common statuses mean.
-/

namespace RestCall

/-- A mapper of failures. -/
structure Mapper where
  map : Fault → Except Fault Resolution

namespace Mapper

/-- A resource that is not there has a result; other failures stay. -/
def onNotFound (result : Resolution) : Mapper where
  map := fun fault => if fault.isNotFound then .ok result else .error fault

/-- Absence. -/
def nullOnNotFound : Mapper := onNotFound .absent

/-- Nothing. -/
def voidOnNotFound : Mapper := onNotFound .void

/-- An empty array. -/
def emptyOnNotFound : Mapper := onNotFound (.value (.array []))

/-- What a provider's answer says: the operation and the trimmed body. -/
def message (operation body : String) : String :=
  let said := Text.trimmed body
  if said.isEmpty then operation else operation ++ ": " ++ said

/-- The fault that a status stands for. -/
def classify : Fault → Fault
  | .response operation status body =>
    let message := message operation body
    if status = 401 ∨ status = 403 then .unauthorized status message
    else if status = 404 then .notFound message
    else if status = 409 then .illegalState status message
    else .response operation status body
  | fault => fault

/-- Names what statuses mean. -/
def mapHttp4xx : Mapper where
  map := fun fault => .error (classify fault)

/-- The mappers that are built in. -/
def builtin : Family Mapper :=
  [("null_on_not_found", nullOnNotFound), ("void_on_not_found", voidOnNotFound),
    ("empty_on_not_found", emptyOnNotFound), ("map_http_4xx", mapHttp4xx)].foldl
    (fun f (id, mapper) => f.register id mapper) (Family.empty "exception mapper")

end Mapper

end RestCall
