import RestCall.Manifest.Basic
import RestCall.Proofs.Operation.Declaration
/-!
# RestCall — the operations of a manifest

An operation has the id that it is declared with, so the operations of a
manifest are those of its entries, one for each, in their order and under
their ids. An entry is written out as clauses, of which at most one gives a
payload and exactly one adds filters, so payload and filters of the operation
are what these say.
-/

namespace RestCall

namespace Manifest

variable {m : Manifest} {shared : Shared} {e : OperationEntry} {o : Operation}
variable {os : List Operation} {clauses : List Clause}

theorem OperationEntry.id_of_operation (h : e.operation shared = .ok o) : o.id = e.id := by
  obtain ⟨method, -, h⟩ := bind_eq_ok_iff.1 h
  obtain ⟨clauses, -, h⟩ := bind_eq_ok_iff.1 h
  exact Operation.id_of_declare h

/-- The ids of a manifest's entries, in order. -/
def ids (m : Manifest) : List String := m.operations.map OperationEntry.id

/-- **The operations of a manifest** have the ids of its entries. -/
theorem ids_of_declared (h : m.declared = .ok os) : os.map Operation.id = m.ids :=
  map_eq_of_mapM h fun _ _ => OperationEntry.id_of_operation

/-! ## What the clauses of an entry say -/

theorem clause?_eq {α : Type} {make : α → Clause} {value : Option α} :
    clause? make value = value.toList.map make := by
  cases value <;> rfl

/-- **The clauses of an entry** give its payload, if any, and add the shared
filters together with its own. -/
theorem OperationEntry.clauses_spec (h : e.clauses shared = .ok clauses) :
    ∃ payload, e.payload.mapM (PayloadEntry.spec e.id) = .ok payload ∧
      clauses.filterMap Clause.payload? = payload.toList ∧
      clauses.flatMap Clause.filterIds = mergedFilters shared.filters e.filters := by
  obtain ⟨query, -, h⟩ := bind_eq_ok_iff.1 h
  obtain ⟨headers, -, h⟩ := bind_eq_ok_iff.1 h
  obtain ⟨payload, hpayload, h⟩ := bind_eq_ok_iff.1 h
  refine ⟨payload, hpayload, ?_⟩
  rw [← Except.ok.inj h]
  constructor
  · simp [clause?_eq, List.filterMap_cons, List.filterMap_map, Function.comp_def, Clause.payload?]
  · simp [clause?_eq, List.flatMap_def, Function.comp_def, Clause.filterIds]

/-- **An entry gives an operation** when its method and its clauses are in
order and these declare one. -/
theorem OperationEntry.operation_eq_ok_iff : e.operation shared = .ok o ↔
    ∃ method, e.methodName = .ok method ∧ ∃ clauses, e.clauses shared = .ok clauses ∧
      Operation.declare e.id method clauses = .ok o := by
  simp only [operation, bind_eq_ok_iff]

end Manifest

end RestCall
