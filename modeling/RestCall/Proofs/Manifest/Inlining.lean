import RestCall.Manifest.Basic
/-!
# RestCall — shared settings written out

What the operations of a manifest share can be written into each of them:
the shared parameters in front of its own, the shared media type and the
unescaped characters where it names none. The filters stay shared, since an
operation that repeats one of them does not get it twice. Nothing that the
manifest declares depends on which of the two ways it is written
(`declared_inlined`), and neither does the fault that it is refused with.
-/

namespace RestCall

namespace Manifest

/-- Shared settings of which only the filters are left. -/
def Shared.filtersOnly (s : Shared) : Shared :=
  { filters := s.filters, query := [], headers := [], accept := none, literal := none }

/-- An entry with shared settings written into it. -/
def OperationEntry.inlined (s : Shared) (e : OperationEntry) : OperationEntry :=
  { e with
    query := s.query ++ e.query
    headers := s.headers ++ e.headers
    accept := e.accept.or s.accept
    literal := e.literal.or s.literal }

/-- A manifest whose entries have the shared settings written into them. -/
def inlined (m : Manifest) : Manifest :=
  { m with
    shared := m.shared.filtersOnly
    operations := m.operations.map (OperationEntry.inlined m.shared) }

variable (s : Shared) (e : OperationEntry)

/-- **An entry has the same clauses** when what it shares is written into it.
Its parameters are read in the same order, so the first fault is the same. -/
theorem OperationEntry.clauses_inlined : (e.inlined s).clauses s.filtersOnly = e.clauses s := by
  unfold clauses
  have hquery : s.filtersOnly.query ++ (e.inlined s).query = s.query ++ e.query := rfl
  have hheaders : s.filtersOnly.headers ++ (e.inlined s).headers = s.headers ++ e.headers := rfl
  have haccept : (e.inlined s).accept.or s.filtersOnly.accept = e.accept.or s.accept :=
    Option.or_none
  have hliteral : (e.inlined s).literal.or s.filtersOnly.literal = e.literal.or s.literal :=
    Option.or_none
  rw [hquery, hheaders, haccept, hliteral]
  rfl

theorem OperationEntry.operation_inlined :
    (e.inlined s).operation s.filtersOnly = e.operation s := by
  unfold operation
  rw [clauses_inlined]
  rfl

/-- **Sharing is an abbreviation.** A manifest declares the same operations
in the same order, or has the same fault, when the shared settings but the
filters are written into its entries. -/
theorem declared_inlined (m : Manifest) : m.inlined.declared = m.declared := by
  change (m.operations.map (OperationEntry.inlined m.shared)).mapM
    (OperationEntry.operation m.shared.filtersOnly) = _
  rw [List.mapM_map]
  exact congrArg (m.operations.mapM ·) (funext (OperationEntry.operation_inlined m.shared))

end Manifest

end RestCall
