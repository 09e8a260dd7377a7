import RestCall.Proofs.Collection.Distinct
import RestCall.Proofs.Manifest.Operations
/-!
# RestCall — shared filters and those of an operation

An operation of a manifest has the filters that all share and then those of its
own entry that are new, each where it first occurs. New is what is neither
shared nor has come before, so nothing that an entry repeats is repeated in the
operation (`mergedFilters_eq`). What the shared settings repeat themselves is
not looked at. The filters of an operation are therefore the first occurrences
of all of them exactly when no shared filter is given twice
(`filters_merged_iff`); one that is runs twice in every operation
(`filters_repeated`).
-/

namespace RestCall

open Collection (FirstsOf distinct)

namespace Manifest

variable {shared own : List String} {s : Shared} {e : OperationEntry} {o : Operation}

/-! ## Merging -/

theorem mergedFilters_concat (shared own : List String) (id : String) :
    mergedFilters shared (own ++ [id]) = Collection.addOnce (mergedFilters shared own) id :=
  List.foldl_append

/-- **Merged filters** are the shared ones as they are, and behind them the
first occurrences of those that are not shared. -/
theorem mergedFilters_eq (shared own : List String) :
    mergedFilters shared own = shared ++ distinct (own.filter fun id => !shared.contains id) := by
  induction own using List.reverseRecOn with
  | nil => exact (List.append_nil shared).symm
  | append_singleton front id ih =>
    rw [mergedFilters_concat, ih, Collection.addOnce, List.contains_append, List.filter_append,
      List.filter_singleton]
    cases shared.contains id with
    | true => rw [Bool.true_or, if_pos rfl, Bool.not_true, cond_false, List.append_nil]
    | false =>
      -- the filters that the entry has added so far decide
      rw [Bool.false_or, Bool.not_false, cond_true, Collection.distinct_concat,
        Collection.addOnce]
      split
      · rfl
      · rw [List.append_assoc]

/-- **With no shared filter given twice**, merged filters are the first
occurrences of all. -/
theorem mergedFilters_eq_distinct (h : shared.Nodup) :
    mergedFilters shared own = distinct (shared ++ own) := by
  have hall : distinct (shared ++ own) = mergedFilters (distinct shared) own := List.foldl_append
  rw [hall, Collection.distinct_of_nodup h]

theorem firstsOf_mergedFilters_iff :
    FirstsOf (shared ++ own) (mergedFilters shared own) ↔ shared.Nodup := by
  constructor
  · intro h
    have hnodup := h.nodup
    rw [mergedFilters_eq] at hnodup
    exact (List.nodup_append.1 hnodup).1
  · intro h
    rw [mergedFilters_eq_distinct h]
    exact Collection.firstsOf_distinct _

/-! ## Operations -/

/-- The filters of an operation are merged ones. -/
theorem OperationEntry.filters_of_operation (h : e.operation s = .ok o) :
    o.filters = mergedFilters s.filters e.filters := by
  obtain ⟨method, -, clauses, hclauses, hdeclare⟩ := operation_eq_ok_iff.1 h
  obtain ⟨payload, -, -, hfilters⟩ := clauses_spec hclauses
  obtain ⟨-, -, t, path, -, -, rfl⟩ := Draft.finish_eq_ok_iff.1 hdeclare
  rw [Draft.operation, Draft.filters_foldl_add, hfilters]
  rfl

/-- **The filters of an operation of a manifest** are the shared ones, and
behind them each filter of its entry that is not shared, once and where it
first occurs. They are the first occurrences of all exactly when no shared
filter is given twice. -/
theorem filters_merged_iff (h : e.operation s = .ok o) :
    (∃ added, o.filters = s.filters ++ added ∧
      FirstsOf (e.filters.filter fun id => !s.filters.contains id) added) ∧
    (FirstsOf (s.filters ++ e.filters) o.filters ↔ s.filters.Nodup) := by
  rw [OperationEntry.filters_of_operation h]
  exact ⟨⟨_, mergedFilters_eq _ _, Collection.firstsOf_distinct _⟩, firstsOf_mergedFilters_iff⟩

/-- Shared settings of filters only. -/
def sharing (filters : List String) : Shared := ⟨filters, [], [], none, none⟩

/-- An entry that repeats a filter. -/
def listingEntry : OperationEntry :=
  { id := "drives.list", method := "GET", path := "/drives/list", pathArguments := []
    query := [], headers := [], accept := none, payload := none, endpointArgument := none
    parser := none, mapper := none, filters := ["basic_auth", "date_header", "basic_auth"]
    unwrapping := none, literal := none, takesOptions := false }

/-- Its operation, with some filters. -/
def drivesListing (filters : List String) : Operation :=
  { id := "drives.list", method := "GET", path := ⟨"/drives/list", [.literal "/drives/list"]⟩
    query := [], headers := [], accept := none, payload := none, endpointArgument := none
    parser := "release_payload", mapper := none, filters := filters, unwrapping := none
    literal := [], takesOptions := false }

theorem declare_drivesListing (filters : List String) :
    Operation.declare "drives.list" "GET" [.path "/drives/list", .filters filters, .options false] =
      .ok (drivesListing filters) := by
  have hid : Text.isBlankText "drives.list" = false := by decide
  have hpath : Template.parse "/drives/list" =
      .ok ⟨"/drives/list", [.literal "/drives/list"]⟩ := by decide
  exact Draft.finish_eq_ok_iff.2 ⟨hid, nofun, _, _, hpath, rfl, rfl⟩

theorem operation_listingEntry (shared : List String) :
    listingEntry.operation (sharing shared) =
      .ok (drivesListing (mergedFilters shared listingEntry.filters)) := by
  have hname : listingEntry.methodName = .ok "GET" := by decide
  exact OperationEntry.operation_eq_ok_iff.2 ⟨_, hname, _, rfl, declare_drivesListing _⟩

theorem filters_merged_iff_listing :
    ∃ o, listingEntry.operation (sharing ["date_header", "auth_token"]) = .ok o ∧
      o.filters = ["date_header", "auth_token", "basic_auth"] ∧
      FirstsOf ["date_header", "auth_token", "basic_auth", "date_header", "basic_auth"]
        o.filters := by
  have ho := operation_listingEntry ["date_header", "auth_token"]
  obtain ⟨-, hfirsts⟩ := filters_merged_iff ho
  exact ⟨_, ho, by decide, hfirsts.2 (by decide)⟩

/-- **A shared filter that is given twice** stays twice in the operation, while
one that the entry repeats does not. -/
theorem filters_repeated :
    ∃ o, listingEntry.operation (sharing ["date_header", "date_header"]) = .ok o ∧
      o.filters = ["date_header", "date_header", "basic_auth"] ∧
      ¬ FirstsOf ["date_header", "date_header", "basic_auth", "date_header", "basic_auth"]
        o.filters :=
  ⟨_, operation_listingEntry _, by decide, fun h => absurd h.nodup (by decide)⟩

end Manifest

end RestCall
