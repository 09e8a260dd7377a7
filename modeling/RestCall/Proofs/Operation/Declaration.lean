import RestCall.Operation.Declaration
import RestCall.Proofs.Fault.Propagation
/-!
# RestCall — what clauses add up to

A draft is a fold over clauses, so what a declaration knows in the end is read
off its list of clauses: its id is the one that it started with, what a clause
replaces is what the last such clause gives (`last_foldl_add`), and what
clauses add to is what they give one after another (`appended_foldl_add`). The
checks come last, and a draft that passes them becomes the operation that it
describes (`finish_eq_ok_iff`). With an id that is not blank, a text that is a
template and no empty key, it stands or falls with the arguments of its slots
(`Operation.declare_path_iff`).
-/

namespace RestCall

namespace Clause

/-- The template that a clause gives. -/
def template? : Clause → Option String
  | path template => some template
  | _ => none

/-- The argument that a clause points slots of a name at. -/
def pointer? : Clause → Option (String × Nat)
  | pathArgument name index => some (name, index)
  | _ => none

/-- The parameter that a clause gives, in the query or as a header. -/
def parameter? : Clause → Option Parameter
  | query p => some p
  | header p => some p
  | _ => none

/-- The payload that a clause gives. -/
def payload? : Clause → Option PayloadSpec
  | payload spec => some spec
  | _ => none

/-- The filters that a clause adds. -/
def filterIds : Clause → List String
  | filters ids => ids
  | _ => []

/-- The text of the template that clauses declare: that of the last one with
a template. -/
def templateText (clauses : List Clause) : String :=
  (clauses.filterMap template?).getLast?.getD ""

end Clause

namespace Draft

variable {id : String} {d : Draft} {o : Operation} {clauses : List Clause}

/-! ## The fold -/

theorem id_add (d : Draft) (clause : Clause) : (d.add clause).id = d.id := by
  cases clause <;> rfl

theorem id_foldl_add (clauses : List Clause) (d : Draft) :
    (clauses.foldl Draft.add d).id = d.id := by
  induction clauses generalizing d with
  | nil => rfl
  | cons clause clauses ih => rw [List.foldl_cons, ih, id_add]

section Fold

variable {α : Type}

/-- **What clauses replace** is in the end what the last of them gives. -/
theorem last_foldl_add {field : Draft → α} {given? : Clause → Option α}
    (hadd : ∀ d clause, field (d.add clause) = (given? clause).getD (field d))
    (clauses : List Clause) (d : Draft) :
    field (clauses.foldl add d) = (clauses.filterMap given?).getLast?.getD (field d) := by
  induction clauses generalizing d with
  | nil => rfl
  | cons clause clauses ih =>
    rw [List.foldl_cons, ih, hadd, List.filterMap_cons]
    cases given? clause with
    | none => rfl
    | some value => rw [List.getLast?_cons]; rfl

/-- **What clauses add to** is in the end what each of them gives, in order. -/
theorem appended_foldl_add {field : Draft → List α} {given : Clause → List α}
    (hadd : ∀ d clause, field (d.add clause) = field d ++ given clause)
    (clauses : List Clause) (d : Draft) :
    field (clauses.foldl add d) = field d ++ clauses.flatMap given := by
  induction clauses generalizing d with
  | nil => exact (List.append_nil _).symm
  | cons clause clauses ih =>
    rw [List.foldl_cons, ih, hadd, List.append_assoc, List.flatMap_cons]

end Fold

theorem path_add (d : Draft) (clause : Clause) :
    (d.add clause).path = clause.template?.getD d.path := by
  cases clause <;> rfl

theorem path_foldl_add (clauses : List Clause) (d : Draft) :
    (clauses.foldl add d).path = (clauses.filterMap Clause.template?).getLast?.getD d.path :=
  last_foldl_add path_add clauses d

theorem payload_add (d : Draft) (clause : Clause) :
    (d.add clause).payload = (clause.payload?.map some).getD d.payload := by
  cases clause <;> rfl

theorem payload_foldl_add (clauses : List Clause) (d : Draft) :
    (clauses.foldl add d).payload =
      (clauses.filterMap Clause.payload?).getLast?.or d.payload := by
  rw [last_foldl_add payload_add, ← List.map_filterMap, List.getLast?_map]
  cases (clauses.filterMap Clause.payload?).getLast? <;> rfl

theorem pathArguments_add (d : Draft) (clause : Clause) :
    (d.add clause).pathArguments = d.pathArguments ++ clause.pointer?.toList := by
  cases clause with
  | pathArgument name index => rfl
  | _ => exact (List.append_nil _).symm

theorem pathArguments_foldl_add (clauses : List Clause) (d : Draft) :
    (clauses.foldl add d).pathArguments =
      d.pathArguments ++ clauses.filterMap Clause.pointer? := by
  rw [appended_foldl_add pathArguments_add, List.filterMap_eq_flatMap_toList]

theorem filters_add (d : Draft) (clause : Clause) :
    (d.add clause).filters = d.filters ++ clause.filterIds := by
  cases clause with
  | filters ids => rfl
  | _ => exact (List.append_nil _).symm

theorem filters_foldl_add (clauses : List Clause) (d : Draft) :
    (clauses.foldl add d).filters = d.filters ++ clauses.flatMap Clause.filterIds :=
  appended_foldl_add filters_add clauses d

theorem mem_parameters_add {clause : Clause} {p : Parameter}
    (h : p ∈ (d.add clause).query ++ (d.add clause).headers) :
    p ∈ d.query ++ d.headers ∨ clause.parameter? = some p := by
  cases clause with
  | query own =>
    simp only [add, List.mem_append, List.mem_singleton] at h
    rcases h with (h | rfl) | h
    · exact .inl (List.mem_append_left _ h)
    · exact .inr rfl
    · exact .inl (List.mem_append_right _ h)
  | header own =>
    simp only [add, List.mem_append, List.mem_singleton] at h
    rcases h with h | h | rfl
    · exact .inl (List.mem_append_left _ h)
    · exact .inl (List.mem_append_right _ h)
    · exact .inr rfl
  | _ => exact .inl h

theorem mem_parameters_foldl_add {p : Parameter}
    (h : p ∈ (clauses.foldl add d).query ++ (clauses.foldl add d).headers) :
    p ∈ d.query ++ d.headers ∨ p ∈ clauses.filterMap Clause.parameter? := by
  induction clauses generalizing d with
  | nil => exact .inl h
  | cons clause clauses ih =>
    rw [List.mem_filterMap]
    rcases ih h with hadd | hrest
    · rcases mem_parameters_add hadd with hold | hown
      · exact .inl hold
      · exact .inr ⟨clause, List.mem_cons_self, hown⟩
    · obtain ⟨c, hc, hp⟩ := List.mem_filterMap.1 hrest
      exact .inr ⟨c, List.mem_cons_of_mem _ hc, hp⟩

/-! ## The checks -/

/-- The operation that a draft describes, once its template is known. -/
def operation (d : Draft) (path : Template) : Operation :=
  { id := d.id, method := d.method, path := path, query := d.query, headers := d.headers
    accept := d.accept, payload := d.payload, endpointArgument := d.endpointArgument
    parser := d.parser.getD defaultParser, mapper := d.mapper, filters := d.filters
    unwrapping := d.unwrapping, literal := d.literal, takesOptions := d.takesOptions }

/-- **A draft becomes an operation** when its id is not blank, its text is a
template, its slots can be pointed and no key of its query and headers is
empty; the operation is the one that it describes. -/
theorem finish_eq_ok_iff : d.finish = .ok o ↔
    Text.isBlankText d.id = false ∧ (∀ p ∈ d.query ++ d.headers, p.key ≠ "") ∧
      ∃ t path, Template.parse d.path = .ok t ∧
        rebound d.id d.path t d.pathArguments = .ok path ∧ d.operation path = o := by
  have hkeys : ((d.query ++ d.headers).any fun p => p.key.isEmpty) = false ↔
      ∀ p ∈ d.query ++ d.headers, p.key ≠ "" := by
    simp only [List.any_eq_false, String.isEmpty_iff, ne_eq]
  rw [finish, ← hkeys]
  cases Text.isBlankText d.id with
  | true => exact iff_of_false nofun fun h => nomatch h.1
  | false =>
    simp only [Bool.false_eq_true, if_false, true_and, bind_eq_ok_iff, Template.declare,
      mapError_eq_ok_iff, guard_eq_ok_iff]
    constructor
    · rintro ⟨t, ht, path, hpath, hnoKey, hpure⟩
      exact ⟨Bool.eq_false_iff.2 hnoKey, t, path, ht, hpath, Except.ok.inj hpure⟩
    · rintro ⟨hnoKey, t, path, ht, hpath, rfl⟩
      exact ⟨t, ht, path, hpath, Bool.eq_false_iff.1 hnoKey, rfl⟩

theorem id_of_finish (h : d.finish = .ok o) : o.id = d.id := by
  obtain ⟨-, -, t, path, -, -, rfl⟩ := finish_eq_ok_iff.1 h
  rfl

/-- **What the arguments of slots decide**: with all else in order, whether a
draft is an operation, and its template. -/
theorem finish_path_iff {t path : Template} (hid : Text.isBlankText d.id = false)
    (ht : Template.parse d.path = .ok t) (hkeys : ∀ p ∈ d.query ++ d.headers, p.key ≠ "") :
    (∃ o, d.finish = .ok o ∧ o.path = path) ↔
      rebound d.id d.path t d.pathArguments = .ok path := by
  simp only [finish_eq_ok_iff, ht]
  constructor
  · rintro ⟨o, ⟨-, -, t', path', ht', hpath, rfl⟩, rfl⟩
    cases ht'
    exact hpath
  · intro hpath
    exact ⟨d.operation path, ⟨hid, hkeys, t, path, rfl, hpath, rfl⟩, rfl⟩

end Draft

namespace Operation

variable {id method : String} {clauses : List Clause}

/-- **An operation has the id that it is declared with.** -/
theorem id_of_declare {o : Operation} (h : declare id method clauses = .ok o) : o.id = id :=
  (Draft.id_of_finish h).trans (Draft.id_foldl_add clauses (Draft.start id method))

/-- **A declaration with all else in order** is an operation when its slots can
be pointed as its clauses say. -/
theorem declare_path_iff {t path : Template} (hid : Text.isBlankText id = false)
    (ht : Template.parse (Clause.templateText clauses) = .ok t)
    (hkeys : ∀ p ∈ clauses.filterMap Clause.parameter?, p.key ≠ "") :
    (∃ o, declare id method clauses = .ok o ∧ o.path = path) ↔
      Draft.rebound id (Clause.templateText clauses) t (clauses.filterMap Clause.pointer?) =
        .ok path := by
  have hdraft : (clauses.foldl Draft.add (Draft.start id method)).id = id :=
    Draft.id_foldl_add clauses _
  have hpath : (clauses.foldl Draft.add (Draft.start id method)).path =
      Clause.templateText clauses := Draft.path_foldl_add clauses _
  have hpointers : (clauses.foldl Draft.add (Draft.start id method)).pathArguments =
      clauses.filterMap Clause.pointer? := Draft.pathArguments_foldl_add clauses _
  rw [declare, Draft.finish_path_iff (by rwa [hdraft]) (by rwa [hpath]), hdraft, hpath, hpointers]
  intro p hp
  rcases Draft.mem_parameters_foldl_add hp with hstart | hclause
  · cases hstart
  · exact hkeys p hclause

end Operation

end RestCall
