import Mathlib.Data.List.Dedup
import RestCall.Proofs.Operation.Catalogue
/-!
# RestCall — what is registered stays registered

A catalogue is changed by entering operations: in place, where a refusal
leaves it as it was; in a chain of calls, where a refusal leaves none; or from
another catalogue in whatever order that gives them, where a refusal leaves
those that came before. Whatever the changes, what is entered goes behind what
is there (`operations_change`), so a catalogue is the record of all that has
been entered, each id once (`operations_changed`). The operation that an id is
first entered with is therefore its operation for good (`registration_final`).
-/

namespace RestCall

namespace Catalogue

/-- What is done to a catalogue: an operation is entered, in place or in a
chain of calls, or another catalogue is merged into it. -/
inductive Change where
  | register (o : Operation)
  | chain (o : Operation)
  | extend (other : Catalogue)

/-- The operations that a change offers for entry, in order. -/
def Change.offered : Change → List Operation
  | .register o => [o]
  | .chain o => [o]
  | .extend other => other.operations

/-- The catalogue that a change leaves. A chain that is refused leaves none. -/
def change (c : Catalogue) : Change → Option Catalogue
  | .register o => some ((c.register o).toOption.getD c)
  | .chain o => (c.register o).toOption
  | .extend other => some (c.extend other).1

/-- The catalogue that some changes leave. -/
def changed (c : Catalogue) (changes : List Change) : Option Catalogue :=
  changes.foldlM change c

/-- Of operations that are offered one after another, those before the first
whose id is taken. -/
def fresh (taken : List String) : List Operation → List Operation
  | [] => []
  | o :: rest => if o.id ∈ taken then [] else o :: fresh (taken ++ [o.id]) rest

/-- A record of what has been entered, after one more change. -/
def noted (record : List Operation) (ch : Change) : List Operation :=
  record ++ fresh (record.map Operation.id) ch.offered

/-- All that some changes enter, in order, beginning with nothing. -/
def entered (changes : List Change) : List Operation := changes.foldl noted []

variable {c c' : Catalogue} {o : Operation} {os record : List Operation} {id : String}
variable {taken : List String} {ch : Change} {changes : List Change}

/-! ## One change -/

theorem fresh_of_mem (h : o.id ∈ taken) (rest : List Operation) : fresh taken (o :: rest) = [] :=
  if_pos h

theorem fresh_of_not_mem (h : o.id ∉ taken) (rest : List Operation) :
    fresh taken (o :: rest) = o :: fresh (taken ++ [o.id]) rest :=
  if_neg h

/-- **Operations that are offered** go behind those that are there, up to the
first whose id is taken. -/
theorem registerUpTo_eq_fresh (c : Catalogue) (os : List Operation) :
    (c.registerUpTo os).1 = ⟨c.operations ++ fresh c.ids os⟩ := by
  induction os generalizing c with
  | nil => rw [registerUpTo, fresh, List.append_nil]
  | cons o rest ih =>
    by_cases hmem : o.id ∈ c.ids
    · rw [registerUpTo, register_of_mem hmem, fresh_of_mem hmem, List.append_nil]
    · rw [registerUpTo, register_of_not_mem hmem, fresh_of_not_mem hmem]
      dsimp only
      rw [ih, ids_append, List.map_singleton, List.append_assoc, List.singleton_append]

/-- **A change that leaves a catalogue** notes what it enters in it. -/
theorem operations_change (h : c.change ch = some c') :
    c'.operations = noted c.operations ch := by
  have hids : c.operations.map Operation.id = c.ids := rfl
  have hnew : ∀ o, o.id ∉ c.ids → fresh c.ids [o] = [o] := fun o hmem =>
    fresh_of_not_mem hmem []
  rw [noted, hids]
  cases ch with
  | register o =>
    by_cases hmem : o.id ∈ c.ids
    · rw [change, register_of_mem hmem] at h
      rw [Change.offered, fresh_of_mem hmem, List.append_nil, ← Option.some.inj h]
      rfl
    · rw [change, register_of_not_mem hmem] at h
      rw [Change.offered, hnew o hmem, ← Option.some.inj h]
      rfl
  | chain o =>
    by_cases hmem : o.id ∈ c.ids
    · rw [change, register_of_mem hmem] at h
      cases h
    · rw [change, register_of_not_mem hmem] at h
      rw [Change.offered, hnew o hmem, ← Option.some.inj h]
  | extend other =>
    rw [change, extend, registerUpTo_eq_fresh] at h
    rw [Change.offered, ← Option.some.inj h]

/-! ## All changes -/

/-- **Changes keep a record** of what they enter. -/
theorem operations_changed (h : c.changed changes = some c') :
    c'.operations = changes.foldl noted c.operations := by
  induction changes generalizing c with
  | nil => rw [← Option.some.inj h]; rfl
  | cons ch changes ih =>
    rw [changed, List.foldlM_cons] at h
    obtain ⟨middle, hmiddle, hrest⟩ := Option.bind_eq_some_iff.1 h
    rw [List.foldl_cons, ← operations_change hmiddle]
    exact ih hrest

theorem prefix_foldl_noted (changes : List Change) (record : List Operation) :
    record <+: changes.foldl noted record := by
  induction changes generalizing record with
  | nil => exact List.prefix_refl record
  | cons ch changes ih => exact (List.prefix_append record _).trans (ih (noted record ch))

/-- **No id is entered twice.** -/
theorem nodup_fresh (h : taken.Nodup) (os : List Operation) :
    (taken ++ (fresh taken os).map Operation.id).Nodup := by
  induction os generalizing taken with
  | nil => simpa [fresh] using h
  | cons o rest ih =>
    by_cases hmem : o.id ∈ taken
    · simpa [fresh_of_mem hmem] using h
    · have htaken : (taken ++ [o.id]).Nodup := List.nodup_append.2
        ⟨h, List.nodup_singleton _, fun x hx y hy =>
          ne_of_mem_of_not_mem hx (by rwa [List.mem_singleton.1 hy])⟩
      rw [fresh_of_not_mem hmem, List.map_cons, ← List.singleton_append, ← List.append_assoc]
      exact ih htaken

theorem nodup_foldl_noted (h : (record.map Operation.id).Nodup) (changes : List Change) :
    ((changes.foldl noted record).map Operation.id).Nodup := by
  induction changes generalizing record with
  | nil => exact h
  | cons ch changes ih =>
    refine ih ?_
    rw [noted, List.map_append]
    exact nodup_fresh h ch.offered

/-! ## Looking up -/

/-- **What is found stays found** when operations go behind it. -/
theorem describe_of_prefix (hfront : c.operations <+: c'.operations)
    (h : c.describe id = .ok o) : c'.describe id = .ok o := by
  obtain ⟨behind, hbehind⟩ := hfront
  have hfind : c.find? id = some o := describe_eq_ok_iff.1 h
  rw [describe_eq_ok_iff, find?, ← hbehind, List.find?_append]
  rw [find?] at hfind
  rw [hfind, Option.some_or]

/-- **An id that is not there** is unknown, and no other is. -/
theorem describe_unknown_iff :
    (∃ hint, c.describe id = .error (.unknownOperation id hint)) ↔ id ∉ c.ids := by
  rw [← describe_succeeds_iff, describe]
  cases c.find? id with
  | some o => simp
  | none => simp

/-- **The first registration is final.** After any changes that leave a
catalogue, beginning with the empty one: an operation that is found under an
id has that id and is found under it after all further changes that leave a
catalogue; the ids that are unknown are those that have never been entered;
and there are as many operations as distinct ids have been entered. -/
theorem registration_final (h : empty.changed changes = some c) :
    (∀ id o, c.describe id = .ok o → o.id = id ∧
      ∀ later c', c.changed later = some c' → c'.describe id = .ok o) ∧
    (∀ id, (∃ hint, c.describe id = .error (.unknownOperation id hint)) ↔
      id ∉ (entered changes).map Operation.id) ∧
    c.size = ((entered changes).map Operation.id).dedup.length := by
  have hrecord : c.operations = entered changes := operations_changed h
  have hnone : (([] : List Operation).map Operation.id).Nodup := List.nodup_nil
  have hnodup : ((entered changes).map Operation.id).Nodup := nodup_foldl_noted hnone changes
  refine ⟨fun id o ho => ⟨(mem_of_describe ho).2, fun later c' hlater => ?_⟩, fun id => ?_, ?_⟩
  · refine describe_of_prefix ?_ ho
    rw [operations_changed hlater]
    exact prefix_foldl_noted later c.operations
  · rw [describe_unknown_iff, ids, hrecord]
  · rw [hnodup.dedup, List.length_map, size, hrecord]

/-- An operation with an id and a path of its own. -/
def plain (id path : String) : Operation :=
  { id := id, method := "GET", path := ⟨path, [.literal path]⟩, query := [], headers := []
    accept := none, payload := none, endpointArgument := none, parser := "json", mapper := none
    filters := [], unwrapping := none, literal := [], takesOptions := false }

/-- Changes of which one is refused, and one is refused half-way. -/
def contested : List Change :=
  [.register (plain "a" "/1"), .register (plain "a" "/2"), .chain (plain "b" "/3"),
    .extend ⟨[plain "c" "/4", plain "a" "/5", plain "d" "/6"]⟩]

theorem registration_final_contested :
    empty.changed contested = some ⟨[plain "a" "/1", plain "b" "/3", plain "c" "/4"]⟩ ∧
      (∀ later c', (⟨[plain "a" "/1", plain "b" "/3", plain "c" "/4"]⟩ : Catalogue).changed later =
        some c' → c'.describe "a" = .ok (plain "a" "/1")) ∧
      ∃ hint, (⟨[plain "a" "/1", plain "b" "/3", plain "c" "/4"]⟩ : Catalogue).describe "d" =
        .error (.unknownOperation "d" hint) := by
  have hchanged : empty.changed contested =
      some ⟨[plain "a" "/1", plain "b" "/3", plain "c" "/4"]⟩ := by decide
  obtain ⟨hfinal, hunknown, -⟩ := registration_final hchanged
  exact ⟨hchanged, (hfinal "a" (plain "a" "/1") (by decide)).2, (hunknown "d").2 (by decide)⟩

end Catalogue

end RestCall
