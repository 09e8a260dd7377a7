import RestCall.Proofs.Request.Entries
/-!
# RestCall — the laws of ordered multimaps

Headers and query parameters are multimaps of one kind. They differ in
which spellings they take for one name: headers fold the case of ASCII
letters, queries compare keys as they are. `Multimap` names what such a kind
consists of and `Multimap.Lawful` the laws that it keeps. All of them follow
from what setting and removing do to the entries, whenever spellings that are
alike form classes (`lawful_of_entries`); so both kinds keep them
(`multimaps_lawful`).
-/

namespace RestCall

/-! ## What is set has its place -/

namespace Entries

variable {same : String → Bool} {name value spelled old : String} {entries front rest : Entries}

theorem removesBy_iff : removesBy same entries = true ↔ ∃ e ∈ entries, same e.1 = true := by
  have hlength : (removeBy same entries).length = entries.length ↔
      ∀ e ∈ entries, (!same e.1) = true := List.length_filter_eq_length_iff
  rw [removesBy, bne_iff_ne, ne_comm, ne_eq, hlength]
  simp

theorem getBy?_isSome_iff :
    (getBy? same entries).isSome = true ↔ ∃ e ∈ entries, same e.1 = true := by
  rw [getBy?, Option.isSome_map, List.find?_isSome]

/-- **A name that is new** comes last. -/
theorem setBy_of_forall_not_same (h : ∀ e ∈ entries, same e.1 = false) :
    setBy same name value entries = entries ++ [(name, value)] := by
  induction entries with
  | nil => rfl
  | cons e entries ih =>
    obtain ⟨hfirst, hrest⟩ := List.forall_mem_cons.1 h
    rw [setBy_cons_of_not_same hfirst, ih hrest, List.cons_append]

/-- **A name that is there** keeps the place and the spelling of its first
entry. -/
theorem setBy_of_first (hfront : ∀ e ∈ front, same e.1 = false) (hsame : same spelled = true) :
    setBy same name value (front ++ (spelled, old) :: rest) =
      front ++ (spelled, value) :: removeBy same rest := by
  induction front with
  | nil => exact setBy_cons_of_same hsame
  | cons e front ih =>
    obtain ⟨hfirst, hrest⟩ := List.forall_mem_cons.1 hfront
    rw [List.cons_append, setBy_cons_of_not_same hfirst, ih hrest, List.cons_append]

end Entries

/-! ## Multimaps -/

/-- A kind of ordered multimap: its entries, which spellings are one name, and
what can be done with a name. -/
structure Multimap (α : Type) where
  entries : α → Entries
  alike : String → String → Bool
  set : α → String → String → α
  get? : α → String → Option String
  remove : α → String → α
  removes : α → String → Bool
  contains : α → String → Bool

namespace Multimap

variable {α : Type} {M : Multimap α}

/-- The entries of a name. -/
def under (M : Multimap α) (m : α) (name : String) : Entries :=
  (M.entries m).filter fun e => M.alike name e.1

/-- The entries of all other names. -/
def apart (M : Multimap α) (m : α) (name : String) : Entries :=
  (M.entries m).filter fun e => !M.alike name e.1

/-- **The laws of an ordered multimap.** A name that is set has that one value
(`values`, `got`), in place of its first entry (`replaced`) or behind all
entries (`appended`), and the entries of other names are what they were
(`others`). The value that is set last counts (`set_set`), and what has been
set is removed like anything else of its name (`remove_set`, `removes_set`),
after which nothing of the name is there (`contains_remove`). -/
structure Lawful (M : Multimap α) : Prop where
  values : ∀ m name value, (M.under (M.set m name value) name).map (·.2) = [value]
  got : ∀ m name value, M.get? (M.set m name value) name = some value
  others : ∀ m name value, M.apart (M.set m name value) name = M.apart m name
  replaced : ∀ m name value front spelled old rest,
    M.entries m = front ++ (spelled, old) :: rest → M.alike name spelled = true →
    (∀ e ∈ front, M.alike name e.1 = false) →
    M.entries (M.set m name value) =
      front ++ (spelled, value) :: rest.filter fun e => !M.alike name e.1
  appended : ∀ m name value, M.under m name = [] →
    M.entries (M.set m name value) = M.entries m ++ [(name, value)]
  set_set : ∀ m name spelled value next, M.alike name spelled = true →
    M.set (M.set m name value) spelled next = M.set m name next
  remove_set : ∀ m name spelled value, M.alike name spelled = true →
    M.remove (M.set m name value) spelled = M.remove m name
  removes_set : ∀ m name spelled value, M.alike name spelled = true →
    M.removes (M.set m name value) spelled = true
  contains_remove : ∀ m name spelled, M.alike name spelled = true →
    M.contains (M.remove m name) spelled = false

/-- What is done with a name is done with its class of entries, and spellings
that are alike are of one class. -/
structure OnEntries (M : Multimap α) : Prop where
  injective : ∀ m m', M.entries m = M.entries m' → m = m'
  refl : ∀ name, M.alike name name = true
  congr : ∀ name spelled, M.alike name spelled = true → M.alike spelled = M.alike name
  set : ∀ m name value,
    M.entries (M.set m name value) = (M.entries m).setBy (M.alike name) name value
  get? : ∀ m name, M.get? m name = (M.entries m).getBy? (M.alike name)
  remove : ∀ m name, M.entries (M.remove m name) = (M.entries m).removeBy (M.alike name)
  removes : ∀ m name, M.removes m name = (M.entries m).removesBy (M.alike name)
  contains : ∀ m name, M.contains m name = ((M.entries m).getBy? (M.alike name)).isSome

/-- A name that is set has one entry. -/
theorem OnEntries.exists_under_set (h : M.OnEntries) (m : α) (name value : String) :
    ∃ spelled, M.alike name spelled = true ∧
      M.under (M.set m name value) name = [(spelled, value)] := by
  rw [under, h.set]
  exact Entries.exists_filter_setBy value (M.entries m) (h.refl name)

/-- **A multimap that acts on classes of entries** keeps the laws. -/
theorem lawful_of_entries (h : M.OnEntries) : M.Lawful where
  values m name value := by
    obtain ⟨spelled, -, honce⟩ := h.exists_under_set m name value
    rw [honce]
    rfl
  got m name value := by
    obtain ⟨spelled, -, honce⟩ := h.exists_under_set m name value
    rw [under] at honce
    rw [h.get?, Entries.getBy?, ← List.head?_filter, honce]
    rfl
  others m name value := by
    rw [apart, h.set]
    exact Entries.removeBy_setBy_of_within (.refl _) (h.refl name)
  replaced m name value front spelled old rest hm hsame hfront := by
    rw [h.set, hm]
    exact Entries.setBy_of_first hfront hsame
  appended m name value hnone := by
    rw [h.set]
    exact Entries.setBy_of_forall_not_same fun e he => by
      simpa using List.filter_eq_nil_iff.1 hnone e he
  set_set m name spelled value next halike := by
    refine h.injective _ _ ?_
    rw [h.set, h.set, h.set, h.congr name spelled halike, Entries.setBy_setBy (h.refl name)]
  remove_set m name spelled value halike := by
    refine h.injective _ _ ?_
    rw [h.remove, h.remove, h.set, h.congr name spelled halike]
    exact Entries.removeBy_setBy_of_within (.refl _) (h.refl name)
  removes_set m name spelled value halike := by
    obtain ⟨first, hsame, honce⟩ := h.exists_under_set m name value
    have hmem : (first, value) ∈ M.entries (M.set m name value) :=
      (List.mem_filter.1 (honce ▸ List.mem_singleton_self _)).1
    rw [h.removes, h.congr name spelled halike, Entries.removesBy_iff]
    exact ⟨_, hmem, hsame⟩
  contains_remove m name spelled halike := by
    rw [h.contains, h.remove, h.congr name spelled halike, ← Bool.not_eq_true,
      Entries.getBy?_isSome_iff]
    rintro ⟨e, he, hsame⟩
    rw [(Entries.mem_removeBy.1 he).2] at hsame
    cases hsame

end Multimap

/-! ## Headers and queries -/

/-- Headers, whose names are compared without the case of ASCII letters. -/
def Headers.multimap : Multimap Headers where
  entries := Headers.entries
  alike := Text.sameName
  set := Headers.set
  get? := Headers.get?
  remove := Headers.remove
  removes := Headers.removes
  contains := Headers.contains

/-- Query parameters, whose keys are compared as they are. -/
def Query.multimap : Multimap Query where
  entries := Query.entries
  alike := (· == ·)
  set := Query.set
  get? := Query.get?
  remove := Query.remove
  removes := Query.removes
  contains := Query.contains

namespace Multimap

theorem onEntries_headers : Headers.multimap.OnEntries where
  injective _ _ h := congrArg Headers.mk h
  refl := Text.sameName_self
  congr name spelled h := by
    have hfold : Text.foldName name = Text.foldName spelled := beq_iff_eq.1 h
    funext other
    simp only [Headers.multimap, Text.sameName, hfold]
  set _ _ _ := rfl
  get? _ _ := rfl
  remove _ _ := rfl
  removes _ _ := rfl
  contains _ _ := rfl

theorem onEntries_query : Query.multimap.OnEntries where
  injective _ _ h := congrArg Query.mk h
  refl := beq_self_eq_true
  congr key spelled h := by rw [show key = spelled from beq_iff_eq.1 h]
  set _ _ _ := rfl
  get? _ _ := rfl
  remove _ _ := rfl
  removes _ _ := rfl
  contains _ _ := rfl

/-- **Headers and query parameters are ordered multimaps**, and all values of a
header that has been set are the one that it was set to. -/
theorem multimaps_lawful :
    Headers.multimap.Lawful ∧ Query.multimap.Lawful ∧
      ∀ (h : Headers) (name value : String), (h.set name value).getAll name = [value] :=
  ⟨lawful_of_entries onEntries_headers, lawful_of_entries onEntries_query,
    (lawful_of_entries onEntries_headers).values⟩

example : (Headers.mk [("Accept", "*/*"), ("Date", "then"), ("DATE", "later")]).set "date" "now" =
    ⟨[("Accept", "*/*"), ("Date", "now")]⟩ := by rfl

end Multimap

end RestCall
