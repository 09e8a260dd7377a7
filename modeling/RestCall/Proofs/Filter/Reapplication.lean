import Mathlib.Data.List.Basic
import Mathlib.Data.List.Induction
import Mathlib.Data.Set.List
import Mathlib.Logic.Function.Basic
import RestCall.Filter.Chain
import RestCall.Proofs.Component.Lookup
import RestCall.Proofs.Fault.Propagation
import RestCall.Proofs.Filter.Signature
/-!
# RestCall — filtering a request again

Each built-in filter either lacks something at a moment, whatever the
request, or writes to one place: a header of its own, or the account and
the signature of the query. What it writes replaces what it wrote before,
and it does not move what the others wrote. So a chain of built-in filters
that is applied to its own output gives what it gives for the request.
-/

namespace RestCall

namespace Filter

variable {r : Request} {name name' value value' second : String}

theorem setHeader_setHeader :
    setHeader name value (setHeader name value' r) = setHeader name value r :=
  congrArg (fun headers => { r with headers }) Headers.set_set

theorem setHeader_setHeader_setHeader (hne : Text.sameName name name' = false) :
    setHeader name value (setHeader name' second (setHeader name value' r)) =
      setHeader name' second (setHeader name value r) :=
  congrArg (fun headers => { r with headers }) (Headers.set_set_set hne)

end Filter

/-- What a filter writes: a header, or the signature of an account. -/
inductive Mark where
  | header (name value : String)
  | signature (account : Credentials)

namespace Mark

variable {k k' l : Mark} {r : Request}

/-- A request with what is written. -/
def write : Mark → Request → Request
  | header name value, r => Filter.setHeader name value r
  | signature account, r => { r with query := Filter.signQuery account r.query }

/-- Two marks that are written to the same place. -/
def SamePlace : Mark → Mark → Prop
  | header name _, header name' _ => name = name'
  | signature _, signature _ => True
  | _, _ => False

/-- Two marks that are written to places apart. -/
def PlacesApart : Mark → Mark → Prop
  | header name _, header name' _ => Text.sameName name name' = false
  | signature _, signature _ => False
  | _, _ => True

/-- **What is written last to a place stays.** -/
theorem write_write (h : SamePlace k k') : k.write (k'.write r) = k.write r := by
  cases k <;> cases k' <;> simp only [SamePlace] at h
  case header.header =>
    subst h
    exact Filter.setHeader_setHeader
  case signature.signature =>
    exact congrArg (fun query => { r with query }) Filter.signQuery_signQuery

/-- **What is written elsewhere does not move it.** -/
theorem write_write_write (h : SamePlace k k') (hl : PlacesApart k l) :
    k.write (l.write (k'.write r)) = l.write (k.write r) := by
  cases k <;> cases k' <;> simp only [SamePlace] at h <;> cases l <;>
    simp only [PlacesApart] at hl
  case header.header.header =>
    subst h
    exact Filter.setHeader_setHeader_setHeader hl
  case header.header.signature =>
    subst h
    simp only [write, Filter.setHeader, Headers.set_set]
  case signature.signature.header =>
    simp only [write, Filter.setHeader, Filter.signQuery_signQuery]

end Mark

/-- The filters that are built in. -/
inductive BuiltinFilter where
  | basicAuth
  | authToken
  | querySigner
  | dateHeader
deriving DecidableEq

namespace BuiltinFilter

variable {b b' : BuiltinFilter} {m m' second : Moment} {r : Request}

/-- The name of a filter. -/
def id : BuiltinFilter → String
  | basicAuth => "basic_auth"
  | authToken => "auth_token"
  | querySigner => "query_signer"
  | dateHeader => "date_header"

/-- What a name stands for. -/
def filter : BuiltinFilter → Filter
  | basicAuth => Filter.basicAuth
  | authToken => Filter.authToken
  | querySigner => Filter.querySigner
  | dateHeader => Filter.dateHeader

theorem entries_builtin : Filter.builtin.entries =
    [basicAuth, authToken, querySigner, dateHeader].map fun b => (b.id, b.filter) := rfl

theorem exists_of_find? {id : String} {f : Filter} (h : Filter.builtin.find? id = some f) :
    ∃ b : BuiltinFilter, b.id = id ∧ b.filter = f := by
  have hmem := Family.mem_entries_of_find? h
  rw [entries_builtin, List.mem_map] at hmem
  obtain ⟨b, -, hb⟩ := hmem
  exact ⟨b, congrArg Prod.fst hb, congrArg Prod.snd hb⟩

/-! ## What a filter needs and writes -/

/-- What a filter lacks at a moment. -/
def lack? (m : Moment) (b : BuiltinFilter) : Option Fault :=
  match b, m.credentials with
  | dateHeader, _ => none
  | b, none => some (Filter.lack b.id "no credentials available")
  | authToken, some c =>
    if c.token.isSome then none
    else some (Filter.lack "auth_token" "credentials carry no session token")
  | _, some _ => none

/-- The credentials of a moment that has some. -/
def account (m : Moment) : Credentials := m.credentials.getD ⟨"", "", none⟩

/-- What a filter writes when it lacks nothing. -/
def mark (m : Moment) : BuiltinFilter → Mark
  | basicAuth => .header "Authorization"
      (Filter.basicValue (account m).identity (account m).secret)
  | authToken => .header "X-Auth-Token" ((account m).token.getD "")
  | querySigner => .signature (account m)
  | dateHeader => .header "Date" (Calendar.httpDate m.now)

/-- **A filter writes unless it lacks something.** -/
theorem apply_filter (b : BuiltinFilter) (m : Moment) (r : Request) :
    b.filter.apply m r =
      match b.lack? m with
      | some fault => .error fault
      | none => .ok ((b.mark m).write r) := by
  obtain ⟨credentials, now⟩ := m
  cases credentials with
  | none => cases b <;> rfl
  | some c =>
    obtain ⟨identity, secret, token⟩ := c
    cases token <;> cases b <;> rfl

theorem samePlace_mark (b : BuiltinFilter) : (b.mark m).SamePlace (b.mark m') := by
  cases b <;> trivial

theorem placesApart_mark (h : b ≠ b') : (b.mark m).PlacesApart (b'.mark m') := by
  cases b <;> cases b' <;> first | exact absurd rfl h | trivial

/-! ## What several filters write -/

/-- A request with what filters write, each at its own moment. -/
def writeAll (σ : BuiltinFilter → Moment) (bs : List BuiltinFilter) (r : Request) : Request :=
  bs.foldl (fun r b => (b.mark (σ b)).write r) r

variable {σ τ : BuiltinFilter → Moment} {bs : List BuiltinFilter}

theorem writeAll_cons : writeAll σ (b :: bs) r = writeAll σ bs ((b.mark (σ b)).write r) := rfl

theorem writeAll_append_singleton :
    writeAll σ (bs ++ [b]) r = (b.mark (σ b)).write (writeAll σ bs r) := List.foldl_append

theorem writeAll_congr (h : ∀ b ∈ bs, σ b = τ b) : writeAll σ bs r = writeAll τ bs r :=
  List.foldl_ext _ _ _ fun _ b hb => by rw [h b hb]

/-- **A filter that writes again** changes its moment, and nothing else. -/
theorem write_writeAll (h : b ∈ bs) :
    (b.mark m).write (writeAll σ bs r) = writeAll (Function.update σ b m) bs r := by
  -- from the end of the list: the last write is to the same place, or to one apart
  induction bs using List.reverseRecOn generalizing σ m with
  | nil => cases h
  | append_singleton bs b' ih =>
    rw [writeAll_append_singleton, writeAll_append_singleton]
    by_cases hb : b ∈ bs
    -- what `b` has written before stands there, so it can be written once more
    · have hagain : (b.mark (σ b)).write (writeAll σ bs r) = writeAll σ bs r := by
        rw [ih hb, Function.update_eq_self]
      rw [← ih hb]
      by_cases hbb : b = b'
      · subst hbb
        rw [Function.update_self, Mark.write_write (samePlace_mark b),
          Mark.write_write (samePlace_mark b)]
      · rw [Function.update_of_ne (Ne.symm hbb), ← hagain,
          Mark.write_write_write (samePlace_mark b) (placesApart_mark hbb),
          Mark.write_write (samePlace_mark b)]
    · obtain rfl : b = b' := by simpa [hb] using h
      have hrest : writeAll (Function.update σ b m) bs r = writeAll σ bs r :=
        writeAll_congr fun b' hb' => Function.update_of_ne (ne_of_mem_of_not_mem hb' hb) _ _
      rw [Function.update_self, hrest, Mark.write_write (samePlace_mark b)]

/-- **What filters write together replaces what they wrote.** -/
theorem writeAll_writeAll : writeAll τ bs (writeAll σ bs r) = writeAll τ bs r := by
  induction bs generalizing σ r with
  | nil => rfl
  | cons b bs ih =>
    rw [writeAll_cons, write_writeAll (List.mem_cons_self ..), writeAll_cons,
      Function.update_self, ih, writeAll_cons]

end BuiltinFilter

/-! ## Chains -/

namespace FilterChain

variable {m m' : Moment} {r r' : Request} {bs : List BuiltinFilter} {c : FilterChain}

/-- A chain of filters that are built in, whatever their order and however
often they occur. -/
def Builtin (c : FilterChain) : Prop := ∀ e ∈ c.filters, ∃ id, Filter.builtin.find? id = some e.2

theorem resolve_cons {family : Family Filter} {operation id : String} {ids : List String} :
    resolve family operation (id :: ids) = do
      let filter ← family.resolve id operation
      let c ← resolve family operation ids
      return ⟨(id, filter) :: c.filters⟩ := by
  simp [resolve]

/-- **A chain that is resolved** holds what its names stand for. -/
theorem find?_of_resolve {family : Family Filter} {operation : String} {ids : List String}
    (h : resolve family operation ids = .ok c) : ∀ e ∈ c.filters, family.find? e.1 = some e.2 := by
  induction ids generalizing c with
  | nil =>
    obtain rfl : (⟨[]⟩ : FilterChain) = c := Except.ok.inj h
    intro e he
    cases he
  | cons id ids ih =>
    rw [resolve_cons] at h
    obtain ⟨filter, hfilter, hrest⟩ := bind_eq_ok_iff.1 h
    obtain ⟨rest, hc, hchain⟩ := bind_eq_ok_iff.1 hrest
    obtain rfl : (⟨(id, filter) :: rest.filters⟩ : FilterChain) = c := Except.ok.inj hchain
    exact List.forall_mem_cons.2 ⟨Family.resolve_eq_ok_iff.1 hfilter, ih hc⟩

/-- What is resolved in the built-in family is built in. -/
theorem builtin_of_resolve (operation : String) (ids : List String)
    (h : resolve Filter.builtin operation ids = .ok c) : c.Builtin :=
  fun e he => ⟨e.1, find?_of_resolve h e he⟩

/-- The filters of a chain that is built in. -/
theorem Builtin.exists_filters (h : c.Builtin) :
    ∃ bs : List BuiltinFilter, bs.map BuiltinFilter.filter = c.filters.map (·.2) := by
  change c.filters.map (·.2) ∈ Set.range (List.map BuiltinFilter.filter)
  rw [Set.range_list_map]
  intro filter hfilter
  obtain ⟨e, he, rfl⟩ := List.mem_map.1 hfilter
  obtain ⟨id, hid⟩ := h e he
  obtain ⟨b, -, hb⟩ := BuiltinFilter.exists_of_find? hid
  exact ⟨b, hb⟩

theorem operation_write (k : Mark) : (k.write r).operation = r.operation := by
  cases k <;> rfl

theorem operation_writeAll {σ : BuiltinFilter → Moment} :
    (BuiltinFilter.writeAll σ bs r).operation = r.operation := by
  induction bs generalizing r with
  | nil => rfl
  | cons b bs ih => rw [BuiltinFilter.writeAll_cons, ih, operation_write]

/-- **The first filter that lacks something ends the chain**; when there is
none the filters write in order. -/
theorem applyAll_eq {fs : List (String × Filter)}
    (hfs : bs.map BuiltinFilter.filter = fs.map (·.2)) :
    applyAll m fs r =
      match bs.findSome? (BuiltinFilter.lack? m) with
      | some fault => .error (located r.operation fault)
      | none => .ok (BuiltinFilter.writeAll (fun _ => m) bs r) := by
  induction bs generalizing fs r with
  | nil =>
    obtain rfl : fs = [] := by simpa using hfs
    rfl
  | cons b bs ih =>
    obtain ⟨⟨id, filter⟩, fs, rfl, rfl, htail⟩ := List.map_eq_cons_iff.1 hfs.symm
    rw [applyAll, BuiltinFilter.apply_filter, List.findSome?_cons]
    cases hl : b.lack? m with
    | some fault => rfl
    | none => exact (ih htail.symm).trans (by rw [operation_write, BuiltinFilter.writeAll_cons])

/-- **Filtering again replaces, and never accumulates.** -/
theorem apply_filtered (hbuiltin : c.Builtin) (h : c.apply m r = .ok r') :
    (∀ m', c.apply m' r' = c.apply m' r) ∧ c.apply m r' = .ok r' := by
  have hagain : ∀ m', c.apply m' r' = c.apply m' r := by
    obtain ⟨bs, hbs⟩ := hbuiltin.exists_filters
    intro m'
    rw [apply, applyAll_eq hbs] at h
    cases hl : bs.findSome? (BuiltinFilter.lack? m) with
    | some fault => simp [hl] at h
    | none =>
      obtain rfl : BuiltinFilter.writeAll (fun _ => m) bs r = r' := by simpa [hl] using h
      rw [apply, apply, applyAll_eq hbs, applyAll_eq hbs, BuiltinFilter.writeAll_writeAll,
        operation_writeAll]
  exact ⟨hagain, (hagain m).trans h⟩

/-- A request that has been filtered by others: the date twice, in two
spellings, and two signatures around the account. -/
def stale : Request :=
  { operation := "listZones", method := "GET", endpoint := "https://example.test",
    query := ⟨[("signature", "a"), ("command", "listZones"), ("apiKey", "k"),
      ("signature", "b"), ("apiKey", "l")]⟩,
    headers := ⟨[("DATE", "then"), ("Accept", "*/*"), ("date", "later")]⟩,
    payload := none, filters := [], literal := [] }

/-- Three filters of which one occurs twice. -/
def repeated : FilterChain :=
  ⟨[("query_signer", Filter.querySigner), ("date_header", Filter.dateHeader),
    ("basic_auth", Filter.basicAuth), ("query_signer", Filter.querySigner)]⟩

theorem apply_filtered_stale :
    repeated.Builtin ∧
      ∃ r', repeated.apply ⟨some ⟨"user", "key", none⟩, 0⟩ stale = .ok r' ∧
        repeated.apply ⟨some ⟨"other", "word", none⟩, 60⟩ r' =
          repeated.apply ⟨some ⟨"other", "word", none⟩, 60⟩ stale ∧
        repeated.apply ⟨some ⟨"user", "key", none⟩, 0⟩ r' = .ok r' := by
  have hbuiltin : repeated.Builtin := builtin_of_resolve "listZones"
    ["query_signer", "date_header", "basic_auth", "query_signer"] rfl
  obtain ⟨hother, hsame⟩ := apply_filtered hbuiltin
    (m := ⟨some ⟨"user", "key", none⟩, 0⟩) (r := stale) rfl
  exact ⟨hbuiltin, _, rfl, hother _, hsame⟩

end FilterChain

end RestCall
