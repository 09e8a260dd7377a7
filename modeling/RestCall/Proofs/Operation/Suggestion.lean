import Mathlib.Data.List.Induction
import RestCall.Proofs.Operation.Registration
import RestCall.Proofs.Text.Bytes
/-!
# RestCall — lookups that no order shows in

A catalogue gives its operations in an order that says nothing about them. Under
distinct ids an operation is found by its id alone. An id that is not there is
answered with a near one, and of several with the first by its bytes
(`closest?_eq_some_iff`): there is one such id at most, and which one it is
depends on what ids there are and not on where they stand. So catalogues of the
same operations answer every lookup alike (`describe_anyOrder`).
-/

namespace RestCall

namespace Catalogue

variable {c c' : Catalogue} {os os' : List Operation} {ids ids' : List String}
variable {id near s : String}

/-- **An id near another** begins with the part of the other before its first
dot, and their lengths in bytes differ by two at most. -/
structure IsNearTo (known id : String) : Prop where
  family : id.toList.takeWhile (· != '.') <+: known.toList
  shorter : known.utf8ByteSize ≤ id.utf8ByteSize + 2
  longer : id.utf8ByteSize ≤ known.utf8ByteSize + 2

/-- **The id to suggest** is, of those that are near, the first by its bytes. -/
structure IsSuggested (ids : List String) (id near : String) : Prop where
  known : near ∈ ids
  nearby : IsNearTo near id
  first : ∀ other ∈ ids, IsNearTo other id → other ≠ near →
    Utf8.ofString near < Utf8.ofString other

/-! ## The least of some strings -/

theorem least?_concat (ids : List String) (s : String) : least? (ids ++ [s]) =
    match least? ids with
    | none => some s
    | some b => if s < b then some s else some b :=
  List.foldl_append

theorem least?_spec (ids : List String) :
    (ids = [] ∧ least? ids = none) ∨
      ∃ s, least? ids = some s ∧ s ∈ ids ∧ ∀ t ∈ ids, s ≤ t := by
  induction ids using List.reverseRecOn with
  | nil => exact .inl ⟨rfl, rfl⟩
  | append_singleton front s ih =>
    right
    rw [least?_concat]
    rcases ih with ⟨rfl, hnone⟩ | ⟨b, hb, hmem, hleast⟩
    · rw [hnone]
      exact ⟨s, rfl, by simp, by simp⟩
    · rw [hb]
      dsimp only
      split
      · rename_i hlt
        refine ⟨s, rfl, by simp, fun t ht => ?_⟩
        rcases List.mem_append.1 ht with hfront | hlast
        · exact hlt.le.trans (hleast t hfront)
        · exact (List.mem_singleton.1 hlast).ge
      · rename_i hge
        refine ⟨b, rfl, List.mem_append_left _ hmem, fun t ht => ?_⟩
        rcases List.mem_append.1 ht with hfront | hlast
        · exact hleast t hfront
        · exact List.mem_singleton.1 hlast ▸ not_lt.1 hge

theorem least?_eq_some_iff : least? ids = some s ↔ s ∈ ids ∧ ∀ t ∈ ids, s ≤ t := by
  rcases least?_spec ids with ⟨rfl, hnone⟩ | ⟨b, hb, hmem, hleast⟩
  · simp [hnone]
  · rw [hb, Option.some_inj]
    constructor
    · rintro rfl
      exact ⟨hmem, hleast⟩
    · rintro ⟨hs, hfirst⟩
      exact le_antisymm (hleast s hs) (hfirst b hmem)

theorem least?_eq_none_iff : least? ids = none ↔ ids = [] := by
  rcases least?_spec ids with ⟨rfl, hnone⟩ | ⟨b, hb, hmem, -⟩
  · simp [hnone]
  · rw [hb]
    exact iff_of_false nofun (List.ne_nil_of_mem hmem)

/-! ## Suggestions -/

theorem isNearTo_iff {known : String} :
    ((family id).isPrefixOf known.toList && isNear known.utf8ByteSize id.utf8ByteSize) = true ↔
      IsNearTo known id := by
  rw [Bool.and_eq_true, List.isPrefixOf_iff_prefix, isNear, Bool.and_eq_true, decide_eq_true_eq,
    decide_eq_true_eq]
  exact ⟨fun h => ⟨h.1, h.2.1, h.2.2⟩, fun h => ⟨h.family, h.shorter, h.longer⟩⟩

theorem mem_candidates_iff {known : String} :
    (known ∈ c.ids.filter fun known =>
      (family id).isPrefixOf known.toList && isNear known.utf8ByteSize id.utf8ByteSize) ↔
      known ∈ c.ids ∧ IsNearTo known id := by
  rw [List.mem_filter, isNearTo_iff]

/-- **What is suggested** is the first by its bytes of the ids that are near. -/
theorem closest?_eq_some_iff : c.closest? id = some near ↔ IsSuggested c.ids id near := by
  rw [closest?, least?_eq_some_iff, mem_candidates_iff]
  constructor
  · rintro ⟨⟨hknown, hnear⟩, hleast⟩
    refine ⟨hknown, hnear, fun other hother hnear' hne => Utf8.lt_iff_ofString_lt.1 ?_⟩
    exact lt_of_le_of_ne (hleast other (mem_candidates_iff.2 ⟨hother, hnear'⟩)) hne.symm
  · rintro ⟨hknown, hnear, hfirst⟩
    refine ⟨⟨hknown, hnear⟩, fun other hother => ?_⟩
    obtain ⟨hknown', hnear'⟩ := mem_candidates_iff.1 hother
    by_cases heq : other = near
    · exact heq.ge
    · exact (Utf8.lt_iff_ofString_lt.2 (hfirst other hknown' hnear' heq)).le

/-- **Nothing is suggested** when no id is near. -/
theorem closest?_eq_none_iff : c.closest? id = none ↔ ∀ known ∈ c.ids, ¬ IsNearTo known id := by
  rw [closest?, least?_eq_none_iff, List.eq_nil_iff_forall_not_mem]
  simp only [mem_candidates_iff, not_and]

theorem IsSuggested.congr (hmem : ∀ id, id ∈ ids ↔ id ∈ ids') :
    IsSuggested ids id near ↔ IsSuggested ids' id near := by
  constructor
  · rintro ⟨hknown, hnear, hfirst⟩
    exact ⟨(hmem near).1 hknown, hnear, fun other hother => hfirst other ((hmem other).2 hother)⟩
  · rintro ⟨hknown, hnear, hfirst⟩
    exact ⟨(hmem near).2 hknown, hnear, fun other hother => hfirst other ((hmem other).1 hother)⟩

/-! ## Lookups -/

theorem describe_of_not_mem (h : id ∉ c.ids) : c.describe id =
    .error (.unknownOperation id ((c.closest? id).map fun near => s!"did you mean '{near}'?")) := by
  have hnone : c.find? id = none := by
    rw [find?, List.find?_eq_none]
    intro o ho heq
    exact h (beq_iff_eq.1 heq ▸ List.mem_map_of_mem ho)
  rw [describe, hnone]

/-- **Catalogues of the same operations** answer alike. -/
theorem describe_congr (hc : c.ids.Nodup) (h : c.operations.Perm c'.operations) (id : String) :
    c.describe id = c'.describe id := by
  have hids : c.ids.Perm c'.ids := h.map Operation.id
  by_cases hmem : id ∈ c.ids
  · obtain ⟨o, ho, rfl⟩ := List.mem_map.1 hmem
    rw [describe_of_mem hc ho, describe_of_mem (hids.nodup_iff.1 hc) (h.mem_iff.1 ho)]
  · have hclosest : c.closest? id = c'.closest? id := by
      refine Option.ext fun near => ?_
      rw [closest?_eq_some_iff, closest?_eq_some_iff, IsSuggested.congr fun _ => hids.mem_iff]
    rw [describe_of_not_mem hmem, describe_of_not_mem (mt hids.mem_iff.2 hmem), hclosest]

theorem ofList_of_nodup (h : (os.map Operation.id).Nodup) : ofList os = .ok ⟨os⟩ :=
  registerAll_of_nodup (c := empty) h

/-- **No lookup depends on an order.** Operations with distinct ids can be
entered in any order, and every id is then answered alike. That of an operation
finds it. Any other is refused, with a hint that names the id to suggest, the
first by its bytes of those that are near, and without one exactly when no id is
near. -/
theorem describe_anyOrder (hids : (os.map Operation.id).Nodup) (h : os.Perm os') :
    ∃ c c', ofList os = .ok c ∧ ofList os' = .ok c' ∧ ∀ id,
      c.describe id = c'.describe id ∧
      (∀ o ∈ os, o.id = id → c.describe id = .ok o) ∧
      (id ∉ os.map Operation.id → ∃ suggestion : Option String,
        c.describe id = .error (.unknownOperation id
          (suggestion.map fun near => s!"did you mean '{near}'?")) ∧
        (∀ near, suggestion = some near ↔ IsSuggested (os.map Operation.id) id near) ∧
        (suggestion = none ↔ ∀ known ∈ os.map Operation.id, ¬ IsNearTo known id)) := by
  refine ⟨⟨os⟩, ⟨os'⟩, ofList_of_nodup hids,
    ofList_of_nodup ((h.map Operation.id).nodup_iff.1 hids), fun id => ⟨?_, ?_, fun hmem => ?_⟩⟩
  · exact describe_congr hids h id
  · rintro o ho rfl
    exact describe_of_mem hids ho
  · exact ⟨_, describe_of_not_mem hmem, fun near => closest?_eq_some_iff, closest?_eq_none_iff⟩

/-- Operations of which one has another family and two are near `drives.lst`. -/
def volumes : List Operation :=
  [plain "drives.lost" "/1", plain "drive.list" "/2", plain "drives.list" "/3"]

theorem describe_anyOrder_volumes :
    (volumes.map Operation.id).Nodup ∧ volumes.Perm volumes.reverse ∧
      ∃ c c', ofList volumes = .ok c ∧ ofList volumes.reverse = .ok c' ∧
        IsSuggested (volumes.map Operation.id) "drives.lst" "drives.list" ∧
        c'.describe "drives.lst" =
          .error (.unknownOperation "drives.lst" (some "did you mean 'drives.list'?")) := by
  have hids : (volumes.map Operation.id).Nodup := by decide
  have hperm : volumes.Perm volumes.reverse := (List.reverse_perm _).symm
  have hnear : IsSuggested (volumes.map Operation.id) "drives.lst" "drives.list" :=
    closest?_eq_some_iff.1 (by decide : (⟨volumes⟩ : Catalogue).closest? _ = _)
  obtain ⟨c, c', hc, hc', hlookup⟩ := describe_anyOrder hids hperm
  obtain ⟨hsame, -, hunknown⟩ := hlookup "drives.lst"
  obtain ⟨suggestion, hdescribe, hsuggested, -⟩ := hunknown (by decide)
  obtain rfl := (hsuggested "drives.list").2 hnear
  exact ⟨hids, hperm, c, c', hc, hc', hnear, hsame ▸ hdescribe⟩

end Catalogue

end RestCall
