import Mathlib.Data.List.TakeWhile
import RestCall.Json.Path
import RestCall.Proofs.Text.Lines
import RestCall.Proofs.Text.Numeral
import RestCall.Proofs.Text.Splitting
/-!
# RestCall — what dotted paths reach

A walk through the members of objects is told by its keys, and a path by the
keys between dots. The two part where a key is a number: a path takes it for a
position and looks it up in an object under its usual spelling. So a dotted
path leads where the walk by the usual spellings of its keys leads, and it
leads where the walk by the keys leads, whatever the value, exactly when no key
is a number in another spelling (`dotted_reaches`).
-/

namespace RestCall

namespace Json

open Step

variable {key : String} {keys : List String} {n : Nat} {v w root : Json}

/-- The value of a member of an object. -/
def member? (key : String) : Json → Option Json
  | .object members => find? key members
  | _ => none

/-- The value at the end of a walk through members of objects. -/
def walk? (v : Json) (keys : List String) : Option Json :=
  keys.foldlM (fun v key => v.member? key) v

/-- Keys between dots. -/
def dotted (keys : List String) : String := Text.join "." keys

/-- A key that can stand between dots: it is not empty, and no character of it
ends it. -/
structure IsDottable (key : String) : Prop where
  ne_empty : key ≠ ""
  dot : '.' ∉ key.toList
  bracket : '[' ∉ key.toList
  blank : ∀ c ∈ key.toList, Text.isBlank c = false

/-- A number of 64 bits in another spelling than the usual one: with zeros or
a plus sign in front. -/
def IsRespelled (key : String) : Prop :=
  ∃ n ≤ Numeral.max64, Numeral.IsNumeral n key.toList ∧ toString n ≠ key

/-- The usual spelling of a key that is a number, and every other key as it
stands. -/
def usual (key : String) : String := ((position? key.toList).map toString).getD key

/-! ## Keys that are numbers -/

theorem position?_eq_some_iff :
    position? key.toList = some n ↔ n ≤ Numeral.max64 ∧ Numeral.IsNumeral n key.toList :=
  Numeral.natural?_eq_some_iff

theorem usual_eq_self_iff : usual key = key ↔ ¬ IsRespelled key := by
  rw [usual]
  cases hposition : position? key.toList with
  | none =>
    refine iff_of_true rfl ?_
    rintro ⟨n, hn, hnumeral, -⟩
    rw [position?_eq_some_iff.2 ⟨hn, hnumeral⟩] at hposition
    cases hposition
  | some n =>
    have hn := position?_eq_some_iff.1 hposition
    constructor
    · rintro husual ⟨m, hm, hnumeral, hne⟩
      rw [position?_eq_some_iff.2 ⟨hm, hnumeral⟩] at hposition
      exact hne (Option.some.inj hposition ▸ husual)
    · intro h
      by_contra hne
      exact h ⟨n, hn.1, hn.2, hne⟩

/-- The step that a key between dots stands for. -/
def stepOf (key : String) : Step :=
  match position? key.toList with
  | some n => .index n
  | none => .key key

/-- **A step into an object** looks up the usual spelling of its key. -/
theorem follow?_object (members : List (String × Json)) :
    follow? (.object members) (stepOf key) = find? (usual key) members := by
  rw [stepOf, usual]
  cases position? key.toList <;> rfl

theorem follow?_of_member? (h : v.member? (usual key) = some w) :
    follow? v (stepOf key) = some w := by
  cases v with
  | object members => exact (follow?_object members).trans h
  | _ => cases h

/-! ## The steps of a dotted path -/

theorem ofPart?_of_isDottable (h : IsDottable key) :
    ofPart? key.toList = some [stepOf key] := by
  have hplain : ∀ c ∈ key.toList, (c != '[') = true := fun c hc =>
    bne_iff_ne.2 fun heq => h.bracket (heq ▸ hc)
  have hkey : key.toList.takeWhile (· != '[') = key.toList := List.takeWhile_eq_self_iff.2 hplain
  have hrest : key.toList.dropWhile (· != '[') = [] := List.dropWhile_eq_nil_iff.2 hplain
  have hne : key.toList.isEmpty = false := by
    simpa [List.isEmpty_eq_false_iff] using h.ne_empty
  rw [ofPart?, hkey, hrest, hne, stepOf]
  cases position? key.toList <;> simp [brackets?]

theorem mem_dotted {c : Char} (h : c ∈ (dotted keys).toList) :
    c = '.' ∨ ∃ key ∈ keys, c ∈ key.toList := by
  rw [dotted] at h
  fun_induction Text.join "." keys with
  | case1 => simp at h
  | case2 key => exact .inr ⟨key, List.mem_singleton_self key, h⟩
  | case3 key rest _ ih =>
    rw [String.toList_append, String.toList_append, List.mem_append, List.mem_append] at h
    rcases h with (h | h) | h
    · exact .inr ⟨key, List.mem_cons_self, h⟩
    · exact .inl (by simpa using h)
    · rcases ih h with hdot | ⟨key', hkey', hc⟩
      · exact .inl hdot
      · exact .inr ⟨key', List.mem_cons_of_mem key hkey', hc⟩

section Dottable

variable (hne : keys ≠ []) (hkeys : ∀ key ∈ keys, IsDottable key)
include hkeys

theorem trim_dotted : Text.trim (dotted keys).toList = (dotted keys).toList := by
  refine (Text.tight_of_not_blank fun c hc => ?_).trim_eq
  rcases mem_dotted hc with rfl | ⟨key, hkey, hc⟩
  · decide
  · exact (hkeys key hkey).blank c hc

theorem flatten_parts :
    ((keys.map String.toList).mapM ofPart?).map List.flatten = some (keys.map stepOf) := by
  induction keys with
  | nil => rfl
  | cons key keys ih =>
    rw [List.forall_mem_cons] at hkeys
    obtain ⟨parts, hparts, hsteps⟩ := Option.map_eq_some_iff.1 (ih hkeys.2)
    rw [List.map_cons, List.map_cons, List.mapM_cons, ofPart?_of_isDottable hkeys.1, hparts,
      ← hsteps]
    rfl

include hne

/-- **The parts of a dotted path** are its keys. -/
theorem splitOn_dotted : Text.splitOn '.' (dotted keys).toList = keys.map String.toList :=
  Text.splitOn_join hne fun key hkey => (hkeys key hkey).dot

theorem isEmpty_dotted : (dotted keys).toList.isEmpty = false := by
  rw [List.isEmpty_eq_false_iff]
  intro hnil
  have hsplit := splitOn_dotted hne hkeys
  rw [hnil] at hsplit
  cases keys with
  | nil => exact hne rfl
  | cons key keys =>
    have hkey : key.toList = [] := (List.cons.inj hsplit).1.symm
    exact (hkeys key List.mem_cons_self).ne_empty (String.toList_eq_nil_iff.1 hkey)

/-- Only a first key that is the sign for the whole value is taken for it. -/
theorem after?_dotted (hroot : keys.head? ≠ some "$") :
    Text.after? ['$', '.'] (dotted keys).toList = none := by
  by_contra hsome
  obtain ⟨rest, hrest⟩ := Option.ne_none_iff_exists'.1 hsome
  have hcs : (dotted keys).toList = '$' :: '.' :: rest := Text.after?_eq_some hrest
  have hsplit := splitOn_dotted hne hkeys
  rw [hcs, ← List.singleton_append, Text.splitOn_append (by decide)] at hsplit
  cases keys with
  | nil => exact hne rfl
  | cons key keys =>
    have hkey : key.toList = "$".toList := (List.cons.inj hsplit).1.symm
    exact hroot (by rw [List.head?_cons, String.toList_inj.1 hkey])

/-- **The steps of a dotted path** are those of its keys. -/
theorem ofPath?_dotted (hroot : keys.head? ≠ some "$") :
    ofPath? (dotted keys) = some (keys.map stepOf) := by
  rw [ofPath?, trim_dotted hkeys, after?_dotted hne hkeys hroot, Option.getD_none,
    isEmpty_dotted hne hkeys, splitOn_dotted hne hkeys]
  exact flatten_parts hkeys

theorem at?_dotted_eq (hroot : keys.head? ≠ some "$") (v : Json) :
    v.at? (dotted keys) = (keys.map stepOf).foldlM follow? v := by
  rw [at?, ofPath?_dotted hne hkeys hroot]
  rfl

end Dottable

/-! ## Walks -/

/-- **A walk by the usual spellings** is a way of the steps. -/
theorem foldlM_stepOf (h : v.walk? (keys.map usual) = some w) :
    (keys.map stepOf).foldlM follow? v = some w := by
  induction keys generalizing v with
  | nil => exact h
  | cons key keys ih =>
    rw [List.map_cons, walk?, List.foldlM_cons] at h
    obtain ⟨next, hnext, hrest⟩ := Option.bind_eq_some_iff.1 h
    rw [List.map_cons, List.foldlM_cons, follow?_of_member? hnext]
    exact ih hrest

/-- Objects of one member within each other. -/
def nested (keys : List String) : Json := keys.foldr (fun key v => .object [(key, v)]) .null

theorem walk?_nested (keys : List String) : (nested keys).walk? keys = some .null := by
  induction keys with
  | nil => rfl
  | cons key keys ih =>
    rw [walk?, List.foldlM_cons, nested, List.foldr_cons, member?, find?, if_pos rfl]
    exact ih

/-- **Through members of its own spelling** a key leads only when that is the
usual one. -/
theorem usual_eq_of_nested (h : (keys.map stepOf).foldlM follow? (nested keys) = some w) :
    ∀ key ∈ keys, usual key = key := by
  induction keys with
  | nil => simp
  | cons key keys ih =>
    rw [List.map_cons, List.foldlM_cons, nested, List.foldr_cons, follow?_object] at h
    obtain ⟨next, hnext, hrest⟩ := Option.bind_eq_some_iff.1 h
    rw [find?] at hnext
    split at hnext
    · rename_i heq
      obtain rfl := Option.some.inj hnext
      exact List.forall_mem_cons.2 ⟨heq.symm, ih hrest⟩
    · cases hnext

/-- **What a dotted path reaches.** It leads where the walk through members by
the usual spellings of its keys leads. So it leads where the walk by the keys
themselves leads, in every value, exactly when none of them is a number in
another spelling. -/
theorem dotted_reaches (hne : keys ≠ []) (hkeys : ∀ key ∈ keys, IsDottable key)
    (hroot : keys.head? ≠ some "$") :
    (∀ root v : Json, root.walk? (keys.map usual) = some v → root.at? (dotted keys) = some v) ∧
    ((∀ root v : Json, root.walk? keys = some v → root.at? (dotted keys) = some v) ↔
      ∀ key ∈ keys, ¬ IsRespelled key) := by
  have husual : ∀ root v : Json, root.walk? (keys.map usual) = some v →
      root.at? (dotted keys) = some v := by
    intro root v hwalk
    rw [at?_dotted_eq hne hkeys hroot]
    exact foldlM_stepOf hwalk
  refine ⟨husual, fun hreaches key hkey => ?_, fun hplain root v hwalk => ?_⟩
  · have hnested := hreaches (nested keys) .null (walk?_nested keys)
    rw [at?_dotted_eq hne hkeys hroot] at hnested
    exact usual_eq_self_iff.1 (usual_eq_of_nested hnested key hkey)
  · have hsame : keys.map usual = keys.map id := List.map_congr_left fun key hkey =>
      usual_eq_self_iff.2 (hplain key hkey)
    rw [List.map_id] at hsame
    exact husual root v (by rw [hsame, hwalk])

/-- Drives by their numbers, of which one is written with zeros in front. -/
def drives : Json :=
  .object [("drives", .object [("42", .string "data"), ("007", .string "boot")])]

theorem isDottable_drives : ∀ key ∈ ["drives", "42", "007"], IsDottable key := by
  simp only [List.forall_mem_cons, List.not_mem_nil, false_implies, implies_true, and_true]
  exact ⟨⟨by decide, by decide, by decide, by simp [Text.isBlank]⟩,
    ⟨by decide, by decide, by decide, by simp [Text.isBlank]⟩,
    ⟨by decide, by decide, by decide, by simp [Text.isBlank]⟩⟩

theorem dotted_reaches_drives :
    (∀ key ∈ ["drives", "42"], IsDottable key) ∧ (∀ key ∈ ["drives", "42"], ¬ IsRespelled key) ∧
      drives.walk? ["drives", "42"] = some (.string "data") ∧
      drives.at? "drives.42" = some (.string "data") := by
  have hkeys : ∀ key ∈ ["drives", "42"], IsDottable key := fun key hkey =>
    isDottable_drives key (List.mem_append_left ["007"] hkey)
  have husual : ∀ key ∈ ["drives", "42"], ¬ IsRespelled key := fun key hkey =>
    usual_eq_self_iff.1 (by revert key; decide)
  have hwalk : drives.walk? ["drives", "42"] = some (.string "data") := rfl
  exact ⟨hkeys, husual, hwalk,
    (dotted_reaches (List.cons_ne_nil _ _) hkeys (by decide)).2.2 husual drives _ hwalk⟩

/-- **A key with zeros in front is not reached**: the walk through members finds
it, and the path looks for the member of the usual spelling. -/
theorem dotted_misses_padded :
    (∀ key ∈ ["drives", "007"], IsDottable key) ∧ ["drives", "007"].head? ≠ some "$" ∧
      drives.walk? ["drives", "007"] = some (.string "boot") ∧
      drives.at? (dotted ["drives", "007"]) = none :=
  ⟨fun key hkey => isDottable_drives key (by revert key; decide), by decide, rfl, rfl⟩

end Json

end RestCall
