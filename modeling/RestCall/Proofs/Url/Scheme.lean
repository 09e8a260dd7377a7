import Mathlib
import RestCall.Proofs.Fault.Propagation
import RestCall.Proofs.Text.Lines
import RestCall.Proofs.Text.Splitting
import RestCall.Url.Parser
/-!
# RestCall — the scheme of an address

A scheme is what stands before the first colon, and nothing behind the
colon has a say in it. So an address keeps its scheme when its end is
trimmed and a path is appended to it.
-/

namespace RestCall

namespace Url

variable {c : Char} {cs front rest rest' path : List Char} {name : String} {u : Url}

/-- **A scheme stands before a colon**, and begins with a letter. -/
theorem exists_of_scheme? (h : scheme? cs = some (name, rest)) :
    ∃ c front, c.isAlpha = true ∧ (∀ x ∈ c :: front, (x == ':') = false) ∧
      cs = c :: front ++ ':' :: rest := by
  cases cs with
  | nil => cases h
  | cons c cs =>
    simp only [scheme?] at h
    split at h
    · rename_i halpha
      split at h
      · cases h
      · rename_i front rest' hsplit
        obtain ⟨mark, hmark, hcs, hfront⟩ := Text.splitFirst_eq_some hsplit
        rw [beq_iff_eq.1 hmark] at hcs
        split at h
        · cases h
          cases front with
          | nil =>
            rw [List.nil_append, List.cons.injEq] at hcs
            rw [hcs.1] at halpha
            exact absurd halpha (by decide)
          | cons c' front =>
            obtain rfl : c = c' := (List.cons.inj hcs).1
            exact ⟨c, front, halpha, hfront, hcs⟩
        · cases h
    · cases h

/-- **Nothing behind the colon** has a say in the scheme. -/
theorem scheme?_append (hfront : ∀ x ∈ c :: front, (x == ':') = false)
    (h : scheme? (c :: front ++ ':' :: rest) = some (name, rest)) (rest' : List Char) :
    scheme? (c :: front ++ ':' :: rest') = some (name, rest') := by
  have hsplit : ∀ behind,
      Text.splitFirst (· == ':') (c :: front ++ ':' :: behind) = some (c :: front, behind) :=
    fun _ => Text.splitFirst_append hfront rfl
  simp only [List.cons_append] at hsplit
  simp only [scheme?, List.cons_append, hsplit] at h ⊢
  split at h
  · rename_i halpha
    rw [if_pos halpha]
    split at h
    · rename_i hname
      rw [if_pos hname]
      cases h
      rfl
    · cases h
  · cases h

/-- What an address is freed of at its edges. -/
def isEdge (c : Char) : Bool := c.toNat ≤ 0x20

theorem not_isEdge_of_isAlpha (h : c.isAlpha = true) : isEdge c = false := by
  simp only [Char.isAlpha, Char.isUpper, Char.isLower, Bool.or_eq_true, Bool.and_eq_true,
    decide_eq_true_eq, UInt32.le_iff_toNat_le] at h
  change 65 ≤ c.toNat ∧ c.toNat ≤ 90 ∨ 97 ≤ c.toNat ∧ c.toNat ≤ 122 at h
  rw [isEdge, decide_eq_false_iff_not]
  omega

theorem trimmed_append {lead : List Char} (hlead : ∀ x ∈ lead, isEdge x = true)
    (hc : c.isAlpha = true) : trimmed (lead ++ (c :: front ++ ':' :: rest)) =
      c :: front ++ ':' :: Text.trimEndOf isEdge rest := by
  change Text.trimEndOf isEdge ((lead ++ (c :: front ++ ':' :: rest)).dropWhile isEdge) = _
  rw [List.dropWhile_append_of_pos hlead, List.cons_append,
    List.dropWhile_cons_of_neg (by simp [not_isEdge_of_isAlpha hc]), ← List.cons_append,
    Text.trimEndOf_append_cons (by decide)]

/-- **An address keeps its scheme** when its end is trimmed and a path is
appended. -/
theorem scheme?_trimEndOf {p : Char → Bool} (hp : p ':' = false) (path : List Char)
    (h : scheme? (trimmed cs) = some (name, rest)) :
    ∃ rest', scheme? (trimmed (Text.trimEndOf p cs ++ path)) = some (name, rest') := by
  obtain ⟨c, front, halpha, hfront, htrimmed⟩ := exists_of_scheme? h
  -- what stands around the scheme: edges before it, and all that follows the colon
  obtain ⟨trail, htrail⟩ := Text.trimEndOf_isPrefix isEdge (cs.dropWhile isEdge)
  change trimmed cs ++ trail = _ at htrail
  have hcs : cs = cs.takeWhile isEdge ++ (c :: front ++ ':' :: (rest ++ trail)) := by
    conv_lhs => rw [← List.takeWhile_append_dropWhile (p := isEdge) (l := cs), ← htrail, htrimmed]
    simp
  have hlead : ∀ x ∈ cs.takeWhile isEdge, isEdge x = true := fun x hx => List.mem_takeWhile_imp hx
  generalize cs.takeWhile isEdge = lead at hcs hlead
  have hkept : Text.trimEndOf p cs ++ path =
      lead ++ (c :: front ++ ':' :: (Text.trimEndOf p (rest ++ trail) ++ path)) := by
    rw [hcs, ← List.append_assoc, Text.trimEndOf_append_cons hp]
    simp
  rw [htrimmed] at h
  rw [hkept, trimmed_append hlead halpha]
  exact ⟨_, scheme?_append hfront h _⟩

/-- A URL has the scheme of its text. -/
theorem scheme_of_parse {s : String} (h : parse s = .ok u) :
    ∃ rest, scheme? (trimmed s.toList) = some (u.scheme, rest) := by
  rw [parse] at h
  split at h
  · cases h
  · rename_i scheme rest hscheme
    refine ⟨rest, ?_⟩
    dsimp only at h
    split at h <;>
      (obtain ⟨hierarchy, -, hu⟩ := bind_eq_ok_iff.1 h
       cases hu
       exact hscheme)

end Url

end RestCall
