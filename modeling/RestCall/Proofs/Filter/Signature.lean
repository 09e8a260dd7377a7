import RestCall.Filter.Basic
import RestCall.Proofs.Request.Entries
import RestCall.Proofs.Request.Reading
/-!
# RestCall — signatures that can be verified

A signature covers the parameters as they are, before they are encoded,
and is itself the last parameter. Who receives the query reads the same
parameters back and takes the signature out, so the text that was signed
can be built again from what was sent.
-/

namespace RestCall

namespace Filter

variable {c c' : Credentials} {q : Query} {m : Moment} {r : Request}

/-- The parameters that are signed: without a former signature, and with the
account named. -/
def named (c : Credentials) (q : Query) : Query :=
  (q.remove signatureKey).set accountKey c.identity

theorem signQuery_eq :
    signQuery c q =
      (named c q).append signatureKey (sign c.secret (stringToSign (named c q))) := rfl

theorem apart_keys : Entries.Apart (accountKey == ·) (signatureKey == ·) := by
  intro key hkey
  rw [← beq_iff_eq.1 hkey]
  rfl

theorem accountKey_beq : (accountKey == accountKey) = true := beq_self_eq_true _

/-! ## What is signed -/

/-- The parameters that are signed hold no signature. -/
theorem remove_named : (named c q).remove signatureKey = named c q :=
  congrArg Query.mk <| (Entries.removeBy_setBy_of_apart apart_keys accountKey_beq).trans
    (congrArg _ Entries.removeBy_removeBy)

theorem not_mem_named {e : String × String} (h : e ∈ (named c q).entries) : e.1 ≠ signatureKey := by
  rw [← remove_named] at h
  rintro heq
  have hkey := (Entries.mem_removeBy.1 h).2
  rw [heq] at hkey
  exact absurd hkey (by simp)

/-- **Without its signature a signed query is what was signed.** -/
theorem remove_signQuery : (signQuery c q).remove signatureKey = named c q := by
  refine congrArg Query.mk ((List.filter_append ..).trans ?_)
  exact (List.append_nil _).trans (congrArg Query.entries remove_named)

/-- **A query can be signed again.** The former signature is removed, and the
account keeps its place. -/
theorem signQuery_signQuery : signQuery c (signQuery c' q) = signQuery c q := by
  have hnamed : named c (signQuery c' q) = named c q := by
    rw [named, remove_signQuery]
    exact congrArg Query.mk (Entries.setBy_setBy accountKey_beq)
  rw [signQuery_eq, hnamed, signQuery_eq]

/-- The account is named once. -/
theorem filter_account_signQuery :
    (signQuery c q).entries.filter (accountKey == ·.1) = [(accountKey, c.identity)] := by
  obtain ⟨key, hkey, hfilter⟩ := Entries.exists_filter_setBy c.identity
    (q.remove signatureKey).entries accountKey_beq
  rw [← beq_iff_eq.1 hkey] at hfilter
  refine (List.filter_append ..).trans ?_
  exact (congrArg (· ++ []) hfilter).trans (List.append_nil _)

/-- The signature stands there once. -/
theorem filter_signature_signQuery :
    (signQuery c q).entries.filter (signatureKey == ·.1) =
      [(signatureKey, sign c.secret (stringToSign (named c q)))] := by
  have hnone : (named c q).entries.filter (signatureKey == ·.1) = [] := by
    rw [List.filter_eq_nil_iff]
    intro e he heq
    exact not_mem_named he (beq_iff_eq.1 heq).symm
  rw [signQuery_eq, Query.append, List.filter_append, hnone]
  rfl

/-! ## Verification -/

/-- A query whose signature is that of its other parameters. -/
def Verified (secret : String) (q : Query) : Prop :=
  q.get? signatureKey = some (sign secret (stringToSign (q.remove signatureKey)))

theorem verified_signQuery : Verified c.secret (signQuery c q) := by
  rw [Verified, remove_signQuery, Query.get?, Entries.getBy?, ← List.head?_filter,
    filter_signature_signQuery]
  rfl

/-- **What is sent can be verified.** The signed query names the account once,
its one signature comes last, and the parameters that are read back from
its encoded form give that signature again. -/
theorem querySigner_verified (hc : m.credentials = some c) (hliteral : Query.Legible r.literal) :
    ∃ r', querySigner.apply m r = .ok r' ∧
      r'.query.entries.filter (accountKey == ·.1) = [(accountKey, c.identity)] ∧
      (∃ signature, r'.query.entries.getLast? = some (signatureKey, signature) ∧
        r'.query.entries.filter (signatureKey == ·.1) = [(signatureKey, signature)]) ∧
      ∃ served, Query.read? (r'.query.encode r'.literal) = some served ∧
        Verified c.secret served := by
  have happly : querySigner.apply m r = .ok { r with query := signQuery c r.query } := by
    simp [querySigner, credentials, hc, bind, Except.bind, pure, Except.pure]
  have hlast : (signQuery c r.query).entries.getLast? =
      some (signatureKey, sign c.secret (stringToSign (named c r.query))) :=
    List.getLast?_concat
  have hne : (signQuery c r.query).entries ≠ [] := by
    intro hnil
    rw [hnil] at hlast
    cases hlast
  exact ⟨_, happly, filter_account_signQuery, ⟨_, hlast, filter_signature_signQuery⟩,
    _, Query.read?_encode hliteral hne, verified_signQuery⟩

/-- A request that was signed before, with separators in a value and two
characters left literal. -/
def resigned : Request :=
  { operation := "listFiles", method := "GET", endpoint := "https://example.test",
    query := ⟨[("signature", "b2xk"), ("path", "a/b&c=d%41,é"), ("signature", "x")]⟩,
    headers := Headers.empty, payload := none, filters := [], literal := ['/', ','] }

theorem querySigner_verified_resigned :
    ∃ r', querySigner.apply ⟨some ⟨"user", "key", none⟩, 0⟩ resigned = .ok r' ∧
      r'.query.entries.getLast? =
        some ("signature", "gnjBXfNoFx3E8m9nr/LY0n4oVQkr4dFdPu93HPVFR44=") ∧
      ∃ served, Query.read? (r'.query.encode r'.literal) = some served ∧ Verified "key" served := by
  have hliteral : Query.Legible resigned.literal := ⟨by decide, by decide, by decide⟩
  -- the digest of apikey=user&path=a%2fb%26c%3dd%2541%2c%c3%a9 under the key
  have hvalue : (signQuery ⟨"user", "key", none⟩ resigned.query).entries.getLast? =
      some ("signature", "gnjBXfNoFx3E8m9nr/LY0n4oVQkr4dFdPu93HPVFR44=") := by decide +kernel
  obtain ⟨r', happly, -, -, hserved⟩ :=
    querySigner_verified (m := ⟨some ⟨"user", "key", none⟩, 0⟩) rfl hliteral
  refine ⟨r', happly, ?_, hserved⟩
  obtain rfl := Except.ok.inj happly
  exact hvalue

end Filter

end RestCall
