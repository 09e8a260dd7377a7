import Mathlib.Data.List.Perm.Basic
import RestCall.Proofs.Filter.Coverage
/-!
# RestCall — signatures and the order of parameters

A signature covers the parameters in sorted order, so it can only depend on
which parameters there are. Before they are sorted, former signatures are
removed wherever they stand, and the account is named at the place of its
first entry while its other entries are dropped. Up to order this leaves the
account and the parameters of other keys (`perm_named`), whichever of the
former accounts came first. So queries with the same parameters in another
order are signed alike, and differ in their order only when they are signed
(`querySigner_reordered`).
-/

namespace RestCall

namespace Entries

variable {same : String → Bool} {name value : String} {entries entries' : Entries}

/-- **Up to order, setting** puts one entry before those of other names. -/
theorem perm_setBy (h : same name = true) :
    ∃ spelled, same spelled = true ∧
      (setBy same name value entries).Perm ((spelled, value) :: removeBy same entries) := by
  obtain ⟨spelled, hspelled, hfilter⟩ := exists_filter_setBy value entries h
  refine ⟨spelled, hspelled, ?_⟩
  have hrest : (setBy same name value entries).filter (fun e => !same e.1) =
      removeBy same entries := removeBy_setBy_of_within (fun _ hsame => hsame) h
  have hparts := List.filter_append_perm (fun e => same e.1) (setBy same name value entries)
  rw [hfilter, hrest] at hparts
  exact hparts.symm

end Entries

/-- **What is looked up** is the first of the entries of a key. -/
theorem Query.get?_of_filter {q : Query} {key : String} {e : String × String} {rest : Entries}
    (h : q.entries.filter (key == ·.1) = e :: rest) : q.get? key = some e.2 := by
  rw [get?, Entries.getBy?, ← List.head?_filter, h, List.head?_cons, Option.map_some]

namespace Filter

variable {c : Credentials} {q q' : Query} {m m' : Moment} {r r' : Request}

/-- **What is signed**, up to order: the account and the parameters that are
neither account nor signature. -/
theorem perm_named : (named c q).entries.Perm
    ((accountKey, c.identity) :: ((q.remove signatureKey).remove accountKey).entries) := by
  obtain ⟨key, hkey, hperm⟩ : ∃ key, (accountKey == key) = true ∧ (named c q).entries.Perm
      ((key, c.identity) :: ((q.remove signatureKey).remove accountKey).entries) :=
    Entries.perm_setBy accountKey_beq
  rwa [← beq_iff_eq.1 hkey] at hperm

theorem perm_named_of_perm (h : q.entries.Perm q'.entries) :
    (named c q).entries.Perm (named c q').entries := by
  have hrest : ((q.remove signatureKey).remove accountKey).entries.Perm
      ((q'.remove signatureKey).remove accountKey).entries := (h.filter _).filter _
  exact perm_named.trans ((hrest.cons _).trans perm_named.symm)

/-- **The order of parameters** is not covered. -/
theorem stringToSign_of_perm (h : q.entries.Perm q'.entries) : stringToSign q = stringToSign q' :=
  stringToSign_congr (h.map folded)

/-- The signature of a query that is signed for an account. -/
def signatureFor (c : Credentials) (q : Query) : String := sign c.secret (stringToSign (named c q))

theorem signatureFor_of_perm (h : q.entries.Perm q'.entries) :
    signatureFor c q = signatureFor c q' := by
  rw [signatureFor, signatureFor, stringToSign_of_perm (perm_named_of_perm h)]

theorem perm_signQuery (h : q.entries.Perm q'.entries) :
    (signQuery c q).entries.Perm (signQuery c q').entries := by
  have hsignature : [(signatureKey, signatureFor c q)] =
      [(signatureKey, signatureFor c q')] := by
    rw [signatureFor_of_perm h]
  exact (perm_named_of_perm h).append (.of_eq hsignature)

theorem querySigner_apply (hc : m.credentials = some c) :
    querySigner.apply m r = .ok { r with query := signQuery c r.query } := by
  simp [querySigner, credentials, hc, bind, Except.bind, pure, Except.pure]

/-- **The signature does not depend on the order of parameters.** Two requests
with the same parameters, in whatever order and with however many former
accounts and signatures among them, are given the same signature, each of
them once; and their signed queries have the same parameters. -/
theorem querySigner_reordered (hperm : r.query.entries.Perm r'.query.entries)
    (hc : m.credentials = some c) (hc' : m'.credentials = some c) :
    ∃ s s' signature, querySigner.apply m r = .ok s ∧ querySigner.apply m' r' = .ok s' ∧
      s.query.entries.filter (signatureKey == ·.1) = [(signatureKey, signature)] ∧
      s'.query.entries.filter (signatureKey == ·.1) = [(signatureKey, signature)] ∧
      s.query.entries.Perm s'.query.entries := by
  refine ⟨_, _, signatureFor c r.query, querySigner_apply hc, querySigner_apply hc',
    filter_signature_signQuery, ?_, perm_signQuery hperm⟩
  rw [signatureFor_of_perm hperm]
  exact filter_signature_signQuery

/-- Parameters with two former accounts and two former signatures. -/
def resent : Request :=
  { operation := "listFiles", method := "GET", endpoint := "https://example.test",
    query := ⟨[("apiKey", "old"), ("path", "a/b"), ("signature", "x"), ("Path", "a/b"),
      ("apiKey", "older"), ("signature", "y")]⟩,
    headers := Headers.empty, payload := none, filters := [], literal := ['/'] }

/-- The same parameters in another order, in a request that differs otherwise. -/
def reordered : Request :=
  { operation := "readFiles", method := "POST", endpoint := "https://other.test",
    query := ⟨[("signature", "y"), ("Path", "a/b"), ("apiKey", "older"), ("signature", "x"),
      ("apiKey", "old"), ("path", "a/b")]⟩,
    headers := ⟨[("Accept", "*/*")]⟩, payload := some ⟨[0x61], "text/plain"⟩,
    filters := ["query_signer"], literal := [] }

theorem querySigner_reordered_resent :
    resent.query.entries.Perm reordered.query.entries ∧
      ∃ s s' signature, querySigner.apply ⟨some account, 0⟩ resent = .ok s ∧
        querySigner.apply ⟨some account, 60⟩ reordered = .ok s' ∧
        s.query.get? signatureKey = some signature ∧
        s'.query.get? signatureKey = some signature := by
  have hperm : resent.query.entries.Perm reordered.query.entries := by decide
  have hnow : (⟨some account, 0⟩ : Moment).credentials = some account := rfl
  have hlater : (⟨some account, 60⟩ : Moment).credentials = some account := rfl
  obtain ⟨s, s', signature, hs, hs', hfilter, hfilter', -⟩ :=
    querySigner_reordered hperm hnow hlater
  exact ⟨hperm, s, s', signature, hs, hs', Query.get?_of_filter hfilter,
    Query.get?_of_filter hfilter'⟩

end Filter

end RestCall
