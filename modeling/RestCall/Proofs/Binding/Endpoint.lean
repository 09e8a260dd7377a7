import Mathlib
import RestCall.Proofs.Binding.Stages
import RestCall.Proofs.Operation.Rebinding
import RestCall.Proofs.Text.Lines
/-!
# RestCall — endpoints that an argument gives

A URL that is passed for the endpoint loses the slashes at its end, and the path
of the call follows, so that one slash stands where the two are joined. The
slashes are cut off when nothing follows, too: with an empty template the
endpoint is the URL as it is given exactly when that does not end in a slash
(`endpoint_given_iff`), which a web URL of a host alone always does
(`endpoint_cut`).
-/

namespace RestCall

namespace Binding

variable {serializers : Family Serializer} {endpoint whole front : String}
variable {d : Draft} {o : Operation} {args : List Argument} {options : List Options} {r : Request}
variable {index : Nat} {u : Url}

/-- **A text without the slashes at its end**: some number of them restores it,
and it ends in none. -/
structure SlashesCut (whole front : String) : Prop where
  restored : ∃ n, whole.toList = front.toList ++ List.replicate n '/'
  ended : front.toList.getLast? ≠ some '/'

/-! ## Slashes at the end -/

theorem slashesCut_trimSlashes (whole : String) : SlashesCut whole (trimSlashes whole) := by
  constructor
  · obtain ⟨tail, htail, hslashes⟩ := Text.exists_trimEndOf_append (· == '/') whole.toList
    refine ⟨tail.length, ?_⟩
    have hreplicate : tail = List.replicate tail.length '/' :=
      List.eq_replicate_iff.2 ⟨rfl, fun c hc => eq_of_beq (hslashes c hc)⟩
    rw [← hreplicate, trimSlashes, String.toList_ofList, htail]
  · intro hend
    rw [trimSlashes, String.toList_ofList] at hend
    exact absurd (Text.not_of_getLast?_trimEndOf hend) (by decide)

/-- **Nothing is cut off** exactly when a text ends in no slash. -/
theorem SlashesCut.eq_iff (h : SlashesCut whole front) :
    front = whole ↔ whole.toList.getLast? ≠ some '/' := by
  constructor
  · rintro rfl
    exact h.ended
  · intro hend
    obtain ⟨n, hn⟩ := h.restored
    cases n with
    | zero =>
      rw [← String.toList_inj, hn]
      simp
    | succ n =>
      rw [hn, List.replicate_succ', ← List.append_assoc, List.getLast?_concat] at hend
      exact absurd rfl hend

/-! ## Base and path -/

/-- The base that a URL gives. -/
theorem base_given (hindex : o.endpointArgument = some index)
    (hu : args[index]? = some (.uri u)) : base endpoint o args =
      if u.isBare then .ok (trimSlashes u.text) else .error (.endpointNotBare index u.text) := by
  have hurl : endpointUrl index args[index]? = .ok u := by
    rw [hu]
    rfl
  rw [base, hindex]
  dsimp only
  rw [hurl]
  rfl

/-- An empty template makes an empty path. -/
theorem path_of_empty (hd : d.finish = .ok o) (hempty : d.path = "") : path o args = .ok "" := by
  obtain ⟨-, -, t, path, ht, hpath, rfl⟩ := Draft.finish_eq_ok_iff.1 hd
  have hnil : Template.parse "" = .ok ⟨"", []⟩ := rfl
  rw [hempty, hnil] at ht
  cases ht
  obtain ⟨-, rfl⟩ := Template.rebound_eq_ok_iff.1 hpath
  rfl

/-- **A URL that is passed for the endpoint** has neither query nor fragment
when the call is bound, and its text, without the slashes at its end and with the
path behind it, is the endpoint. With an empty template, that is the text as
it is given exactly when it does not end in a slash. -/
theorem endpoint_given_iff (hd : d.finish = .ok o) (hindex : d.endpointArgument = some index)
    (hu : args[index]? = some (.uri u))
    (h : bind serializers endpoint o args options = .ok r) :
    u.isBare = true ∧ ∃ front path, SlashesCut u.text front ∧ Binding.path o args = .ok path ∧
      r.endpoint = front ++ path ∧
      (d.path = "" → path = "" ∧ (r.endpoint = u.text ↔ u.text.toList.getLast? ≠ some '/')) := by
  have hown : o.endpointArgument = some index := by
    obtain ⟨-, -, t, path, -, -, rfl⟩ := Draft.finish_eq_ok_iff.1 hd
    exact hindex
  obtain ⟨-, s, hs, rfl⟩ := bound_iff.1 h
  have hbase := hs.base
  rw [base_given hown hu] at hbase
  split at hbase
  · rename_i hbare
    have hcut : SlashesCut u.text s.base := Except.ok.inj hbase ▸ slashesCut_trimSlashes u.text
    refine ⟨hbare, s.base, s.path, hcut, hs.path, rfl, fun hempty => ?_⟩
    have hpath : s.path = "" := Except.ok.inj (hs.path.symm.trans (path_of_empty hd hempty))
    refine ⟨hpath, ?_⟩
    rw [Stages.request, hpath, String.append_empty, hcut.eq_iff]
  · cases hbase

/-- A draft without a template, whose first argument is the endpoint. -/
def regional : Draft :=
  { Draft.start "servers.list" "GET" with endpointArgument := some 0 }

/-- The operation of this draft. -/
def regionalOperation : Operation :=
  { id := "servers.list", method := "GET", path := ⟨"", []⟩, query := [], headers := []
    accept := none, payload := none, endpointArgument := some 0, parser := "release_payload"
    mapper := none, filters := [], unwrapping := none, literal := [], takesOptions := false }

theorem finish_regional : regional.finish = .ok regionalOperation := by
  have hid : Text.isBlankText "servers.list" = false := by decide
  exact Draft.finish_eq_ok_iff.2 ⟨hid, nofun, _, _, rfl, rfl, rfl⟩

/-- A URL of one host, with a path. -/
def loopback (path : String) : Url := ⟨"https", some "[::1]", some "[::1]", path, none, none⟩

/-- The request for an endpoint. -/
def regionalRequest (endpoint : String) : Request :=
  { operation := "servers.list", method := "GET", endpoint, query := ⟨[]⟩, headers := .empty
    payload := none, filters := [], literal := [] }

theorem endpoint_given_iff_loopback :
    Url.parse "https://[::1]/v1" = .ok (loopback "/v1") ∧
      regional.finish = .ok regionalOperation ∧
      bind Serializer.builtin "https://api.example.com" regionalOperation
        [.uri (loopback "/v1")] [] = .ok (regionalRequest "https://[::1]/v1") ∧
      (regionalRequest "https://[::1]/v1").endpoint = (loopback "/v1").text := by
  have hparse : Url.parse "https://[::1]/v1" = .ok (loopback "/v1") := by cbv
  have hbound : bind Serializer.builtin "https://api.example.com" regionalOperation
      [.uri (loopback "/v1")] [] = .ok (regionalRequest "https://[::1]/v1") := rfl
  obtain ⟨-, front, path, -, -, -, hgiven⟩ := endpoint_given_iff finish_regional rfl rfl hbound
  exact ⟨hparse, finish_regional, hbound, (hgiven rfl).2.2 (by decide)⟩

/-- **A URL is not taken as it is given** when it ends in a slash, as one of a
host alone does. -/
theorem endpoint_cut :
    regional.finish = .ok regionalOperation ∧
      Url.parse "https://[::1]/v1/" = .ok (loopback "/v1/") ∧
      bind Serializer.builtin "https://api.example.com" regionalOperation
        [.uri (loopback "/v1/")] [] = .ok (regionalRequest "https://[::1]/v1") ∧
      (regionalRequest "https://[::1]/v1").endpoint ≠ (loopback "/v1/").text ∧
      Url.parse "https://[::1]" = .ok (loopback "/") ∧
      bind Serializer.builtin "https://api.example.com" regionalOperation
        [.uri (loopback "/")] [] = .ok (regionalRequest "https://[::1]") ∧
      (regionalRequest "https://[::1]").endpoint ≠ (loopback "/").text := by
  have hparse : Url.parse "https://[::1]/v1/" = .ok (loopback "/v1/") := by cbv
  have hhost : Url.parse "https://[::1]" = .ok (loopback "/") := by cbv
  exact ⟨finish_regional, hparse, rfl, by decide, hhost, rfl, by decide⟩

end Binding

end RestCall
