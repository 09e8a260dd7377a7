import RestCall.Proofs.Binding.Stages
import RestCall.Proofs.Operation.Prefix
import RestCall.Proofs.Text.Splitting
/-!
# RestCall — the slash in front of a path

A path is what the parts of its template are filled in as (`path_eq`), with a
slash in front unless it is empty or has one. Whether the template has one is
not asked. So a slash before the template makes no difference where what is
filled in begins with something else (`rooted_eq_iff`), and that is so, whatever
the arguments, when the template begins with a literal. When it begins with a
slot, its argument decides: one that is empty, or has a slash in front that the
operation leaves literal, makes the slash of the template one more
(`slash_optional_iff`, `slash_doubled`).
-/

namespace RestCall

namespace Binding

variable {serializers : Family Serializer} {endpoint text : String} {o : Operation}
variable {args : List Argument} {options : List Options} {literal : List Char} {c : Char}
variable {tokens : List Token}

/-- What the parts of a path are filled in as. -/
def filled (o : Operation) (args : List Argument) : Except Refusal String :=
  Text.join "" <$> o.path.tokens.mapM (tokenText o.literal args)

/-- Whether a text begins, and with something else than a slash. -/
def Unslashed (text : String) : Prop := ∃ c, text.toList.head? = some c ∧ c ≠ '/'

/-- The stages of a call, with the path as it is filled in. -/
def stages (serializers : Family Serializer) (endpoint : String) (o : Operation)
    (args : List Argument) (options : List Options) : Except Refusal Stages := do
  let base ← Binding.base endpoint o args
  let path ← filled o args
  let query ← entries args .query o.query
  let own ← entries args .header o.headers
  let payload ← Binding.payload serializers o args options
  return ⟨base, path, query, own, payload⟩

/-! ## Rooting -/

theorem ne_slash_append : text ≠ "/" ++ text := by
  intro h
  have hlength := congrArg (fun s => s.toList.length) h
  simp at hlength

/-- **A slash is put in front** of a text that begins with something else, and
of no other. -/
theorem rooted_eq_iff : rooted text = "/" ++ text ↔ Unslashed text := by
  unfold rooted Unslashed
  split
  · rename_i hnil
    exact iff_of_false ne_slash_append (by simp [hnil])
  · rename_i rest hslash
    exact iff_of_false ne_slash_append (by simp [hslash])
  · rename_i hne hslash
    refine iff_of_true rfl ?_
    obtain ⟨c, rest, hcons⟩ := List.exists_cons_of_ne_nil hne
    exact ⟨c, by rw [hcons]; rfl, fun hc => hslash rest (hc ▸ hcons)⟩

theorem rooted_eq_self (h : ¬ Unslashed text) : rooted text = text := by
  rw [← rooted_eq_iff] at h
  unfold rooted at h ⊢
  split at h
  · rfl
  · rfl
  · exact absurd rfl h

theorem rooted_slash (text : String) : rooted ("/" ++ text) = "/" ++ text := by
  rw [rooted, String.toList_append]
  rfl

/-- **A path** is what is filled in, with a slash in front. -/
theorem path_eq (o : Operation) (args : List Argument) :
    path o args = rooted <$> filled o args := by
  simp only [path, filled, map_eq_pure_bind, bind_assoc, pure_bind]

/-! ## Filling in -/

/-- A character before some parts comes before what they are filled in as. -/
theorem join_mapM_begun (tokens : List Token) :
    Text.join "" <$> (Token.begun c tokens).mapM (tokenText literal args) =
      (String.singleton c ++ ·) <$> Text.join "" <$> tokens.mapM (tokenText literal args) := by
  -- where no literal begins the parts, the character is one of its own
  have hown : ∀ tokens : List Token,
      Text.join "" <$> (.literal (String.singleton c) :: tokens).mapM (tokenText literal args) =
        (String.singleton c ++ ·) <$> Text.join "" <$> tokens.mapM (tokenText literal args) := by
    intro tokens
    rw [List.mapM_cons]
    cases tokens.mapM (tokenText literal args) with
    | error refusal => rfl
    | ok pieces => exact congrArg Except.ok (Text.join_empty_cons _ _)
  cases tokens with
  | nil => exact hown []
  | cons token rest =>
    cases token with
    | slot name index => exact hown _
    | literal text =>
      rw [Token.begun, List.mapM_cons, List.mapM_cons]
      cases rest.mapM (tokenText literal args) with
      | error refusal => rfl
      | ok pieces =>
        refine congrArg Except.ok ?_
        rw [Text.join_empty_cons, Text.join_empty_cons, String.append_assoc]

theorem filled_begun : filled (o.begun c) args = (String.singleton c ++ ·) <$> filled o args :=
  join_mapM_begun o.path.tokens

/-! ## Binding -/

/-- **A call is bound** from its stages, the slash put in front of the path. -/
theorem bind?_eq (hw : Welcome o options) : bind? serializers endpoint o args options =
    (fun s => Stages.request o options { s with path := rooted s.path }) <$>
      stages serializers endpoint o args options := by
  simp only [bind?_of_welcome hw, stages, path_eq, map_eq_pure_bind, bind_assoc, pure_bind]

/-- A character before the template comes before what is filled in. -/
theorem stages_begun : stages serializers endpoint (o.begun c) args options =
    (fun s => { s with path := String.singleton c ++ s.path }) <$>
      stages serializers endpoint o args options := by
  simp only [stages, filled_begun, map_eq_pure_bind, bind_assoc, pure_bind]
  rfl

/-- **With a slash before the template**, what is filled in has it. -/
theorem bind?_slash (hw : Welcome o options) :
    bind? serializers endpoint (o.begun '/') args options =
      (fun s => Stages.request o options { s with path := "/" ++ s.path }) <$>
        stages serializers endpoint o args options := by
  have hw' : Welcome (o.begun '/') options := hw
  rw [bind?_eq hw', stages_begun, Functor.map_map]
  congr 1
  funext s
  exact congrArg (fun path => Stages.request o options { s with path := path })
    (rooted_slash s.path)

theorem stages_eq_ok {s : Stages} (h : stages serializers endpoint o args options = .ok s) :
    base endpoint o args = .ok s.base ∧ filled o args = .ok s.path := by
  obtain ⟨base, hbase, h⟩ := bind_eq_ok_iff.1 h
  obtain ⟨path, hpath, h⟩ := bind_eq_ok_iff.1 h
  obtain ⟨query, -, h⟩ := bind_eq_ok_iff.1 h
  obtain ⟨own, -, h⟩ := bind_eq_ok_iff.1 h
  obtain ⟨payload, -, h⟩ := bind_eq_ok_iff.1 h
  cases h
  exact ⟨hbase, hpath⟩

/-- What a template that begins with a literal is filled in as begins with the
same character. -/
theorem unslashed_of_finish {d : Draft} (h : d.finish = .ok o) (hd : Unslashed d.path)
    (hopen : d.path.toList.head? ≠ some '\x7b') (htext : filled o args = .ok text) :
    Unslashed text := by
  obtain ⟨c, hhead, hc⟩ := hd
  obtain ⟨rest, hpath⟩ := List.head?_eq_some_iff.1 hhead
  -- the template is the rest of it with this character before it
  obtain ⟨o', rfl⟩ := Draft.begun_of_finish h hpath (by rintro rfl; exact hopen hhead)
  rw [filled_begun, map_eq_pure_bind, bind_eq_ok_iff] at htext
  obtain ⟨text', -, htext⟩ := htext
  cases htext
  exact ⟨c, by simp, hc⟩

/-- **With a slash before the template** a call is refused alike, or bound to a
request that differs in its endpoint at most: the slash stands in front of what
is filled in, whatever that begins with. -/
theorem bind_slash (serializers : Family Serializer) (endpoint : String) (o : Operation)
    (args : List Argument) (options : List Options) :
    (∃ fault, bind serializers endpoint o args options = .error fault ∧
      bind serializers endpoint (o.begun '/') args options = .error fault) ∨
    ∃ r base text, bind serializers endpoint o args options = .ok r ∧
      bind serializers endpoint (o.begun '/') args options =
        .ok { r with endpoint := base ++ ("/" ++ text) } ∧
      Binding.base endpoint o args = .ok base ∧ filled o args = .ok text ∧
      r.endpoint = base ++ rooted text := by
  by_cases hw : Welcome o options
  · rw [bind, bind, bind?_eq hw, bind?_slash hw]
    cases hs : stages serializers endpoint o args options with
    | error refusal => exact .inl ⟨_, rfl, rfl⟩
    | ok s =>
      obtain ⟨hbase, htext⟩ := stages_eq_ok hs
      exact .inr ⟨_, s.base, s.path, rfl, rfl, hbase, htext, rfl⟩
  · have hw' : ¬ Welcome (o.begun '/') options := hw
    rw [bind, bind, bind?_of_not_welcome hw, bind?_of_not_welcome hw']
    exact .inl ⟨_, rfl, rfl⟩

/-- **The slash in front of a template is optional** where what is filled in
begins, and not with a slash. A draft is an operation with it exactly when it
is one without it. Both are then refused alike, or bound to requests that differ
in the endpoint at most. The endpoints are the same exactly when what is filled
in begins with something else than a slash, as it does, whatever the arguments,
when the template begins with a literal; otherwise one of them has one slash
more. -/
theorem slash_optional_iff (serializers : Family Serializer) (endpoint : String) (d : Draft)
    (args : List Argument) (options : List Options) :
    (∀ o', (d.begun '/').finish = .ok o' ↔ ∃ o, d.finish = .ok o ∧ o.begun '/' = o') ∧
    ∀ o, d.finish = .ok o →
      (∃ fault, bind serializers endpoint o args options = .error fault ∧
        bind serializers endpoint (o.begun '/') args options = .error fault) ∨
      ∃ r base text, bind serializers endpoint o args options = .ok r ∧
        bind serializers endpoint (o.begun '/') args options =
          .ok { r with endpoint := base ++ ("/" ++ text) } ∧
        Binding.base endpoint o args = .ok base ∧ filled o args = .ok text ∧
        (base ++ ("/" ++ text) = r.endpoint ↔ Unslashed text) ∧
        (¬ Unslashed text → r.endpoint = base ++ text) ∧
        (Unslashed d.path → d.path.toList.head? ≠ some '\x7b' → Unslashed text) := by
  refine ⟨fun o' => Draft.finish_begun_iff (Template.unbraced_singleton.2 ⟨by decide, by decide⟩),
    fun o ho => ?_⟩
  obtain hrefused | ⟨r, base, text, hr, hslash, hbase, htext, hendpoint⟩ :=
    bind_slash serializers endpoint o args options
  · exact .inl hrefused
  · refine .inr ⟨r, base, text, hr, hslash, hbase, htext, ?_, fun hnot => ?_,
      fun hd hopen => unslashed_of_finish ho hd hopen htext⟩
    · rw [hendpoint, String.append_right_inj, eq_comm, rooted_eq_iff]
    · rw [hendpoint, rooted_eq_self hnot]

/-- A draft with a template, and slashes left literal. -/
def fileDraft (template : String) : Draft :=
  { Draft.start "files.get" "GET" with path := template, literal := ['/'] }

/-- The operation of this draft, given the parts of its template. -/
def fileOperation (template : String) (tokens : List Token) : Operation :=
  { id := "files.get", method := "GET", path := ⟨template, tokens⟩, query := [], headers := []
    accept := none, payload := none, endpointArgument := none, parser := "release_payload"
    mapper := none, filters := [], unwrapping := none, literal := ['/'], takesOptions := false }

theorem finish_fileDraft {template : String}
    (h : Template.parse template = .ok ⟨template, tokens⟩) :
    (fileDraft template).finish = .ok (fileOperation template tokens) := by
  have hid : Text.isBlankText "files.get" = false := by decide
  exact Draft.finish_eq_ok_iff.2 ⟨hid, nofun, _, _, h, rfl, rfl⟩

/-- The request for an endpoint. -/
def fileRequest (endpoint : String) : Request :=
  { operation := "files.get", method := "GET", endpoint, query := ⟨[]⟩, headers := .empty
    payload := none, filters := [], literal := ['/'] }

theorem slash_optional_iff_version :
    ∃ o, (fileDraft "v\x7bversion\x7d/files").finish = .ok o ∧
      (fileDraft "/v\x7bversion\x7d/files").finish = .ok (o.begun '/') ∧
      bind Serializer.builtin "https://api.example.com/" o [.text "/1"] [] =
        .ok (fileRequest "https://api.example.com/v/1/files") ∧
      bind Serializer.builtin "https://api.example.com/" (o.begun '/') [.text "/1"] [] =
        .ok (fileRequest "https://api.example.com/v/1/files") := by
  have hparse : Template.parse "v\x7bversion\x7d/files" = .ok ⟨"v\x7bversion\x7d/files",
      [.literal "v", .slot "version" 0, .literal "/files"]⟩ := by decide
  have ho := finish_fileDraft hparse
  have hbound : bind Serializer.builtin "https://api.example.com/"
      (fileOperation "v\x7bversion\x7d/files" [.literal "v", .slot "version" 0, .literal "/files"])
      [.text "/1"] [] = .ok (fileRequest "https://api.example.com/v/1/files") := rfl
  obtain ⟨hdeclared, hrequests⟩ := slash_optional_iff Serializer.builtin
    "https://api.example.com/" (fileDraft "v\x7bversion\x7d/files") [.text "/1"] []
  obtain ⟨fault, hfault, -⟩ | ⟨r, base, text, hr, hslash, -, -, hsame, -, hbegun⟩ :=
    hrequests _ ho
  · exact nomatch hbound.symm.trans hfault
  · have hd : Unslashed "v\x7bversion\x7d/files" := ⟨'v', rfl, by decide⟩
    cases hbound.symm.trans hr
    refine ⟨_, ho, (hdeclared _).2 ⟨_, ho, rfl⟩, hbound, ?_⟩
    rw [hslash, hsame.2 (hbegun hd (by decide))]

/-- **The slash is not optional** in front of a slot whose argument is empty, or
begins with a slash that is left literal. -/
theorem slash_doubled :
    ∃ o, (fileDraft "\x7bname\x7d").finish = .ok o ∧
      (fileDraft "/\x7bname\x7d").finish = .ok (o.begun '/') ∧
      bind Serializer.builtin "https://api.example.com" o [.text ""] [] =
        .ok (fileRequest "https://api.example.com") ∧
      bind Serializer.builtin "https://api.example.com" (o.begun '/') [.text ""] [] =
        .ok (fileRequest "https://api.example.com/") ∧
      bind Serializer.builtin "https://api.example.com" o [.text "/a"] [] =
        .ok (fileRequest "https://api.example.com/a") ∧
      bind Serializer.builtin "https://api.example.com" (o.begun '/') [.text "/a"] [] =
        .ok (fileRequest "https://api.example.com//a") := by
  have hslot : Template.parse "\x7bname\x7d" = .ok ⟨"\x7bname\x7d", [.slot "name" 0]⟩ := by decide
  have hslashed : Template.parse "/\x7bname\x7d" =
      .ok ⟨"/\x7bname\x7d", [.literal "/", .slot "name" 0]⟩ := by decide
  exact ⟨_, finish_fileDraft hslot, finish_fileDraft hslashed, rfl, rfl, rfl, rfl⟩

end Binding

end RestCall
