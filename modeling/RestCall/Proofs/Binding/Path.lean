import RestCall.Proofs.Binding.Stages
import RestCall.Proofs.Request.Reading
import RestCall.Proofs.Url.Marks
/-!
# RestCall — what a path is made of

An operation declares the outline of its paths: characters it writes
itself, and gaps for arguments. Arguments are encoded before they fill a
gap, so a path `Fills` its outline with pieces that hold no delimiter. What
can be read off an outline therefore holds of every path: which delimiters
there are (`Fills.filter_isDelimiter`), and where a segment begins and ends
that one argument makes up (`path_kept`).
-/

namespace RestCall

/-- The outline of a part: the characters it writes itself, or a gap. -/
def Token.outline : Token → List (Option Char)
  | .literal text => text.toList.map some
  | .slot _ _ => [none]

namespace Binding

variable {serializers : Family Serializer} {endpoint : String} {o : Operation}
variable {args : List Argument} {options : List Options} {r : Request}

/-- The outline of a path. -/
def outline (tokens : List Token) : List (Option Char) := tokens.flatMap Token.outline

/-- The characters that an outline gives, without its gaps. -/
def written (cells : List (Option Char)) : List Char := cells.filterMap id

/-- What a segment of a path ends at. -/
def isDelimiter (c : Char) : Bool := c == '/' || Url.isMark c

/-- Whether a text holds no delimiter. -/
def Undelimited (cs : List Char) : Prop := ∀ c ∈ cs, isDelimiter c = false

instance : DecidablePred Undelimited := fun cs => List.decidableBAll (isDelimiter · = false) cs

/-- The segments of a path: what stands between its delimiters. -/
def segments (path : String) : List (List Char) := path.toList.splitOnP isDelimiter

/-- The characters that an operation may leave literal without letting
arguments write delimiters. -/
structure Sheltered (literal : List Char) : Prop where
  percent : '%' ∉ literal
  undelimited : Undelimited literal

/-- Whether paths begin with a slash that their operation writes. -/
def IsRooted (tokens : List Token) : Prop := (outline tokens).head? = some (some '/')

/-- Whether a slot between some parts and others is all of a segment: a
slash is written before it, and behind it the path ends or a delimiter is
written. -/
structure WholeSegment (before after : List Token) : Prop where
  opened : (outline before).getLast? = some (some '/')
  closed : ∀ cell, (outline after).head? = some cell → ∃ c, cell = some c ∧ isDelimiter c = true

/-! ## Filling an outline -/

/-- A text that follows an outline and has no delimiter in its gaps. -/
inductive Fills : List (Option Char) → List Char → Prop
  | nil : Fills [] []
  | own {cells : List (Option Char)} {cs : List Char} (c : Char) :
    Fills cells cs → Fills (some c :: cells) (c :: cs)
  | gap {cells : List (Option Char)} {piece cs : List Char} :
    Undelimited piece → Fills cells cs → Fills (none :: cells) (piece ++ cs)

variable {tokens : List Token} {literal piece cs cs' : List Char}
variable {cells cells' : List (Option Char)}

namespace Fills

theorem characters (cs : List Char) : Fills (cs.map some) cs := by
  induction cs with
  | nil => exact .nil
  | cons c cs ih => exact .own c ih

theorem append (h : Fills cells cs) (h' : Fills cells' cs') :
    Fills (cells ++ cells') (cs ++ cs') := by
  induction h with
  | nil => exact h'
  | own c _ ih => exact .own c ih
  | gap hpiece _ ih =>
    rw [List.cons_append, List.append_assoc]
    exact .gap hpiece ih

/-- **The delimiters of a text** are those that its outline gives. -/
theorem filter_isDelimiter (h : Fills cells cs) :
    cs.filter isDelimiter = (written cells).filter isDelimiter := by
  induction h with
  | nil => rfl
  | @own cells cs c _ ih =>
    change (c :: cs).filter isDelimiter = (c :: written cells).filter isDelimiter
    rw [List.filter_cons, List.filter_cons, ih]
  | gap hpiece _ ih =>
    have hnone := List.filter_eq_nil_iff.2 fun c hc => Bool.eq_false_iff.1 (hpiece c hc)
    rw [List.filter_append, hnone, List.nil_append, ih]
    rfl

theorem head? {c : Char} (h : Fills cells cs) (hc : cells.head? = some (some c)) :
    cs.head? = some c := by
  cases h with
  | nil => cases hc
  | own d _ => exact congrArg _ (Option.some.inj (Option.some.inj hc))
  | gap => cases hc

theorem getLast? {c : Char} (h : Fills cells cs) (hc : cells.getLast? = some (some c)) :
    cs.getLast? = some c := by
  induction h with
  | nil => cases hc
  | @own cells cs d h ih =>
    cases cells with
    | nil =>
      cases h
      exact Option.some.inj hc
    | cons cell cells =>
      rw [List.getLast?_cons_cons] at hc
      rw [List.getLast?_cons, ih hc]
      rfl
  | @gap cells piece cs _ h ih =>
    cases cells with
    | nil => cases hc
    | cons cell cells =>
      -- what is behind the gap decides, whatever fills it
      rw [List.getLast?_cons_cons] at hc
      rw [List.getLast?_append, ih hc]
      rfl

/-- A text begins with a delimiter, if at all, when its outline does. -/
theorem isDelimiter_of_head? {c : Char} (h : Fills cells cs)
    (hcells : ∀ cell, cells.head? = some cell → ∃ c, cell = some c ∧ isDelimiter c = true)
    (hc : cs.head? = some c) : isDelimiter c = true := by
  cases h with
  | nil => cases hc
  | own d _ =>
    obtain ⟨d', heq, hd⟩ := hcells _ rfl
    cases heq
    cases hc
    exact hd
  | gap =>
    obtain ⟨d, heq, -⟩ := hcells _ rfl
    cases heq

end Fills

/-! ## Filling in arguments -/

theorem not_isDelimiter_of_isUnreserved {c : Char} (h : Percent.isUnreserved c = true) :
    isDelimiter c = false := by
  rw [← Bool.not_eq_true]
  intro hc
  simp only [isDelimiter, Url.isMark, Bool.or_eq_true, beq_iff_eq] at hc
  rcases hc with rfl | rfl | rfl <;> exact absurd h (by decide)

/-- **An encoded argument holds no delimiter.** -/
theorem undelimited_encodeComponent (h : Sheltered literal) (value : String) :
    Undelimited (Percent.encodeComponent literal value).toList := by
  intro c hc
  rw [Percent.encodeComponent, String.toList_ofList] at hc
  rcases Percent.mem_encodeSkipping hc with hunreserved | rfl | hliteral
  · exact not_isDelimiter_of_isUnreserved hunreserved
  · decide
  · exact h.undelimited c hliteral

theorem fills_of_tokenText {token : Token} {text : String} (h : Sheltered literal)
    (htext : tokenText literal args token = .ok text) : Fills token.outline text.toList := by
  cases token with
  | literal own =>
    cases htext
    exact Fills.characters _
  | slot name index =>
    rw [tokenText] at htext
    split at htext
    · rename_i value _
      cases htext
      have hgap := Fills.gap (undelimited_encodeComponent h value) .nil
      rwa [List.append_nil] at hgap
    · cases htext

/-- **What parts are filled in as** follows their outline. -/
theorem fills_of_mapM {pieces : List String} (h : Sheltered literal)
    (hpieces : tokens.mapM (tokenText literal args) = .ok pieces) :
    Fills (outline tokens) (pieces.flatMap String.toList) := by
  induction mapM_eq_ok_iff.1 hpieces with
  | nil => exact .nil
  | cons htoken hrest ih => exact (fills_of_tokenText h htoken).append (ih (mapM_eq_ok_iff.2 hrest))

/-- A path is the text of its parts, when it begins with a slash already. -/
theorem exists_of_path {path : String} (ho : IsRooted o.path.tokens) (hliteral : Sheltered o.literal)
    (h : Binding.path o args = .ok path) :
    ∃ pieces, o.path.tokens.mapM (tokenText o.literal args) = .ok pieces ∧
      path.toList = pieces.flatMap String.toList := by
  obtain ⟨pieces, hpieces, hpath⟩ := bind_eq_ok_iff.1 h
  have hjoined := Text.toList_join_empty pieces
  have hslash := (fills_of_mapM hliteral hpieces).head? ho
  obtain ⟨rest, hrest⟩ := List.head?_eq_some_iff.1 hslash
  refine ⟨pieces, hpieces, ?_⟩
  -- no slash is put before one
  rw [← Except.ok.inj hpath, rooted, hjoined, hrest]
  exact hjoined.trans hrest

/-- **A segment is cut off** by a slash before it and a delimiter, or the
end, behind it. -/
theorem getElem?_segments {path : String} {front back : List Char}
    (hpath : path.toList = front ++ '/' :: (piece ++ back)) (hpiece : Undelimited piece)
    (hback : ∀ c, back.head? = some c → isDelimiter c = true) :
    (segments path)[((front ++ ['/']).filter isDelimiter).length]? = some piece := by
  have hfront : ((front ++ ['/']).filter isDelimiter).length =
      (front.splitOnP isDelimiter).length := by
    rw [Text.length_splitOnP, List.filter_append, List.length_append]
    rfl
  have hbehind : ∃ rest, (piece ++ back).splitOnP isDelimiter = piece :: rest := by
    cases back with
    | nil =>
      rw [List.append_nil]
      exact ⟨[], List.splitOnP_eq_singleton hpiece⟩
    | cons c back =>
      exact ⟨_, List.splitOnP_append_cons_of_forall_mem hpiece c (hback c rfl) back⟩
  obtain ⟨rest, hrest⟩ := hbehind
  rw [segments, hpath, List.splitOnP_append_cons _ _ rfl, hrest, hfront]
  rw [List.getElem?_append_right (Nat.le_refl _), Nat.sub_self]
  rfl

/-- What a slot between other parts is filled in as. -/
theorem exists_of_mapM_slot {before after : List Token} {name : String} {index : Nat}
    {pieces : List String}
    (h : (before ++ .slot name index :: after).mapM (tokenText literal args) = .ok pieces) :
    ∃ front value back, before.mapM (tokenText literal args) = .ok front ∧
      args[index]?.bind Argument.wire? = some value ∧
      after.mapM (tokenText literal args) = .ok back ∧
      pieces = front ++ Percent.encodeComponent literal value :: back := by
  rw [List.mapM_append] at h
  obtain ⟨front, hfront, h⟩ := bind_eq_ok_iff.1 h
  obtain ⟨behind, hbehind, h⟩ := bind_eq_ok_iff.1 h
  rw [List.mapM_cons] at hbehind
  obtain ⟨text, htext, hbehind⟩ := bind_eq_ok_iff.1 hbehind
  obtain ⟨back, hback, hbehind⟩ := bind_eq_ok_iff.1 hbehind
  rw [tokenText] at htext
  split at htext
  · rename_i value hvalue
    cases htext
    cases hbehind
    exact ⟨front, value, back, hfront, hvalue, hback, (Except.ok.inj h).symm⟩
  · cases htext

/-- **Arguments do not alter a path.** An operation whose paths are rooted
and that shelters delimiters has these paths: behind the base each delimiter
stands as often as the operation has written it, and a slot that is all of a
segment makes up one segment, from which the text of its argument is decoded. -/
theorem path_kept (ho : IsRooted o.path.tokens) (hliteral : Sheltered o.literal)
    (h : bind serializers endpoint o args options = .ok r) :
    ∃ base path, Binding.base endpoint o args = .ok base ∧ r.endpoint = base ++ path ∧
      (∀ c, isDelimiter c = true →
        path.toList.count c = (written (outline o.path.tokens)).count c) ∧
      ∀ before name index after, o.path.tokens = before ++ .slot name index :: after →
        WholeSegment before after →
          ∃ value segment, args[index]?.bind Argument.wire? = some value ∧
            (segments path)[((written (outline before)).filter isDelimiter).length]? =
              some segment ∧
            Percent.read? segment = some value := by
  obtain ⟨-, s, hs, rfl⟩ := bound_iff.1 h
  obtain ⟨pieces, hpieces, hpath⟩ := exists_of_path ho hliteral hs.path
  refine ⟨s.base, s.path, hs.base, rfl, fun c hc => ?_, ?_⟩
  · -- what fills a gap brings no delimiter along
    have hkept := (fills_of_mapM hliteral hpieces).filter_isDelimiter
    rw [hpath, ← List.count_filter hc, hkept, List.count_filter hc]
  · intro before name index after htokens hwhole
    rw [htokens] at hpieces
    obtain ⟨front, value, back, hfront, hvalue, hback, rfl⟩ := exists_of_mapM_slot hpieces
    have hbefore := fills_of_mapM hliteral hfront
    have hafter := fills_of_mapM hliteral hback
    -- the parts before the slot end in its slash, and those behind it begin with a delimiter
    obtain ⟨opening, hopening⟩ := List.getLast?_eq_some_iff.1 (hbefore.getLast? hwhole.opened)
    have hsplit : s.path.toList = opening ++ '/' ::
        ((Percent.encodeComponent o.literal value).toList ++ back.flatMap String.toList) := by
      rw [hpath, List.flatMap_append, List.flatMap_cons, hopening]
      simp
    have hsegment := getElem?_segments hsplit (undelimited_encodeComponent hliteral value)
      fun c => hafter.isDelimiter_of_head? hwhole.closed
    rw [← hopening, hbefore.filter_isDelimiter] at hsegment
    exact ⟨value, _, hvalue, hsegment, Percent.read?_encodeComponent hliteral.percent value⟩

/-- An operation on a file of a drive, in a version. -/
def files : Operation :=
  { id := "files.get", method := "GET"
    path := ⟨"/drives/\x7bdrive\x7d/files/v\x7bversion\x7d/\x7bname\x7d?part=\x7bpart\x7d",
      [.literal "/drives/", .slot "drive" 0, .literal "/files/v", .slot "version" 1,
        .literal "/", .slot "name" 2, .literal "?part=", .slot "part" 3]⟩
    query := [], headers := [], accept := none, payload := none, endpointArgument := none
    parser := "json", mapper := none, filters := [], unwrapping := none
    literal := [',', 'é'], takesOptions := false }

/-- Arguments with delimiters, an escape and a character of two bytes. -/
def fileArguments : List Argument := [.text "a/b", .text "1#", .text "../é%", .text "?,/"]

/-- The request for them. -/
def fetched : Request :=
  { operation := "files.get", method := "GET"
    endpoint := "https://api.example" ++ "/drives/a%2Fb/files/v1%23/..%2Fé%25?part=%3F,%2F"
    query := ⟨[]⟩, headers := .empty, payload := none, filters := [], literal := [',', 'é'] }

theorem bind_files :
    bind Serializer.builtin "https://api.example/" files fileArguments [] = .ok fetched := by
  have hpath : path files fileArguments =
      .ok "/drives/a%2Fb/files/v1%23/..%2Fé%25?part=%3F,%2F" := by cbv
  have hbase : base "https://api.example/" files fileArguments = .ok "https://api.example" := by
    cbv
  exact bound_iff.2 ⟨.inl rfl, ⟨_, _, [], [], none⟩, ⟨hbase, hpath, rfl, rfl, rfl⟩, rfl⟩

/-- The name makes up a segment; version and part, which stand beside letters, do not. -/
theorem path_kept_files :
    ∃ base path, Binding.base "https://api.example/" files fileArguments = .ok base ∧
      fetched.endpoint = base ++ path ∧ path.toList.count '/' = 5 ∧ path.toList.count '?' = 1 ∧
      path.toList.count '#' = 0 ∧
      ∃ segment, (segments path)[5]? = some segment ∧ Percent.read? segment = some "../é%" := by
  obtain ⟨base, path, hbase, hpath, hkept, hsegments⟩ :=
    path_kept (o := files) rfl ⟨by decide, by decide⟩ bind_files
  have hwhole : WholeSegment [.literal "/drives/", .slot "drive" 0, .literal "/files/v",
      .slot "version" 1, .literal "/"] [.literal "?part=", .slot "part" 3] := by
    refine ⟨rfl, ?_⟩
    rintro _ ⟨⟩
    exact ⟨'?', rfl, rfl⟩
  obtain ⟨value, segment, hvalue, hsegment, hread⟩ := hsegments _ "name" 2 _ rfl hwhole
  cases hvalue
  exact ⟨base, path, hbase, hpath, hkept '/' rfl, hkept '?' rfl, hkept '#' rfl, segment, hsegment,
    hread⟩

end Binding

end RestCall
