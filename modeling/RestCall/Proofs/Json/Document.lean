import RestCall.Json.Document
import RestCall.Proofs.Json.Lexeme
/-!
# RestCall — values read back from their text

A reading reads a value when it leads past the value's text, whatever follows
it, as long as enough containers may be opened (`Reads`). There is one rule
for each kind of value and each way of reading it. Lists and objects are read
item by item; a record is read from an object whose members fill its fields
in their order, those that are not required being there or not (`Fills`).
-/

namespace RestCall

namespace Json

/-- The bytes of a value's text. -/
def bytes (v : Json) : Bytes := Utf8.encode v.chars

namespace Reader

open Shape (Field Record IntegerKind)

variable {α β σ : Type} {read : Reader α} {v : Json} {a : α} {b : UInt8} {s s' t : σ}
variable {depth d size count n k : Nat} {rest : Bytes} {mean : Meaning α}
variable {write : α → Json} {xs done : List α} {step : String → σ → Reader σ}
variable {members : List (String × Json)} {key : String}

/-- What a value begins with: no blank, no end of a list, no letter of `null`. -/
def Opens (bytes : Bytes) : Prop :=
  ∃ b rest, bytes = b :: rest ∧ isSpace b = false ∧ b ≠ 0x5D ∧ b ≠ 0x6E

/-- **A reading reads a value**, of containers nested so deep, as what it
stands for: from the value's text, whatever follows a value, it leads behind
that text. -/
structure Reads (depth : Nat) (read : Reader α) (v : Json) (a : α) : Prop where
  opens : Opens v.bytes
  leads : ∀ {rest d size}, depth < d → Ends rest → v.bytes.length ≤ size →
    Leads read ⟨v.bytes ++ rest, d, size⟩ a ⟨rest, d, size⟩

/-- What a value is read as may be taken further. -/
theorem Reads.bind {f : α → Reader β} {c : β} (h : Reads depth read v a) (hf : f a = pure c) :
    Reads depth (read >>= f) v c where
  opens := h.opens
  leads := fun hdepth hrest hsize =>
    (h.leads hdepth hrest hsize).bind (hf ▸ leads_pure _ _)

theorem Reads.map (f : α → β) (h : Reads depth read v a) :
    Reads depth (read >>= fun a => pure (f a)) v (f a) := h.bind rfl

/-! ## Strings, truth values and numbers -/

theorem bytes_string (s : String) :
    (Json.string s).bytes = 0x22 :: (Utf8.encode (s.toList.flatMap escape) ++ [0x22]) := by
  rw [bytes, chars, quote, List.append_assoc, List.singleton_append,
    Utf8.encode_cons_of_ascii (by decide), Utf8.encode_append]
  rfl

theorem opens_string (s : String) : Opens (Json.string s).bytes :=
  ⟨0x22, _, bytes_string s, rfl, by decide, by decide⟩

theorem bytes_string_append (s : String) : (Json.string s).bytes ++ rest =
    0x22 :: (Utf8.encode (s.toList.flatMap escape) ++ 0x22 :: rest) := by
  rw [bytes_string, List.cons_append, List.append_assoc]
  rfl

/-- **A string is read** behind its opening quote. -/
theorem leads_quoted (s : String) (hsize : (Json.string s).bytes.length ≤ size) :
    Leads stringBody ⟨Utf8.encode (s.toList.flatMap escape) ++ 0x22 :: rest, d, size⟩ s
      ⟨rest, d, size⟩ := by
  rw [bytes_string, List.length_cons, List.length_append] at hsize
  exact leads_stringBody s (by omega)

theorem leads_peekToken_of_opens {bytes : Bytes} (h : Opens bytes) :
    Leads peekToken ⟨bytes ++ rest, d, size⟩ bytes.head? ⟨bytes ++ rest, d, size⟩ := by
  obtain ⟨b, tail, rfl, hspace, -⟩ := h
  exact leads_peekToken hspace

theorem reads_text (s : String) : Reads depth textValue (.string s) s where
  opens := opens_string s
  leads := fun _ _ hsize => by
    rw [bytes_string_append]
    refine ((leads_peekToken rfl).bind (leads_advance.bind ?_)).located
    exact leads_quoted s hsize

theorem reads_flag (b : Bool) : Reads depth flagValue (.bool b) b := by
  cases b with
  | false =>
    refine ⟨⟨0x66, _, rfl, rfl, by decide, by decide⟩, fun _ _ _ => ?_⟩
    refine ((leads_peekToken rfl).bind (leads_advance.bind ?_)).located
    exact (leads_word (by simp)).bind (leads_pure _ _)
  | true =>
    refine ⟨⟨0x74, _, rfl, rfl, by decide, by decide⟩, fun _ _ _ => ?_⟩
    refine ((leads_peekToken rfl).bind (leads_advance.bind ?_)).located
    exact (leads_word (by simp)).bind (leads_pure _ _)

theorem bytes_ofNat (n : Nat) : (Json.ofNat n).bytes = Utf8.encode (Nat.toDigits 10 n) := by
  rw [bytes, ofNat, ofInt, chars]
  exact congrArg Utf8.encode Nat.toList_repr

/-- **A natural number begins with a digit.** -/
theorem exists_digit (n : Nat) :
    ∃ b rest, (Json.ofNat n).bytes = b :: rest ∧ isDigit b = true := by
  obtain ⟨c, cs, hcs⟩ := List.exists_cons_of_ne_nil (Nat.toDigits_ne_nil (n := n) (b := 10))
  have hc := Numeral.toNat_of_isDigit (Nat.isDigit_of_mem_toDigits (by decide) (Nat.le_refl 10)
    (hcs ▸ List.mem_cons_self : c ∈ Nat.toDigits 10 n))
  refine ⟨UInt8.ofNat c.toNat, Utf8.encode cs, ?_, ?_⟩
  · rw [bytes_ofNat, hcs, Utf8.encode_cons_of_ascii (by omega)]
  · simp [isDigit, UInt8.le_iff_toNat_le, Utf8.toNat_ofNat (n := c.toNat) (by omega)]
    omega

theorem ne_of_isDigit {x : UInt8} (hb : isDigit b = true) (hx : isDigit x = false) : b ≠ x := by
  rintro rfl
  rw [hb] at hx
  exact Bool.noConfusion hx

theorem isSpace_of_isDigit (h : isDigit b = true) : isSpace b = false := by
  have hspace := ne_of_isDigit h (by decide : isDigit 0x20 = false)
  have htab := ne_of_isDigit h (by decide : isDigit 0x09 = false)
  have hline := ne_of_isDigit h (by decide : isDigit 0x0A = false)
  have hreturn := ne_of_isDigit h (by decide : isDigit 0x0D = false)
  simp [isSpace, hspace, htab, hline, hreturn]

theorem opens_ofNat (n : Nat) : Opens (Json.ofNat n).bytes := by
  obtain ⟨b, rest, hbytes, hb⟩ := exists_digit n
  exact ⟨b, rest, hbytes, isSpace_of_isDigit hb, ne_of_isDigit hb (by decide),
    ne_of_isDigit hb (by decide)⟩

/-- **A natural number of a kind** is read as it is. -/
theorem reads_integer {kind : IntegerKind} (hn : n ≤ Numeral.max64)
    (hkind : kind.holds n = true) : Reads depth (integerValue kind) (.ofNat n) n where
  opens := opens_ofNat n
  leads := fun _ hrest _ => by
    refine ((leads_peekToken_of_opens (opens_ofNat n)).bind ?_).located
    obtain ⟨b, rest, hbytes, hb⟩ := exists_digit n
    have hkept : admitted kind (.integer n) = pure (n : Int) := by
      rw [admitted, IntegerKind.admit, if_pos hkind]
    rw [hbytes, List.head?_cons, ← hbytes, bytes_ofNat]
    -- the first byte is a digit, so there is no sign
    split
    · rename_i h
      exact absurd (Option.some.inj h) (ne_of_isDigit hb (by decide))
    · rename_i h
      cases h
      rw [if_pos hb]
      refine (leads_number hn hrest).bind ?_
      rw [hkept]
      exact leads_pure _ _
    · rename_i h
      cases h

/-- **A value that is no `null`** is read under the option of one. -/
theorem Reads.optional (h : Reads depth read v a) :
    Reads depth (optionalValue read) v (some a) where
  opens := h.opens
  leads := fun hdepth hrest hsize => by
    refine (leads_peekToken_of_opens h.opens).bind ?_
    obtain ⟨b, tail, hbytes, -, -, hnull⟩ := h.opens
    rw [hbytes, List.head?_cons, ← hbytes]
    split
    · rename_i hb
      exact absurd (Option.some.inj hb) hnull
    · exact (h.leads hdepth hrest hsize).bind (leads_pure _ _)

/-! ## Lists -/

/-- Parts of a container behind the first, each behind its comma. -/
def further (parts : List Bytes) : Bytes := parts.flatMap fun part => 0x2C :: part

/-- The parts of a container with commas between them. -/
def listed : List Bytes → Bytes
  | [] => []
  | part :: parts => part ++ further parts

theorem further_cons (part : Bytes) (parts : List Bytes) :
    further (part :: parts) = 0x2C :: (part ++ further parts) := List.flatMap_cons

theorem length_le_further (parts : List Bytes) : parts.length ≤ (further parts).length := by
  induction parts with
  | nil => exact Nat.le_refl 0
  | cons part parts ih =>
    rw [further_cons, List.length_cons, List.length_cons, List.length_append]
    omega

theorem ends_further (parts : List Bytes) (h : Ends rest) : Ends (further parts ++ rest) := by
  cases parts with
  | nil => exact h
  | cons part parts =>
    rw [further_cons]
    exact ends_comma _

theorem encode_itemChars (vs : List Json) :
    Utf8.encode (itemChars vs) = listed (vs.map bytes) := by
  cases vs with
  | nil => rfl
  | cons v vs =>
    rw [List.map_cons, listed]
    induction vs generalizing v with
    | nil => rw [itemChars, List.map_nil]; exact (List.append_nil _).symm
    | cons w vs ih =>
      rw [itemChars, Utf8.encode_append, Utf8.encode_cons_of_ascii (by decide), ih, List.map_cons,
        further_cons]
      · rfl
      · exact List.cons_ne_nil _ _

theorem bytes_array (vs : List Json) :
    (Json.array vs).bytes = 0x5B :: (listed (vs.map bytes) ++ [0x5D]) := by
  rw [bytes, chars, List.cons_append, Utf8.encode_cons_of_ascii (by decide), Utf8.encode_append,
    encode_itemChars]
  rfl

theorem bytes_list (xs : List α) : (Json.array (xs.map write)).bytes =
    0x5B :: (listed (xs.map fun x => (write x).bytes) ++ [0x5D]) := by
  rw [bytes_array, List.map_map]
  rfl

theorem opens_array (vs : List Json) : Opens (Json.array vs).bytes :=
  ⟨0x5B, _, bytes_array vs, rfl, by decide, by decide⟩

theorem leads_anotherItem_end (first : Bool) :
    Leads (anotherItem first) ⟨0x5D :: rest, d, size⟩ false ⟨0x5D :: rest, d, size⟩ :=
  (leads_peekToken rfl).bind (leads_pure _ _)

theorem leads_anotherItem_first {bytes : Bytes} (h : Opens bytes) :
    Leads (anotherItem true) ⟨bytes ++ rest, d, size⟩ true ⟨bytes ++ rest, d, size⟩ := by
  refine (leads_peekToken_of_opens h).bind ?_
  obtain ⟨b, tail, rfl, -, hend, -⟩ := h
  rw [List.head?_cons]
  split
  · rename_i hb
    cases hb
  · rename_i hb
    exact absurd (Option.some.inj hb) hend
  · exact leads_pure _ _

theorem leads_anotherItem_next {bytes : Bytes} (h : Opens bytes) :
    Leads (anotherItem false) ⟨0x2C :: (bytes ++ rest), d, size⟩ true
      ⟨bytes ++ rest, d, size⟩ := by
  refine (leads_peekToken rfl).bind (leads_advance.bind ((leads_peekToken_of_opens h).bind ?_))
  obtain ⟨b, tail, rfl, -, hend, -⟩ := h
  rw [List.head?_cons]
  split
  · rename_i hb
    cases hb
  · rename_i hb
    exact absurd (Option.some.inj hb) hend
  · exact leads_pure _ _

theorem leads_endOfList :
    Leads endOfList ⟨0x5D :: rest, d, size⟩ () ⟨rest, d, size⟩ :=
  (leads_peekToken rfl).bind leads_advance

/-- **Further items are read** up to the end of their list. -/
theorem leads_items_further (hread : ∀ x ∈ xs, Reads depth read (write x) x) (hdepth : depth < d)
    (hsize : (further (xs.map fun x => (write x).bytes)).length ≤ size) (hcount : xs.length < count)
    (hdone : done ≠ []) :
    Leads (items read count done)
      ⟨further (xs.map fun x => (write x).bytes) ++ 0x5D :: rest, d, size⟩
      (done.reverse ++ xs) ⟨0x5D :: rest, d, size⟩ := by
  induction xs generalizing count done with
  | nil =>
    obtain ⟨left, rfl⟩ := Nat.exists_eq_add_of_lt hcount
    rw [List.append_nil]
    exact (leads_anotherItem_end _).bind (leads_pure _ _)
  | cons x xs ih =>
    rw [List.forall_mem_cons] at hread
    obtain ⟨left, rfl⟩ := Nat.exists_eq_add_of_le' (Nat.lt_of_le_of_lt (Nat.zero_le _) hcount)
    rw [List.length_cons] at hcount
    rw [List.map_cons, further_cons, List.length_cons, List.length_append] at hsize
    rw [List.map_cons, further_cons, List.cons_append, List.append_assoc]
    have hnext : done.isEmpty = false := by
      rw [← Bool.not_eq_true, List.isEmpty_iff]
      exact hdone
    have hall : done.reverse ++ x :: xs = (x :: done).reverse ++ xs := by
      rw [List.reverse_cons, List.append_assoc]
      rfl
    rw [items, hnext, hall]
    refine (leads_anotherItem_next hread.1.opens).bind ?_
    refine (hread.1.leads hdepth (ends_further _ (ends_bracket _)) (by omega)).bind ?_
    -- every item takes one of the count, and has at least its comma among the bytes
    exact ih hread.2 (by omega) (by omega) (List.cons_ne_nil _ _)

/-- **A list is read** item by item, one level down. -/
theorem reads_list (hread : ∀ x ∈ xs, Reads depth read (write x) x) :
    Reads (depth + 1) (list read) (.array (xs.map write)) xs where
  opens := opens_array _
  leads := fun hdepth _ hsize => by
    rw [bytes_list, List.length_cons, List.length_append] at hsize
    rw [bytes_list, List.cons_append, List.append_assoc, List.singleton_append]
    refine leads_enclosed (by omega) ((leads_bound _).bind ?_) leads_endOfList
    cases xs with
    | nil => exact (leads_anotherItem_end _).bind (leads_pure _ _)
    | cons x xs =>
      rw [List.forall_mem_cons] at hread
      have hlength := length_le_further (xs.map fun x => (write x).bytes)
      rw [List.length_map] at hlength
      rw [List.map_cons, listed, List.length_append] at hsize
      rw [List.map_cons, listed, List.append_assoc]
      refine (leads_anotherItem_first hread.1.opens).bind ?_
      refine (hread.1.leads (by omega) (ends_further _ (ends_bracket _)) (by omega)).bind ?_
      exact leads_items_further hread.2 (by omega) (by omega) (by dsimp only; omega)
        (List.cons_ne_nil _ _)

theorem reads_listValue (hread : ∀ x ∈ xs, Reads depth read (write x) x) :
    Reads (depth + 1) (listValue read) (.array (xs.map write)) xs where
  opens := opens_array _
  leads := fun hdepth hrest hsize => by
    refine ((leads_peekToken_of_opens (opens_array _)).bind ?_).located
    have hlist := (reads_list hread).leads hdepth hrest hsize
    rw [bytes_array] at hlist ⊢
    exact hlist

/-! ## Objects -/

/-- The bytes of a member: its key, a colon and its value. -/
def memberBytes (m : String × Json) : Bytes := (Json.string m.1).bytes ++ 0x3A :: m.2.bytes

theorem length_key_le (k : String) (v : Json) :
    (Json.string k).bytes.length ≤ (memberBytes (k, v)).length := by
  rw [memberBytes, List.length_append]
  exact Nat.le_add_right _ _

theorem encode_memberChars (members : List (String × Json)) :
    Utf8.encode (memberChars members) = listed (members.map memberBytes) := by
  cases members with
  | nil => rfl
  | cons m members =>
    rw [List.map_cons, listed]
    induction members generalizing m with
    | nil =>
      rw [memberChars, Utf8.encode_append, Utf8.encode_cons_of_ascii (by decide), List.map_nil]
      exact (List.append_nil _).symm
    | cons m' members ih =>
      have hcons : Utf8.encode (memberChars (m :: m' :: members)) =
          memberBytes m ++ 0x2C :: Utf8.encode (memberChars (m' :: members)) := by
        rw [memberChars, Utf8.encode_append, Utf8.encode_cons_of_ascii (by decide),
          Utf8.encode_append, Utf8.encode_cons_of_ascii (by decide), memberBytes]
        · rfl
        · exact List.cons_ne_nil _ _
      rw [hcons, ih, List.map_cons, further_cons]

theorem bytes_object (members : List (String × Json)) : (Json.object members).bytes =
    0x7B :: (listed (members.map memberBytes) ++ [0x7D]) := by
  rw [bytes, chars, List.cons_append, Utf8.encode_cons_of_ascii (by decide), Utf8.encode_append,
    encode_memberChars]
  rfl

theorem opens_object (members : List (String × Json)) : Opens (Json.object members).bytes :=
  ⟨0x7B, _, bytes_object members, rfl, by decide, by decide⟩

theorem leads_nextKey_end (first : Bool) :
    Leads (nextKey first) ⟨0x7D :: rest, d, size⟩ none ⟨0x7D :: rest, d, size⟩ :=
  (leads_peekToken rfl).bind (leads_pure _ _)

theorem leads_nextKey_first (k : String) (hsize : (Json.string k).bytes.length ≤ size) :
    Leads (nextKey true) ⟨(Json.string k).bytes ++ rest, d, size⟩ (some k) ⟨rest, d, size⟩ := by
  rw [bytes_string_append]
  refine (leads_peekToken rfl).bind (leads_advance.bind ?_)
  exact (leads_quoted k hsize).bind (leads_pure _ _)

theorem leads_nextKey_next (k : String) (hsize : (Json.string k).bytes.length ≤ size) :
    Leads (nextKey false) ⟨0x2C :: ((Json.string k).bytes ++ rest), d, size⟩ (some k)
      ⟨rest, d, size⟩ := by
  rw [bytes_string_append]
  refine (leads_peekToken rfl).bind (leads_advance.bind ((leads_peekToken rfl).bind ?_))
  refine leads_advance.bind ?_
  exact (leads_quoted k hsize).bind (leads_pure _ _)

theorem leads_colon : Leads colon ⟨0x3A :: rest, d, size⟩ () ⟨rest, d, size⟩ :=
  (leads_peekToken rfl).bind leads_advance

theorem leads_endOfObject : Leads endOfObject ⟨0x7D :: rest, d, size⟩ () ⟨rest, d, size⟩ :=
  (leads_peekToken rfl).bind leads_advance

/-- **A step takes members** one after another when it reads the colon and
then the value of each. -/
inductive Takes (depth : Nat) (step : String → σ → Reader σ) :
    List (String × Json) → σ → σ → Prop
  | nil {s : σ} : Takes depth step [] s s
  | cons {k : String} {v : Json} {read : Reader σ} {members : List (String × Json)} {s s' t : σ}
    (hstep : step k s = colon >>= fun _ => read) (hread : Reads depth read v s')
    (hrest : Takes depth step members s' t) : Takes depth step ((k, v) :: members) s t

/-- **A member is read** behind its key. -/
theorem leads_member {step : String → σ → Reader σ} {read : Reader σ}
    (hstep : step key s = colon >>= fun _ => read) (hread : Reads depth read v s')
    (hdepth : depth < d) (hrest : Ends rest) (hsize : (memberBytes (key, v)).length ≤ size) :
    Leads (step key s) ⟨0x3A :: (v.bytes ++ rest), d, size⟩ s' ⟨rest, d, size⟩ := by
  rw [memberBytes, List.length_append, List.length_cons] at hsize
  rw [hstep]
  exact leads_colon.bind (hread.leads hdepth hrest (by dsimp only at hsize; omega))

/-- **Further members are read** up to the end of their object. -/
theorem leads_members_further (h : Takes depth step members s t) (hdepth : depth < d)
    (hsize : (further (members.map memberBytes)).length ≤ size) (hcount : members.length < count) :
    Leads (Reader.members step count false s)
      ⟨further (members.map memberBytes) ++ 0x7D :: rest, d, size⟩ t
      ⟨0x7D :: rest, d, size⟩ := by
  induction h generalizing count with
  | nil =>
    obtain ⟨left, rfl⟩ := Nat.exists_eq_add_of_lt hcount
    exact (leads_nextKey_end _).bind (leads_pure _ _)
  | @cons k v _ members _ _ _ hstep hread _ ih =>
    obtain ⟨left, rfl⟩ := Nat.exists_eq_add_of_le' (Nat.lt_of_le_of_lt (Nat.zero_le _) hcount)
    rw [List.length_cons] at hcount
    rw [List.map_cons, further_cons, List.length_cons, List.length_append] at hsize
    have hmember : (memberBytes (k, v)).length ≤ size := by omega
    have hkey := Nat.le_trans (length_key_le k v) hmember
    rw [List.map_cons, further_cons, List.cons_append, List.append_assoc, memberBytes,
      List.append_assoc]
    refine (leads_nextKey_next k hkey).bind ?_
    refine (leads_member hstep hread hdepth (ends_further _ (ends_brace _)) hmember).bind ?_
    exact ih (by omega) (by omega)

/-- **The members of an object are read** up to its end. -/
theorem leads_members (h : Takes depth step members s t) (hdepth : depth < d)
    (hsize : (listed (members.map memberBytes)).length < size) :
    Leads (Reader.members step (size + 1) true s)
      ⟨listed (members.map memberBytes) ++ 0x7D :: rest, d, size⟩ t ⟨0x7D :: rest, d, size⟩ := by
  cases h with
  | nil => exact (leads_nextKey_end _).bind (leads_pure _ _)
  | @cons k v _ members _ _ _ hstep hread hrest =>
    rw [List.map_cons, listed, List.length_append] at hsize
    have hlength := length_le_further (members.map memberBytes)
    rw [List.length_map] at hlength
    have hmember : (memberBytes (k, v)).length ≤ size := by omega
    have hkey := Nat.le_trans (length_key_le k v) hmember
    rw [List.map_cons, listed, List.append_assoc, memberBytes, List.append_assoc]
    refine (leads_nextKey_first k hkey).bind ?_
    refine (leads_member hstep hread hdepth (ends_further _ (ends_brace _)) hmember).bind ?_
    exact leads_members_further hrest hdepth (by omega) (by omega)

/-- **An object is read** member by member, one level down, and what its
members amount to is then checked. -/
theorem reads_enclosed {f : σ → Reader β} {b : β} (h : Takes depth step members s t)
    (hf : ∀ p, Leads (f t) p b p) :
    Reads (depth + 1) (enclosed (do f (← Reader.members step (← bound) true s)) endOfObject)
      (.object members) b where
  opens := opens_object _
  leads := fun hdepth _ hsize => by
    rw [bytes_object, List.length_cons, List.length_append] at hsize
    rw [bytes_object, List.cons_append, List.append_assoc, List.singleton_append]
    refine leads_enclosed (by omega) ((leads_bound _).bind ?_) leads_endOfObject
    exact (leads_members h (by omega) (by dsimp only; omega)).bind (hf _)

theorem reads_object (h : Takes depth step members s t) :
    Reads (depth + 1) (object step s) (.object members) t := by
  have hread := reads_enclosed h (leads_pure t)
  simp only [bind_pure] at hread
  exact hread

/-! ## Any value -/

theorem reads_value_string (s : String) :
    Reads depth (value mean (n + 1)) (.string s) (mean.string s) where
  opens := opens_string s
  leads := fun _ _ hsize => by
    rw [bytes_string_append]
    refine (leads_peekToken rfl).bind (leads_advance.bind ?_)
    exact (leads_quoted s hsize).bind (leads_pure _ _)

theorem reads_value_ofNat (hk : k ≤ Numeral.max64) :
    Reads depth (value mean (n + 1)) (.ofNat k) (mean.number (.integer k)) where
  opens := opens_ofNat k
  leads := fun _ hrest _ => by
    refine (leads_peekToken_of_opens (opens_ofNat k)).bind ?_
    obtain ⟨b, rest, hbytes, hb⟩ := exists_digit k
    rw [hbytes, List.head?_cons, ← hbytes, bytes_ofNat]
    -- nothing but a number begins with a digit
    split
    · rename_i h
      cases h
    all_goals try exact absurd (Option.some.inj ‹_›) (ne_of_isDigit hb (by decide))
    rename_i h
    cases h
    rw [if_pos hb]
    exact (leads_number hk hrest).bind (leads_pure _ _)

/-- The members of an object of any values are taken in reverse. -/
theorem takes_values {ms done : List (String × α)}
    (h : ∀ m ∈ ms, Reads depth (value mean n) (write m.2) m.2) :
    Takes depth (fun key done => do colon; let v ← value mean n; return (key, v) :: done)
      (ms.map fun m => (m.1, write m.2)) done (ms.reverse ++ done) := by
  induction ms generalizing done with
  | nil => exact .nil
  | cons m ms ih =>
    rw [List.forall_mem_cons] at h
    rw [List.reverse_cons, List.append_assoc]
    exact .cons rfl (h.1.map fun a => (m.1, a) :: done) (ih h.2)

/-- **An object is read** member by member, one level down. -/
theorem reads_value_object (write : α → Json) {ms : List (String × α)}
    (h : ∀ m ∈ ms, Reads depth (value mean n) (write m.2) m.2) :
    Reads (depth + 1) (value mean (n + 1)) (.object (ms.map fun m => (m.1, write m.2)))
      (mean.object ms) where
  opens := opens_object _
  leads := fun hdepth hrest hsize => by
    have htakes : Takes depth _ (ms.map fun m => (m.1, write m.2)) [] (ms.reverse ++ []) :=
      takes_values h
    rw [List.append_nil] at htakes
    have hread := (reads_object htakes).leads hdepth hrest hsize
    rw [bytes_object] at hread ⊢
    refine (leads_peekToken rfl).bind (hread.bind ?_)
    rw [List.reverse_reverse]
    exact leads_pure _ _

/-! ## Records -/

/-- **Members fill fields** in their order: each is the value of its field,
and the fields without a member are not required. -/
inductive Fills (depth : Nat) : List (Field Reader σ) → List (String × Json) → σ → σ → Prop
  | nil {s : σ} : Fills depth [] [] s s
  | present {f : Field Reader σ} {v : Json} {fields : List (Field Reader σ)}
    {members : List (String × Json)} {s s' t : σ} (hread : Reads depth (f.read s) v s')
    (h : Fills depth fields members s' t) : Fills depth (f :: fields) ((f.name, v) :: members) s t
  | absent {f : Field Reader σ} {fields : List (Field Reader σ)}
    {members : List (String × Json)} {s t : σ} (hopt : f.required = false)
    (h : Fills depth fields members s t) : Fills depth (f :: fields) members s t

/-- A name that occurs once belongs to its field. -/
theorem find?_name {f : Field Reader σ} {fields : List (Field Reader σ)}
    (hnodup : (fields.map Field.name).Nodup) (hf : f ∈ fields) :
    (fields.find? fun g => g.name == f.name) = some f := by
  induction fields with
  | nil => cases hf
  | cons g fields ih =>
    rw [List.map_cons, List.nodup_cons] at hnodup
    rcases List.mem_cons.1 hf with rfl | hf
    · exact List.find?_cons_of_pos (beq_self_eq_true _)
    · have hne : g.name ≠ f.name := fun h => hnodup.1 (h ▸ List.mem_map_of_mem hf)
      rw [List.find?_cons_of_neg (by simpa using hne)]
      exact ih hnodup.2 hf

/-- **What fills the fields is taken** as members of the record, and every
field that is required is among those seen. -/
theorem Fills.takes {r : Record Reader σ} {fields : List (Field Reader σ)} {seen : List String}
    (h : Fills depth fields members s t) (hfields : ∀ f ∈ fields, r.field? f.name = some f)
    (hnodup : (fields.map Field.name).Nodup) (hseen : ∀ f ∈ fields, f.name ∉ seen) :
    ∃ seen', Takes depth (recordMember r) members (seen, s) (seen', t) ∧ seen ⊆ seen' ∧
      ∀ f ∈ fields, f.required = true → f.name ∈ seen' := by
  induction h generalizing seen with
  | nil => exact ⟨seen, .nil, List.Subset.refl seen, List.forall_mem_nil _⟩
  | @present f v fields members s s' t hread _ ih =>
    rw [List.forall_mem_cons] at hfields hseen
    rw [List.map_cons, List.nodup_cons] at hnodup
    -- the name is now seen, and none of the fields that are left has it
    have hnew : ∀ g ∈ fields, g.name ∉ f.name :: seen := by
      intro g hg hmem
      rcases List.mem_cons.1 hmem with hsame | hmem
      · exact hnodup.1 (hsame ▸ List.mem_map_of_mem hg)
      · exact hseen.2 g hg hmem
    obtain ⟨seen', htakes, hsub, hrequired⟩ := ih hfields.2 hnodup.2 hnew
    have hstep : recordMember r f.name (seen, s) =
        colon >>= fun _ => f.read s >>= fun s' => pure (f.name :: seen, s') := by
      rw [recordMember, hfields.1]
      dsimp only
      rw [if_neg (by simpa using hseen.1)]
    refine ⟨seen', .cons hstep (hread.map _) htakes,
      fun x hx => hsub (List.mem_cons_of_mem _ hx), ?_⟩
    rw [List.forall_mem_cons]
    exact ⟨fun _ => hsub List.mem_cons_self, hrequired⟩
  | absent hopt _ ih =>
    rw [List.forall_mem_cons] at hfields hseen
    rw [List.map_cons, List.nodup_cons] at hnodup
    obtain ⟨seen', htakes, hsub, hrequired⟩ := ih hfields.2 hnodup.2 hseen.2
    refine ⟨seen', htakes, hsub, ?_⟩
    rw [List.forall_mem_cons]
    exact ⟨fun h => absurd (hopt.symm.trans h) Bool.false_ne_true, hrequired⟩

/-- **A record is read** from the members that fill its fields. -/
theorem reads_record {r : Record Reader σ} (hnodup : (r.fields.map Field.name).Nodup)
    (h : Fills depth r.fields members r.start t) :
    Reads (depth + 1) (recordValue r) (.object members) t where
  opens := opens_object _
  leads := fun hdepth hrest hsize => by
    have hnone : ∀ f ∈ r.fields, f.name ∉ ([] : List String) := fun _ _ => List.not_mem_nil
    obtain ⟨seen, htakes, -, hrequired⟩ :=
      h.takes (fun f hf => find?_name hnodup hf) hnodup hnone
    have hmissing : r.missing? seen = none := by
      rw [Record.missing?, Option.map_eq_none_iff, List.find?_eq_none]
      intro f hf
      simpa using fun hreq => hrequired f hf hreq
    have hopen : (Json.object members).bytes.head? = some 0x7B := by
      rw [bytes_object]
      rfl
    refine ((leads_peekToken_of_opens (opens_object members)).bind ?_).located
    rw [hopen]
    refine (reads_enclosed htakes fun p => ?_).leads hdepth hrest hsize
    dsimp only
    rw [hmissing]
    exact leads_pure t p

/-! ## Fields and texts -/

theorem Fills.required {put : σ → α → σ} {fields : List (Field Reader σ)}
    (hread : Reads depth read v a) (h : Fills depth fields members (put s a) t) :
    Fills depth (Shape.required key read put :: fields) ((key, v) :: members) s t :=
  .present (hread.map (put s)) h

theorem Fills.optional {put : σ → α → σ} {fields : List (Field Reader σ)}
    (hread : Reads depth read v a) (h : Fills depth fields members (put s a) t) :
    Fills depth (Shape.optional key read put :: fields) ((key, v) :: members) s t :=
  .present (hread.map (put s)) h

theorem reads_natural {kind : IntegerKind} (hn : n ≤ Numeral.max64)
    (hkind : kind.holds n = true) : Reads depth (Shape.natural kind) (.ofNat n) n :=
  (reads_integer hn hkind).map Int.toNat

/-- **A content is read** as a value is, at the depth there is. -/
theorem reads_content {mean : Meaning α} (h : ∀ n, depth < n → Reads depth (value mean n) v a) :
    Reads depth (anyValue mean) v a where
  opens := (h (depth + 1) (Nat.lt_succ_self depth)).opens
  leads := fun hdepth hrest hsize => by
    refine leads_get fun c hc => ?_
    rw [(Cursor.spot_eq_iff.1 hc).2.1]
    exact (h _ hdepth).leads hdepth hrest hsize

/-- **A whole text is read** as what its value is read as. -/
theorem Reads.run (h : Reads depth read v a) (hdepth : depth < depthLimit) :
    read.run (Utf8.ofString v.text) = .ok a := by
  have hbytes : Utf8.ofString v.text = v.bytes := by
    rw [Utf8.ofString, text, String.toList_ofList, bytes]
  have hend : Leads endOfText ⟨[], depthLimit, v.bytes.length⟩ () ⟨[], depthLimit, v.bytes.length⟩ :=
    leads_peekToken_nil.bind (leads_pure _ _)
  have hvalue := h.leads hdepth ends_nil (Nat.le_refl v.bytes.length)
  rw [List.append_nil] at hvalue
  have hall : Leads (do let a ← read; endOfText; return a) _ a _ :=
    hvalue.bind (hend.bind (leads_pure a _))
  obtain ⟨c, hread, -⟩ := hall (.start v.bytes) rfl
  rw [hbytes, Reader.run, hread]

end Reader

end Json

end RestCall
