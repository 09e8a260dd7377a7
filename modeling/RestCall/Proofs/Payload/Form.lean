import RestCall.Payload.Serializer
import RestCall.Proofs.Request.Reading
/-!
# RestCall — queries and forms carry their entries

An encoded query says which entries it was made of, in their order: whoever
reads it finds none that was not there, none merged and none missing. It is
the empty text only when there are no entries, since every entry has its
equals sign. A form is the encoded query of its fields with nothing left
literal, so a form is read back in the same way.
-/

namespace RestCall

namespace Query

variable {skip : List Char} {q q' : Query}

theorem encodeEntry_ne_empty {e : String × String} : encodeEntry skip e ≠ "" := by
  intro heq
  have hsign : '=' ∈ (encodeEntry skip e).toList := by
    rw [toList_encodeEntry]
    exact List.mem_append_right _ List.mem_cons_self
  rw [heq] at hsign
  cases hsign

/-- **Only the empty query** is encoded as the empty text. -/
theorem encode_eq_empty_iff : q.encode skip = "" ↔ q.entries = [] := by
  obtain ⟨entries⟩ := q
  match entries with
  | [] => exact ⟨fun _ => rfl, fun _ => rfl⟩
  | [e] => exact ⟨fun heq => absurd heq encodeEntry_ne_empty, fun hnil => (by cases hnil)⟩
  | e :: next :: entries =>
    refine ⟨fun heq => ?_, fun hnil => (by cases hnil)⟩
    rw [encode, List.map_cons, List.map_cons, Text.join, String.append_eq_empty_iff,
      String.append_eq_empty_iff] at heq
    · exact absurd heq.1.1 encodeEntry_ne_empty
    · exact List.cons_ne_nil _ _

/-- **Queries that are encoded alike** are the same. -/
theorem eq_of_encode_eq (h : Legible skip) (heq : q.encode skip = q'.encode skip) : q = q' := by
  have hempty : q.encode skip = "" ↔ q'.encode skip = "" := by rw [heq]
  rw [encode_eq_empty_iff, encode_eq_empty_iff] at hempty
  by_cases hnil : q.entries = []
  · exact congrArg Query.mk (hnil.trans (hempty.1 hnil).symm)
  · refine Option.some.inj ?_
    rw [← read?_encode h hnil, heq, read?_encode h (hnil ∘ hempty.2)]

/-- A form as it is received: a query in UTF-8. -/
def readForm? (data : Bytes) : Option Query :=
  (Utf8.strict? data).bind fun cs => read? (String.ofList cs)

theorem readForm?_ofString (s : String) : readForm? (Utf8.ofString s) = read? s := by
  rw [readForm?, Utf8.ofString, Utf8.strict?_encode, Option.bind_some, String.ofList_toList]

/-- **No name and no value can put an entry in, merge two or drop one.** An
encoded query that has entries is read back as these entries, only the one
that has none is the empty text, and no two are encoded alike. The form of
the same entries is that text with nothing left literal, and is read back in
the same way. -/
theorem encode_carries (h : Legible skip) (q : Query) :
    (q.entries ≠ [] → read? (q.encode skip) = some q) ∧
      (q.encode skip = "" ↔ q.entries = []) ∧
      (∀ q' : Query, q.encode skip = q'.encode skip → q = q') ∧
      Serializer.form.fields q.entries = .ok (Utf8.ofString (q.encode [])) ∧
      (q.entries ≠ [] → readForm? (Utf8.ofString (q.encode [])) = some q) := by
  have hnone : Legible [] := ⟨List.not_mem_nil, List.not_mem_nil, List.not_mem_nil⟩
  refine ⟨read?_encode h, encode_eq_empty_iff, fun q' => eq_of_encode_eq h, rfl, fun hne => ?_⟩
  rw [readForm?_ofString]
  exact read?_encode hnone hne

/-- Separators and escapes in keys and values, an entry of two empty texts, and
a letter and an accented letter among the characters left literal. -/
theorem encode_carries_separators :
    Legible ['/', 'a', 'é'] ∧
      (Query.mk [("a&b", "=é/%41"), ("", ""), ("a", "")]).encode ['/', 'a', 'é'] =
        "a%26b=%3Dé/%2541&=&a=" ∧
      read? "a%26b=%3Dé/%2541&=&a=" = some ⟨[("a&b", "=é/%41"), ("", ""), ("a", "")]⟩ ∧
      readForm? (Utf8.ofString "a%26b=%3D%C3%A9%2F%2541&=&a=") =
        some ⟨[("a&b", "=é/%41"), ("", ""), ("a", "")]⟩ := by
  have hlegible : Legible ['/', 'a', 'é'] := ⟨by decide, by decide, by decide⟩
  obtain ⟨hread, -, -, -, hform⟩ :=
    encode_carries hlegible ⟨[("a&b", "=é/%41"), ("", ""), ("a", "")]⟩
  have hne : [("a&b", "=é/%41"), ("", ""), ("a", "")] ≠ [] := List.cons_ne_nil _ _
  exact ⟨hlegible, rfl, hread hne, hform hne⟩

end Query

end RestCall
