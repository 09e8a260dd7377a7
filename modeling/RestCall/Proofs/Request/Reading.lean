import RestCall.Request.Basic
import RestCall.Proofs.Encoding.Percent
import RestCall.Proofs.Text.Splitting
import RestCall.Proofs.Text.Utf8
/-!
# RestCall — reading a query

Who receives a query splits it at ampersands, each part at its first equals
sign, and decodes both halves. An encoded query is read back as it was,
whichever characters it leaves literal, unless it leaves one literal that
the reading depends on: the percent sign, the ampersand or the equals sign.
-/

namespace RestCall

/-- The text that an encoded one stands for, when its bytes are well formed. -/
def Percent.read? (cs : List Char) : Option String :=
  (Utf8.strict? (Percent.decode cs)).map String.ofList

variable {skip : List Char}

theorem Percent.read?_encodeComponent (h : '%' ∉ skip) (s : String) :
    read? (encodeComponent skip s).toList = some s := by
  rw [read?, encodeComponent, String.toList_ofList, decode_encodeSkipping h,
    Utf8.strict?_encode, Option.map_some, String.ofList_toList]

namespace Query

variable {q : Query}

/-- A parameter as it is received. -/
def readPair? (cs : List Char) : Option (String × String) := do
  let (key, value) ← Text.splitFirst (· == '=') cs
  return (← Percent.read? key, ← Percent.read? value)

/-- A query as it is received. -/
def read? (s : String) : Option Query :=
  ((Text.splitOn '&' s.toList).mapM readPair?).map Query.mk

/-- The characters that a query may leave literal and still be read. -/
def Legible (skip : List Char) : Prop := '%' ∉ skip ∧ '&' ∉ skip ∧ '=' ∉ skip

/-- Separators do not occur in what is encoded. -/
theorem not_mem_encodeComponent {sep : Char} (hsep : Percent.isUnreserved sep = false)
    (hne : sep ≠ '%') (h : sep ∉ skip) (s : String) :
    sep ∉ (Percent.encodeComponent skip s).toList := by
  rw [Percent.encodeComponent, String.toList_ofList]
  intro hmem
  rcases Percent.mem_encodeSkipping hmem with hu | rfl | hs
  · rw [hsep] at hu
    cases hu
  · exact hne rfl
  · exact h hs

theorem toList_encodeEntry {e : String × String} :
    (encodeEntry skip e).toList =
      (Percent.encodeComponent skip e.1).toList ++
        '=' :: (Percent.encodeComponent skip e.2).toList := by
  rw [encodeEntry, String.toList_append, String.toList_append, List.append_assoc]
  rfl

theorem readPair?_encodeEntry (h : Legible skip) (e : String × String) :
    readPair? (encodeEntry skip e).toList = some e := by
  have hkey : '=' ∉ (Percent.encodeComponent skip e.1).toList :=
    not_mem_encodeComponent (by decide) (by decide) h.2.2 e.1
  rw [readPair?, toList_encodeEntry, Text.splitFirst_beq_append hkey]
  simp [Percent.read?_encodeComponent h.1]

theorem ampersand_not_mem_encodeEntry (h : Legible skip) (e : String × String) :
    '&' ∉ (encodeEntry skip e).toList := by
  rw [toList_encodeEntry, List.mem_append, List.mem_cons, not_or, not_or]
  exact ⟨not_mem_encodeComponent (by decide) (by decide) h.2.1 e.1, by decide,
    not_mem_encodeComponent (by decide) (by decide) h.2.1 e.2⟩

/-- **An encoded query is read back**, when it has parameters. -/
theorem read?_encode (h : Legible skip) (hne : q.entries ≠ []) :
    read? (q.encode skip) = some q := by
  have hsplit : Text.splitOn '&' (q.encode skip).toList =
      (q.entries.map (encodeEntry skip)).map String.toList := by
    refine Text.splitOn_join (by simpa using hne) fun piece hpiece => ?_
    obtain ⟨e, -, rfl⟩ := List.mem_map.1 hpiece
    exact ampersand_not_mem_encodeEntry h e
  have hread : (readPair? ∘ String.toList) ∘ encodeEntry skip = fun e => pure (id e) :=
    funext (readPair?_encodeEntry h)
  rw [read?, hsplit, List.mapM_map, List.mapM_map, hread, List.mapM_pure, List.map_id]
  rfl

end Query

end RestCall
