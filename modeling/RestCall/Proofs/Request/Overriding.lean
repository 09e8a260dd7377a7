import Mathlib.Data.List.Induction
import RestCall.Binding.Options
import RestCall.Proofs.Request.Entries
/-!
# RestCall — entries that override others

Entries that are set one after another over declared ones override them.
`setAll_eq` says what is left, for any notion of when two names are the
same: of the declared entries and the added ones behind them each added
name keeps its first entry, which takes the value added last, and entries
of other names stay as they are. `Overridden` is the same law taken apart
into what stands there once, what is unchanged, and in which order.
-/

namespace RestCall

namespace Entries

variable {norm : String → String} {added declared entries : Entries} {name : String}
variable {e : String × String}

/-- Names of one normal form. -/
def alike (norm : String → String) (name : String) : String → Bool :=
  fun other => norm name == norm other

/-- Entries set over others, in order. -/
def setAll (norm : String → String) (added declared : Entries) : Entries :=
  added.foldl (fun entries e => entries.setBy (alike norm e.1) e.1 e.2) declared

/-- Whether a name occurs among entries. -/
def hasName (norm : String → String) (entries : Entries) (name : String) : Bool :=
  entries.any fun e => alike norm name e.1

/-- The last value of a name. -/
def last? (norm : String → String) (entries : Entries) (name : String) : Option String :=
  (entries.filter fun e => alike norm name e.1).getLast?.map (·.2)

/-- Whether a name repeats another one that was added. -/
def repeats (norm : String → String) (added : Entries) (name : String) : String → Bool :=
  fun other => hasName norm added name && alike norm name other

/-- Entries without those that repeat a name that was added. -/
def firsts (norm : String → String) (added : Entries) : Entries → Entries
  | [] => []
  | e :: rest => e :: removeBy (repeats norm added e.1) (firsts norm added rest)

/-- An entry with the value that was added last under its name. -/
def revalued (norm : String → String) (added : Entries) (e : String × String) : String × String :=
  (e.1, (last? norm added e.1).getD e.2)

/-- **Entries that override declared ones.** An added name stands there
once, with the value that was added last; entries of other names are as
they were declared; and the names come in the order in which they were
declared and then added, an added name at its first place and as it is
spelled there. -/
structure Overridden (norm : String → String) (declared added result : Entries) : Prop where
  once : ∀ e ∈ added, ∃ spelled value,
    result.filter (fun e' => alike norm e.1 e'.1) = [(spelled, value)] ∧
      last? norm added e.1 = some value
  others : result.filter (fun e => !hasName norm added e.1) =
    declared.filter fun e => !hasName norm added e.1
  order : result.map (·.1) = (firsts norm added (declared ++ added)).map (·.1)

/-! ## Names that are alike -/

theorem alike_iff {a b : String} : alike norm a b = true ↔ norm a = norm b := beq_iff_eq

theorem alike_self : alike norm name name = true := alike_iff.2 rfl

/-- What is like one of two names that are alike is like the other. -/
theorem alike_congr {a b : String} (h : alike norm a b = true) : alike norm a = alike norm b := by
  funext other
  simp only [alike, alike_iff.1 h]

theorem alike_comm {a b : String} : alike norm a b = alike norm b a := Bool.beq_comm

theorem apart_alike {a b : String} (h : alike norm a b = false) :
    Apart (alike norm a) (alike norm b) := by
  intro other ha
  rw [alike_congr ha, Bool.eq_false_iff] at h
  rw [Bool.eq_false_iff]
  intro hb
  exact h (alike_iff.2 (alike_iff.1 hb).symm)

theorem hasName_congr {a b : String} (h : alike norm a b = true) :
    hasName norm entries a = hasName norm entries b := by
  simp only [hasName, alike_congr h]

theorem hasName_append :
    hasName norm (entries ++ [e]) name = (hasName norm entries name || alike norm name e.1) := by
  simp [hasName]

theorem hasName_of_mem (h : e ∈ entries) : hasName norm entries e.1 = true :=
  List.any_eq_true.2 ⟨e, h, alike_self⟩

/-! ## The value added last -/

theorem last?_append_of_alike (h : alike norm name e.1 = true) :
    last? norm (entries ++ [e]) name = some e.2 := by
  have hfilter : [e].filter (fun e => alike norm name e.1) = [e] := List.filter_cons_of_pos h
  rw [last?, List.filter_append, hfilter, List.getLast?_concat, Option.map_some]

theorem last?_append_of_not_alike (h : alike norm name e.1 = false) :
    last? norm (entries ++ [e]) name = last? norm entries name := by
  have hfilter : [e].filter (fun e => alike norm name e.1) = [] :=
    List.filter_cons_of_neg (by simp [h])
  rw [last?, List.filter_append, hfilter, List.append_nil, last?]

theorem last?_congr {a b : String} (h : alike norm a b = true) :
    last? norm entries a = last? norm entries b := by
  simp only [last?, alike_congr h]

theorem last?_eq_none (h : hasName norm entries name = false) : last? norm entries name = none := by
  have hnil : entries.filter (fun e => alike norm name e.1) = [] := by
    rw [List.filter_eq_nil_iff]
    intro e he
    simpa using List.any_eq_false.1 h e he
  rw [last?, hnil]
  rfl

theorem exists_last? (h : hasName norm entries name = true) :
    ∃ value, last? norm entries name = some value := by
  obtain ⟨e, he, halike⟩ := List.any_eq_true.1 h
  have hmem : e ∈ entries.filter fun e => alike norm name e.1 := List.mem_filter.2 ⟨he, halike⟩
  refine ⟨((entries.filter fun e => alike norm name e.1).getLast (List.ne_nil_of_mem hmem)).2, ?_⟩
  rw [last?, List.getLast?_eq_some_getLast (List.ne_nil_of_mem hmem), Option.map_some]

/-- Entries keep their names when they take other values. -/
theorem removeBy_map_revalued {same : String → Bool} :
    removeBy same (entries.map (revalued norm added)) =
      (removeBy same entries).map (revalued norm added) :=
  List.filter_map

theorem revalued_append_of_not_alike {f : String × String} (h : alike norm f.1 e.1 = false) :
    revalued norm (added ++ [e]) f = revalued norm added f := by
  rw [revalued, last?_append_of_not_alike h, revalued]

/-! ## First entries -/

theorem apart_repeats {a b : String} (h : alike norm a b = false) :
    Apart (alike norm a) (repeats norm added b) := by
  intro other ha
  rw [repeats, apart_alike h other ha, Bool.and_false]

/-- What repeats a name is removed with it. -/
theorem removeBy_removeBy_repeats {a b : String} (h : alike norm a b = true) :
    removeBy (alike norm a) (removeBy (repeats norm added b) entries) =
      removeBy (alike norm a) entries := by
  refine List.filter_filter.trans (List.filter_congr fun f _ => ?_)
  rw [repeats, alike_congr h]
  cases alike norm b f.1 <;> simp

theorem repeats_of_hasName (h : hasName norm added name = true) :
    repeats norm added name = alike norm name := by
  funext other
  rw [repeats, h, Bool.true_and]

theorem repeats_append (h : alike norm name e.1 = false) :
    repeats norm (added ++ [e]) name = repeats norm added name := by
  funext other
  rw [repeats, repeats, hasName_append, h, Bool.or_false]

theorem firsts_of_nothing_added : firsts norm [] entries = entries := by
  induction entries with
  | nil => rfl
  | cons e rest ih =>
    have hnone : ∀ f ∈ rest, repeats norm [] e.1 f.1 = false := fun _ _ => rfl
    rw [firsts, ih, removeBy_eq_self hnone]

/-- One more added name matters to the entries of that name only. -/
theorem removeBy_firsts_append :
    removeBy (alike norm e.1) (firsts norm (added ++ [e]) (entries ++ [e])) =
      removeBy (alike norm e.1) (firsts norm added entries) := by
  induction entries with
  | nil =>
    have hfirst : firsts norm (added ++ [e]) [e] = [e] := rfl
    rw [List.nil_append, hfirst, removeBy_cons_of_same alike_self, firsts]
  | cons f rest ih =>
    rw [List.cons_append, firsts, firsts]
    cases halike : alike norm e.1 f.1 with
    | true =>
      rw [removeBy_cons_of_same halike, removeBy_cons_of_same halike,
        removeBy_removeBy_repeats halike, removeBy_removeBy_repeats halike, ih]
    | false =>
      rw [removeBy_cons_of_not_same halike, removeBy_cons_of_not_same halike,
        repeats_append (alike_comm.trans halike), removeBy_comm, ih, removeBy_comm]

/-! ## What is left -/

/-- An entry that is set over first entries, each with its last value. -/
theorem setBy_firsts :
    setBy (alike norm e.1) e.1 e.2 ((firsts norm added entries).map (revalued norm added)) =
      (firsts norm (added ++ [e]) (entries ++ [e])).map (revalued norm (added ++ [e])) := by
  induction entries with
  | nil =>
    have hlast : revalued norm (added ++ [e]) e = e := by
      rw [revalued, last?_append_of_alike alike_self, Option.getD_some]
    simp [firsts, removeBy_nil, setBy_nil, hlast]
  | cons f rest ih =>
    have hhead : revalued norm added f = (f.1, (last? norm added f.1).getD f.2) := rfl
    rw [List.cons_append, firsts, firsts, List.map_cons, List.map_cons]
    cases halike : alike norm e.1 f.1 with
    | true =>
      -- `f` takes the new value; in the entries behind it nothing has that name
      have hlast : revalued norm (added ++ [e]) f = (f.1, e.2) := by
        rw [revalued, last?_append_of_alike (alike_comm.trans halike), Option.getD_some]
      have hname : repeats norm (added ++ [e]) f.1 = alike norm e.1 := by
        rw [repeats_of_hasName, alike_congr halike]
        rw [← hasName_congr halike]
        exact hasName_of_mem (by simp)
      have hrest : ∀ f' ∈ removeBy (alike norm e.1) (firsts norm added rest),
          revalued norm added f' = revalued norm (added ++ [e]) f' := by
        intro f' hf'
        have hne : alike norm e.1 f'.1 = false := (mem_removeBy.1 hf').2
        rw [revalued_append_of_not_alike (alike_comm.trans hne)]
      rw [hhead, setBy_cons_of_same halike, hlast, hname, removeBy_map_revalued,
        removeBy_removeBy_repeats halike, removeBy_firsts_append, List.map_congr_left hrest]
    | false =>
      have hname : repeats norm (added ++ [e]) f.1 = repeats norm added f.1 :=
        repeats_append (alike_comm.trans halike)
      rw [revalued_append_of_not_alike (alike_comm.trans halike), hhead,
        setBy_cons_of_not_same halike, hname, ← removeBy_map_revalued, ← removeBy_map_revalued,
        ← removeBy_setBy_of_apart (apart_repeats halike) alike_self, ih]

/-- **What is left when entries are set over declared ones.** -/
theorem setAll_eq (norm : String → String) (added declared : Entries) :
    setAll norm added declared =
      (firsts norm added (declared ++ added)).map (revalued norm added) := by
  -- from the end of the list: the last entry that is set gives its name the last value
  induction added using List.reverseRecOn with
  | nil =>
    have hsame : ∀ f ∈ declared, revalued norm [] f = id f := fun _ _ => rfl
    rw [List.append_nil, firsts_of_nothing_added, List.map_congr_left hsame, List.map_id]
    rfl
  | append_singleton added e ih =>
    have hset : setAll norm (added ++ [e]) declared =
        setBy (alike norm e.1) e.1 e.2 (setAll norm added declared) := List.foldl_append
    rw [hset, ih, setBy_firsts, List.append_assoc]

/-! ## The law, part by part -/

theorem filter_firsts_of_not_hasName :
    (firsts norm added entries).filter (fun e => !hasName norm added e.1) =
      entries.filter fun e => !hasName norm added e.1 := by
  induction entries with
  | nil => rfl
  | cons e rest ih =>
    have hrest : (removeBy (repeats norm added e.1) (firsts norm added rest)).filter
        (fun e => !hasName norm added e.1) =
          (firsts norm added rest).filter fun e => !hasName norm added e.1 := by
      refine List.filter_filter.trans (List.filter_congr fun f _ => ?_)
      cases hadded : hasName norm added f.1 with
      | true => rfl
      | false =>
        -- what repeats an added name is itself an added name
        cases halike : alike norm e.1 f.1 with
        | true => rw [repeats, hasName_congr halike, hadded]; rfl
        | false => rw [repeats, halike, Bool.and_false]; rfl
    rw [firsts, List.filter_cons, List.filter_cons, hrest, ih]

/-- An added name has one first entry. -/
theorem exists_filter_firsts (hadded : hasName norm added name = true)
    (h : hasName norm entries name = true) :
    ∃ f, alike norm name f.1 = true ∧
      (firsts norm added entries).filter (fun e => alike norm name e.1) = [f] := by
  induction entries with
  | nil => cases h
  | cons e rest ih =>
    cases halike : alike norm name e.1 with
    | true =>
      have hname : repeats norm added e.1 = alike norm e.1 := by
        rw [repeats_of_hasName]
        rw [← hasName_congr halike]
        exact hadded
      have hnone : (removeBy (alike norm e.1) (firsts norm added rest)).filter
          (fun e => alike norm name e.1) = [] := by
        rw [List.filter_eq_nil_iff]
        intro f hf
        rw [alike_congr halike, (mem_removeBy.1 hf).2]
        simp
      exact ⟨e, halike, by rw [firsts, hname, List.filter_cons, if_pos halike, hnone]⟩
    | false =>
      have hrest : hasName norm rest name = true := by
        simpa [hasName, halike] using h
      obtain ⟨f, hf, hfilter⟩ := ih hrest
      have hkeep : (removeBy (repeats norm added e.1) (firsts norm added rest)).filter
          (fun e => alike norm name e.1) =
            (firsts norm added rest).filter fun e => alike norm name e.1 := by
        refine List.filter_filter.trans (List.filter_congr fun f _ => ?_)
        cases hlike : alike norm name f.1 with
        | true => rw [apart_repeats halike f.1 hlike]; rfl
        | false => rfl
      exact ⟨f, hf, by rw [firsts, List.filter_cons, if_neg (by simp [halike]), hkeep, hfilter]⟩

/-- **Entries that are set override declared ones.** -/
theorem overridden_setAll (norm : String → String) (declared added : Entries) :
    Overridden norm declared added (setAll norm added declared) where
  once e he := by
    have hadded : hasName norm added e.1 = true := hasName_of_mem he
    obtain ⟨value, hvalue⟩ := exists_last? hadded
    have hthere : hasName norm (declared ++ added) e.1 = true :=
      hasName_of_mem (List.mem_append_right declared he)
    obtain ⟨f, hf, hfilter⟩ := exists_filter_firsts hadded hthere
    have hlast : revalued norm added f = (f.1, value) := by
      rw [revalued, ← last?_congr hf, hvalue, Option.getD_some]
    have hcomp : (fun e' => alike norm e.1 e'.1) ∘ revalued norm added =
        fun e' => alike norm e.1 e'.1 := rfl
    refine ⟨f.1, value, ?_, hvalue⟩
    rw [setAll_eq, List.filter_map, hcomp, hfilter, List.map_cons, List.map_nil, hlast]
  others := by
    have hcomp : (fun e => !hasName norm added e.1) ∘ revalued norm added =
        fun e => !hasName norm added e.1 := rfl
    have hnone : added.filter (fun e => !hasName norm added e.1) = [] := by
      rw [List.filter_eq_nil_iff]
      intro e he
      simp [hasName_of_mem he]
    have hsame : ∀ e ∈ declared.filter (fun e => !hasName norm added e.1),
        revalued norm added e = id e := by
      intro e he
      have hname : hasName norm added e.1 = false := by simpa using (List.mem_filter.1 he).2
      rw [revalued, last?_eq_none hname]
      rfl
    rw [setAll_eq, List.filter_map, hcomp, filter_firsts_of_not_hasName, List.filter_append, hnone,
      List.append_nil, List.map_congr_left hsame, List.map_id]
  order := by
    have hcomp : (fun e : String × String => e.1) ∘ revalued norm added = fun e => e.1 := rfl
    rw [setAll_eq, List.map_map, hcomp]

/-! ## Without some names -/

section Without

variable {other : String → Bool}

/-- A class of names that does not tell apart names that are alike. -/
def Respects (norm : String → String) (other : String → Bool) : Prop :=
  ∀ a b, alike norm a b = true → other a = other b

/-- **Names that are removed afterwards need not be set.** -/
theorem removeBy_setAll (h : Respects norm other) (added declared : Entries) :
    removeBy other (setAll norm added declared) =
      setAll norm (removeBy other added) (removeBy other declared) := by
  induction added generalizing declared with
  | nil => rfl
  | cons e rest ih =>
    have hset : setAll norm (e :: rest) declared =
        setAll norm rest (setBy (alike norm e.1) e.1 e.2 declared) := rfl
    rw [hset, ih]
    cases ho : other e.1 with
    | true =>
      have hwithin : Within (alike norm e.1) other := by
        intro a ha
        rw [← h e.1 a ha, ho]
      rw [removeBy_setBy_of_within hwithin ho, removeBy_cons_of_same ho]
    | false =>
      have hapart : Apart (alike norm e.1) other := by
        intro a ha
        rw [← h e.1 a ha, ho]
      rw [removeBy_setBy_of_apart hapart alike_self, removeBy_cons_of_not_same ho]
      rfl

end Without

end Entries

end RestCall
