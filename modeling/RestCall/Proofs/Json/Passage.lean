import RestCall.Json.Cursor
/-!
# RestCall — readings that pass over a text

What a reading does depends on the bytes that are left, on how many
containers may still be opened and on the size of the text; the position
reached matters to failures alone. A spot is a cursor without its position,
and a reading leads from one spot to another when it succeeds from every
cursor there (`Leads`). Readings in sequence lead from spot to spot
(`Leads.bind`), so how a text is read follows from how its parts are.
-/

namespace RestCall

namespace Json

/-- A place in a text without its position: what is left, how many containers
may still be opened, and the size of the text. -/
structure Spot where
  rest : Bytes
  depth : Nat
  size : Nat

/-- The spot of a cursor. -/
def Cursor.spot (c : Cursor) : Spot := ⟨c.rest, c.depth, c.size⟩

theorem Cursor.spot_eq_iff {c : Cursor} {rest : Bytes} {depth size : Nat} :
    c.spot = ⟨rest, depth, size⟩ ↔ c.rest = rest ∧ c.depth = depth ∧ c.size = size := by
  rw [spot, Spot.mk.injEq]

theorem Cursor.spot_next (c : Cursor) : c.next.spot = ⟨c.rest.tail, c.depth, c.size⟩ := by
  obtain ⟨rest, line, column, depth, size⟩ := c
  cases rest with
  | nil => rfl
  | cons b rest =>
    rw [next]
    dsimp only
    split <;> rfl

theorem Cursor.spot_skip (n : Nat) (c : Cursor) :
    (c.skip n).spot = ⟨c.rest.drop n, c.depth, c.size⟩ := by
  induction n generalizing c with
  | zero => rfl
  | succ n ih =>
    obtain ⟨hrest, hdepth, hsize⟩ := spot_eq_iff.1 (spot_next c)
    rw [skip, ih, hrest, hdepth, hsize, List.drop_tail]

namespace Reader

variable {α β : Type} {read : Reader α} {f : α → Reader β} {a : α} {b : β} {p q r : Spot}
variable {byte : UInt8} {bytes rest rest' : Bytes} {depth size : Nat}

/-- **A reading leads from one spot to another** when it succeeds from every
cursor there, with the given result. -/
def Leads (read : Reader α) (p : Spot) (a : α) (q : Spot) : Prop :=
  ∀ c, c.spot = p → ∃ c', read c = .ok a c' ∧ c'.spot = q

/-! ## Sequences -/

theorem leads_pure (a : α) (p : Spot) : Leads (pure a) p a p := fun c hc => ⟨c, rfl, hc⟩

/-- **Readings in sequence** lead from spot to spot. -/
theorem Leads.bind (hread : Leads read p a q) (hf : Leads (f a) q b r) :
    Leads (read >>= f) p b r := by
  intro c hc
  obtain ⟨c', hread', hc'⟩ := hread c hc
  obtain ⟨c'', hf', hc''⟩ := hf c' hc'
  refine ⟨c'', ?_, hc''⟩
  change EStateM.bind read f c = _
  rw [EStateM.bind, hread']
  exact hf'

/-- A reading may look at its cursor. -/
theorem leads_get {f : Cursor → Reader β} (h : ∀ c, c.spot = p → Leads (f c) p b q) :
    Leads (get >>= f) p b q := fun c hc => h c hc c hc

/-- **Bytes are passed over** by setting the cursor behind them. -/
theorem leads_skip {c : Cursor} (hc : c.spot = ⟨bytes ++ rest, depth, size⟩) :
    Leads (set (c.skip bytes.length)) p PUnit.unit ⟨rest, depth, size⟩ := by
  obtain ⟨hrest, hdepth, hsize⟩ := Cursor.spot_eq_iff.1 hc
  refine fun _ _ => ⟨c.skip bytes.length, rfl, ?_⟩
  rw [Cursor.spot_skip, hrest, hdepth, hsize, List.drop_left]

/-! ## Single bytes -/

theorem leads_peek (p : Spot) : Leads peek p p.rest.head? p := by
  rintro c rfl
  exact ⟨c, rfl, rfl⟩

theorem leads_advance : Leads advance ⟨byte :: rest, depth, size⟩ () ⟨rest, depth, size⟩ := by
  intro c hc
  obtain ⟨hrest, hdepth, hsize⟩ := Cursor.spot_eq_iff.1 hc
  exact ⟨c.next, rfl, by rw [Cursor.spot_next, hrest, hdepth, hsize, List.tail_cons]⟩

theorem leads_take :
    Leads take ⟨byte :: rest, depth, size⟩ (some byte) ⟨rest, depth, size⟩ :=
  (leads_peek _).bind (leads_advance.bind (leads_pure _ _))

/-- **A byte that is no blank** is the next token. -/
theorem leads_peekToken (h : isSpace byte = false) :
    Leads peekToken ⟨byte :: rest, depth, size⟩ (some byte) ⟨byte :: rest, depth, size⟩ := by
  have hnone : Leads (modify fun c : Cursor => c.skip (c.rest.takeWhile isSpace).length)
      ⟨byte :: rest, depth, size⟩ PUnit.unit ⟨byte :: rest, depth, size⟩ := by
    intro c hc
    obtain ⟨hrest, -, -⟩ := Cursor.spot_eq_iff.1 hc
    refine ⟨c, ?_, hc⟩
    change EStateM.Result.ok _ (c.skip (c.rest.takeWhile isSpace).length) = _
    rw [hrest, List.takeWhile_cons_of_neg (by simp [h])]
    rfl
  exact hnone.bind (leads_peek _)

/-- At the end there is no token. -/
theorem leads_peekToken_nil : Leads peekToken ⟨[], depth, size⟩ none ⟨[], depth, size⟩ := by
  intro c hc
  obtain ⟨hrest, -, -⟩ := Cursor.spot_eq_iff.1 hc
  refine ⟨c, ?_, hc⟩
  change EStateM.Result.ok (c.skip (c.rest.takeWhile isSpace).length).rest.head?
    (c.skip (c.rest.takeWhile isSpace).length) = _
  rw [hrest]
  change EStateM.Result.ok c.rest.head? c = _
  rw [hrest]
  rfl

theorem leads_bound (p : Spot) : Leads bound p (p.size + 1) p := by
  rintro c rfl
  exact ⟨c, rfl, rfl⟩

/-! ## Frames -/

/-- Fixing the place of misfits does not matter to what succeeds. -/
theorem Leads.located (h : Leads read p a q) : Leads (located read) p a q := by
  intro c hc
  obtain ⟨c', hread, hc'⟩ := h c hc
  refine ⟨c', ?_, hc'⟩
  rw [Reader.located, hread]

/-- **A container is read** one level down and then closed. -/
theorem leads_enclosed {body : Reader α} {finish : Reader Unit} (hdepth : 1 < depth)
    (hbody : Leads body ⟨rest, depth - 1, size⟩ a ⟨rest', depth - 1, size⟩)
    (hfinish : Leads finish ⟨rest', depth, size⟩ () q) :
    Leads (enclosed body finish) ⟨byte :: rest, depth, size⟩ a q := by
  intro c hc
  obtain ⟨hrest, hdepth', hsize⟩ := Cursor.spot_eq_iff.1 hc
  have hnext : ({ c.next with depth := c.depth - 1 } : Cursor).spot = ⟨rest, depth - 1, size⟩ := by
    obtain ⟨htail, -, hsame⟩ := Cursor.spot_eq_iff.1 (Cursor.spot_next c)
    rw [Cursor.spot, htail, hsame, hrest, hdepth', hsize, List.tail_cons]
  obtain ⟨c', hread, hc'⟩ := hbody _ hnext
  obtain ⟨hrest', -, hsize'⟩ := Cursor.spot_eq_iff.1 hc'
  obtain ⟨c'', hclose, hc''⟩ := hfinish { c' with depth := c.depth } (by
    rw [Cursor.spot, hrest', hdepth', hsize'])
  refine ⟨c'', ?_, hc''⟩
  rw [enclosed, if_neg (by omega), hread]
  dsimp only
  rw [hclose]

end Reader

end Json

end RestCall
