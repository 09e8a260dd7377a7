import Mathlib.Data.List.Forall2
import Mathlib.Order.Bounds.Basic
import Mathlib.Order.Lattice.Nat
import RestCall.Retry.Policy
/-!
# RestCall — how many attempts are made

The attempts of a call have numbers, from 1 on. A call may stop at the
bound, and at each attempt that succeeds or fails with a fault that is not
worth another one; the first of these numbers is where it does stop. Both
ways of running a policy make exactly that many attempts, give the outcome
of the last, and log one warning for each of the others.
-/

namespace RestCall

namespace RetryPolicy

variable {σ α : Type} {p : RetryPolicy} {operation : String}
variable {outcomes : ℕ → Except Fault α} {n : ℕ}

/-- An outcome that ends a call: a success, or a fault that is not worth
another attempt. -/
def Ends (p : RetryPolicy) (outcome : Except Fault α) : Prop :=
  (∃ a, outcome = .ok a) ∨ ∃ fault, outcome = .error fault ∧ p.shouldRetry fault = false

/-- The numbers of the attempts at which a call may stop. -/
def stops (p : RetryPolicy) (outcomes : ℕ → Except Fault α) : Set ℕ :=
  {i | 1 ≤ i ∧ (p.Ends (outcomes i) ∨ i = max 1 p.maxAttempts.toNat)}

/-- What the warning about attempt `i` says: it failed, with this fault,
and there is another one. -/
def Announces (p : RetryPolicy) (operation : String) (outcomes : ℕ → Except Fault α) (i : ℕ)
    (warning : Warning) : Prop :=
  ∃ fault number, outcomes i = .error fault ∧ number.toNat = i ∧
    warning = .retrying operation number p.bound fault

/-! ## Numbers of attempts -/

theorem toNat_bound : p.bound.toNat = max 1 p.maxAttempts.toNat := by
  change (if p.maxAttempts ≤ 1 then 1 else p.maxAttempts).toNat = _
  have hone : (1 : UInt32).toNat = 1 := rfl
  by_cases h : p.maxAttempts ≤ 1
  · have hle := UInt32.le_iff_toNat_le.1 h
    rw [if_pos h]
    omega
  · have hlt := mt UInt32.le_iff_toNat_le.2 h
    rw [if_neg h]
    omega

/-- A number up to the bound is a counter without a wrap. -/
theorem toNat_ofNat_of_le {i : ℕ} (h : i ≤ p.bound.toNat) : (UInt32.ofNat i).toNat = i :=
  UInt32.toNat_ofNat_of_lt' (lt_of_le_of_lt h p.bound.toNat_lt_size)

/-- **A call stops somewhere.** -/
theorem exists_isLeast_stops (p : RetryPolicy) (outcomes : ℕ → Except Fault α) :
    ∃ n, IsLeast (p.stops outcomes) n :=
  ⟨_, Nat.sInf_mem ⟨_, le_max_left _ _, .inr rfl⟩, fun _ hi => Nat.sInf_le hi⟩

theorem le_bound_of_isLeast (hn : IsLeast (p.stops outcomes) n) : n ≤ p.bound.toNat := by
  rw [toNat_bound]
  exact hn.2 ⟨le_max_left _ _, .inr rfl⟩

/-! ## One attempt -/

/-- **The last attempt settles the call.** -/
theorem verdict_of_isLeast (hn : IsLeast (p.stops outcomes) n) :
    p.verdict operation (UInt32.ofNat n) (outcomes n) = .settled (outcomes n) := by
  have hle := le_bound_of_isLeast hn
  -- it succeeded, its fault is not worth another attempt, or the bound is reached
  rcases hn.1.2 with (⟨a, ha⟩ | ⟨fault, hf, hr⟩) | hmax
  · rw [ha, verdict]
  · rw [hf, verdict, if_neg (by rw [hr]; simp)]
  · have hlt : ¬ UInt32.ofNat n < p.bound := by
      rw [UInt32.lt_iff_toNat_lt, toNat_ofNat_of_le hle, toNat_bound]
      omega
    cases ho : outcomes n with
    | ok a => rfl
    | error fault => rw [verdict, if_neg fun h => hlt h.1]

/-- **An attempt before it is followed by another**, and announced. -/
theorem verdict_of_lt (operation : String) (hn : IsLeast (p.stops outcomes) n) {i : ℕ} (hi : 1 ≤ i)
    (hin : i < n) :
    ∃ warning, p.Announces operation outcomes i warning ∧
      p.verdict operation (UInt32.ofNat i) (outcomes i) = .again warning := by
  have hle := le_bound_of_isLeast hn
  have hnot : i ∉ p.stops outcomes := fun h => absurd (hn.2 h) (by omega)
  have hends : ¬ p.Ends (outcomes i) := fun h => hnot ⟨hi, .inl h⟩
  have htoNat : (UInt32.ofNat i).toNat = i := toNat_ofNat_of_le (p := p) (by omega)
  have hlt : UInt32.ofNat i < p.bound := by
    rw [UInt32.lt_iff_toNat_lt, htoNat]
    omega
  cases ho : outcomes i with
  | ok a => exact absurd (.inl ⟨a, ho⟩) hends
  | error fault =>
    have hr : p.shouldRetry fault = true := by
      by_contra hr
      exact hends (.inr ⟨fault, ho, by simpa using hr⟩)
    exact ⟨_, ⟨fault, _, ho, htoNat, rfl⟩, by rw [verdict, if_pos ⟨hlt, hr⟩]⟩

/-! ## All attempts -/

section Following

variable {attemptOnce : σ → Option (Except Fault α) × σ}

theorem follow_of_settled {a : Attempting} {s s' : σ} {x result : Except Fault α}
    (h : attemptOnce s = (some x, s'))
    (hv : p.verdict operation a.attempt x = .settled result) :
    p.follow operation attemptOnce a s = (some result, a, s') := by
  rw [follow, h]
  dsimp only
  split <;> rename_i hs
  · rw [hv] at hs
    cases hs
    rfl
  · rw [hv] at hs
    cases hs

theorem follow_of_again {a : Attempting} {s s' : σ} {x : Except Fault α} {warning : Warning}
    (h : attemptOnce s = (some x, s'))
    (hv : p.verdict operation a.attempt x = .again warning) :
    p.follow operation attemptOnce a s = p.follow operation attemptOnce (a.next warning) s' := by
  rw [follow, h]
  dsimp only
  split <;> rename_i hs
  · rw [hv] at hs
    cases hs
  · rw [hv] at hs
    cases hs
    rfl

/-- **A call followed from attempt `i` on.** The states are those that the
attempts lead through, one after another. -/
theorem follow_eq (operation : String) (states : ℕ → σ)
    (hstep : ∀ i, 1 ≤ i → attemptOnce (states i) = (some (outcomes i), states (i + 1)))
    (hn : IsLeast (p.stops outcomes) n) {d i : ℕ} (hi : 1 ≤ i) (hd : i + d = n)
    (before : List Warning) :
    ∃ warnings, List.Forall₂ (p.Announces operation outcomes) (List.range' i d) warnings ∧
      p.follow operation attemptOnce ⟨UInt32.ofNat i, before⟩ (states i) =
        (some (outcomes n), ⟨UInt32.ofNat n, before ++ warnings⟩, states (n + 1)) := by
  -- on the attempts that are left: `n` is still the first stop seen from attempt `i`
  induction d generalizing i before with
  | zero =>
    obtain rfl : i = n := hd
    refine ⟨[], .nil, ?_⟩
    rw [follow_of_settled (hstep i hi) (verdict_of_isLeast hn), List.append_nil]
  | succ d ih =>
    obtain ⟨warning, hw, hv⟩ := verdict_of_lt operation hn hi (by omega)
    obtain ⟨warnings, hall, hf⟩ := ih (Nat.le_add_left 1 i) (by omega) (before ++ [warning])
    refine ⟨warning :: warnings, .cons hw hall, ?_⟩
    rw [follow_of_again (hstep i hi) hv, Attempting.next, ← UInt32.ofNat_one,
      ← UInt32.ofNat_add, hf, List.append_assoc, List.singleton_append]

theorem eq_of_settled {attempt : UInt32} {x result : Except Fault α}
    (h : p.verdict operation attempt x = .settled result) : result = x := by
  unfold verdict at h
  split at h
  · cases h
    rfl
  · split at h
    · cases h
    · cases h
      rfl

/-- **A call is settled** with what an attempt gave. -/
theorem follow_result {I : σ → Prop} {R : Except Fault α → Prop}
    (hstep : ∀ s, I s → I (attemptOnce s).2 ∧ ∀ x, (attemptOnce s).1 = some x → R x)
    (a : Attempting) {s : σ} (hs : I s) {result : Except Fault α}
    (h : (p.follow operation attemptOnce a s).1 = some result) : R result := by
  fun_induction follow p operation attemptOnce a s with
  | case1 a s s' hattempt => cases h
  | case2 a s x s' hattempt settled hv =>
    obtain ⟨-, hx⟩ := hstep s hs
    rw [hattempt] at hx
    rw [← Option.some.inj h, eq_of_settled hv]
    exact hx x rfl
  | case3 a s x s' hattempt warning hv ih =>
    obtain ⟨hnext, -⟩ := hstep s hs
    rw [hattempt] at hnext
    exact ih hnext h

end Following

/-! ## In one go -/

/-- Attempts each of which is over at some time. -/
def always (attemptOnce : σ → Except Fault α × σ) (s : σ) : Option (Except Fault α) × σ :=
  (some (attemptOnce s).1, (attemptOnce s).2)

/-- Attempts with given outcomes; the state is the number of the next. -/
def numbered (outcomes : ℕ → Except Fault α) (i : ℕ) : Except Fault α × ℕ := (outcomes i, i + 1)

theorem always_of_eq {attemptOnce : σ → Except Fault α × σ} {s s' : σ} {x : Except Fault α}
    (h : attemptOnce s = (x, s')) : always attemptOnce s = (some x, s') := by
  rw [always, h]

/-- **Running a call in one go follows it attempt by attempt.** -/
theorem follow_always (p : RetryPolicy) (operation : String)
    (attemptOnce : σ → Except Fault α × σ) (attempt : UInt32) (before : List Warning) (s : σ) :
    p.follow operation (always attemptOnce) ⟨attempt, before⟩ s =
      (some (p.runFrom operation attemptOnce attempt s).result,
        ⟨(p.runFrom operation attemptOnce attempt s).attempts,
          before ++ (p.runFrom operation attemptOnce attempt s).warnings⟩,
        (p.runFrom operation attemptOnce attempt s).state) := by
  fun_induction runFrom p operation attemptOnce attempt s generalizing before with
  | case1 attempt s a s' h =>
    have hv : p.verdict operation attempt (.ok a) = .settled (.ok a) := rfl
    rw [follow_of_settled (always_of_eq h) hv, List.append_nil]
  | case2 attempt s fault s' h hc tried ih =>
    have hv : p.verdict operation attempt (.error fault : Except Fault α) =
        .again (.retrying operation attempt p.bound fault) := by rw [verdict, if_pos hc]
    rw [follow_of_again (always_of_eq h) hv, Attempting.next, ih, List.append_assoc,
      List.singleton_append]
  | case3 attempt s fault s' h hc =>
    have hv : p.verdict operation attempt (.error fault : Except Fault α) =
        .settled (.error fault) := by rw [verdict, if_neg hc]
    rw [follow_of_settled (always_of_eq h) hv, List.append_nil]

/-- **Both ways of trying a call make the same attempts.** There is a first
number at which the call may stop. Both ways take as many attempts, without
a wrap of their counter, give the outcome of the last and log the same
warnings, one for each attempt before it, in order. -/
theorem run_eq_follow (p : RetryPolicy) (operation : String) (outcomes : ℕ → Except Fault α) :
    ∃ n attempts warnings, IsLeast (p.stops outcomes) n ∧ attempts.toNat = n ∧
      List.Forall₂ (p.Announces operation outcomes) (List.range' 1 (n - 1)) warnings ∧
      p.run operation (numbered outcomes) 1 = ⟨outcomes n, attempts, warnings, n + 1⟩ ∧
      p.follow operation (always (numbered outcomes)) .first 1 =
        (some (outcomes n), ⟨attempts, warnings⟩, n + 1) := by
  obtain ⟨n, hn⟩ := exists_isLeast_stops p outcomes
  have hpos : 1 ≤ n := hn.1.1
  obtain ⟨warnings, hall, hf⟩ := follow_eq operation id
    (fun i _ => (rfl : always (numbered outcomes) i = (some (outcomes i), i + 1))) hn le_rfl
    (Nat.add_sub_cancel' hpos) []
  refine ⟨n, _, warnings, hn, toNat_ofNat_of_le (le_bound_of_isLeast hn), hall, ?_, hf⟩
  have hr := follow_always p operation (numbered outcomes) 1 [] 1
  rcases ht : p.run operation (numbered outcomes) 1 with ⟨result, attempts, logged, state⟩
  rw [← run, ht] at hr
  cases hr.symm.trans hf
  rfl

end RetryPolicy

end RestCall
