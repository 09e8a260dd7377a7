import RestCall.Warning
/-!
# RestCall — trying again

A call that ends in a timeout may be tried again as a whole, up to a
number of attempts; at least one is made. After each attempt the policy
gives a verdict: the call is settled with what the attempt gave, or it is
tried again and a warning is logged. A sequence of attempts is run by
following the verdicts, be it in one go or attempt by attempt.
-/

namespace RestCall

/-- How often a call is tried, which faults are worth another attempt, and
how many milliseconds pass in between. -/
structure RetryPolicy where
  maxAttempts : UInt32
  delay : Nat
  retryIf : Fault → Bool

namespace RetryPolicy

/-- Three attempts without delay, for timeouts. -/
def standard : RetryPolicy := ⟨3, 0, Fault.isTimeout⟩

/-- A policy with a number of attempts, at least one. -/
def withMaxAttempts (p : RetryPolicy) (n : UInt32) : RetryPolicy :=
  { p with maxAttempts := max n 1 }

/-- Whether a fault is worth another attempt. -/
def shouldRetry (p : RetryPolicy) (fault : Fault) : Bool := p.retryIf fault

/-- How many attempts are made at most. -/
def bound (p : RetryPolicy) : UInt32 := max p.maxAttempts 1

/-- What follows an attempt. -/
inductive Verdict (α : Type) where
  | settled (result : Except Fault α)
  | again (warning : Warning)

/-- What follows an attempt of the given number. -/
def verdict {α : Type} (p : RetryPolicy) (operation : String) (attempt : UInt32)
    (outcome : Except Fault α) : Verdict α :=
  match outcome with
  | .ok a => .settled (.ok a)
  | .error fault =>
    if attempt < p.bound ∧ p.shouldRetry fault then
      .again (.retrying operation attempt p.bound fault)
    else .settled (.error fault)

/-- What a sequence of attempts led to: the result, the number of attempts,
the warnings in order, and the state of what was tried. -/
structure Tried (σ α : Type) where
  result : Except Fault α
  attempts : UInt32
  warnings : List Warning
  state : σ

/-- The next number does not wrap round below a bound. -/
theorem lt_succ_of_lt {attempt bound : UInt32} (h : attempt < bound) :
    bound.toNat - (attempt + 1).toNat < bound.toNat - attempt.toNat := by
  have h' : attempt.toNat < bound.toNat := UInt32.lt_iff_toNat_lt.1 h
  have hb : bound.toNat < UInt32.size := bound.toNat_lt_size
  have hs : (attempt + 1).toNat = attempt.toNat + 1 := by
    rw [UInt32.toNat_add]
    exact Nat.mod_eq_of_lt (by simp [UInt32.size] at hb ⊢; omega)
  omega

/-- Attempts from the one of a number on. -/
def runFrom {σ α : Type} (p : RetryPolicy) (operation : String)
    (attemptOnce : σ → Except Fault α × σ) (attempt : UInt32) (s : σ) : Tried σ α :=
  match attemptOnce s with
  | (.ok a, s') => ⟨.ok a, attempt, [], s'⟩
  | (.error fault, s') =>
    if h : attempt < p.bound ∧ p.shouldRetry fault = true then
      let tried := runFrom p operation attemptOnce (attempt + 1) s'
      { tried with warnings := .retrying operation attempt p.bound fault :: tried.warnings }
    else ⟨.error fault, attempt, [], s'⟩
termination_by p.bound.toNat - attempt.toNat
decreasing_by exact lt_succ_of_lt h.1

/-- A call tried under the policy. -/
def run {σ α : Type} (p : RetryPolicy) (operation : String)
    (attemptOnce : σ → Except Fault α × σ) (s : σ) : Tried σ α :=
  p.runFrom operation attemptOnce 1 s

/-- A call that is being tried: the number of the attempt under way, and
the warnings so far. -/
structure Attempting where
  attempt : UInt32
  warnings : List Warning

/-- The first attempt. -/
def Attempting.first : Attempting := ⟨1, []⟩

/-- The next attempt after an outcome, when there is to be one. -/
def Attempting.next (a : Attempting) (warning : Warning) : Attempting :=
  ⟨a.attempt + 1, a.warnings ++ [warning]⟩

/-- Another attempt is made below the bound only. -/
theorem lt_bound_of_again {α : Type} {p : RetryPolicy} {operation : String} {attempt : UInt32}
    {outcome : Except Fault α} {warning : Warning}
    (h : p.verdict operation attempt outcome = .again warning) : attempt < p.bound := by
  unfold verdict at h
  split at h
  · cases h
  · split at h
    · rename_i hc
      exact hc.1
    · cases h

/-- A call tried attempt by attempt, where an attempt may never be over:
then there is no result. -/
def follow {σ α : Type} (p : RetryPolicy) (operation : String)
    (attemptOnce : σ → Option (Except Fault α) × σ) (a : Attempting) (s : σ) :
    Option (Except Fault α) × Attempting × σ :=
  match attemptOnce s with
  | (none, s') => (none, a, s')
  | (some outcome, s') =>
    match _h : p.verdict operation a.attempt outcome with
    | .settled result => (some result, a, s')
    | .again warning => p.follow operation attemptOnce (a.next warning) s'
termination_by p.bound.toNat - a.attempt.toNat
decreasing_by exact lt_succ_of_lt (lt_bound_of_again _h)

end RetryPolicy

end RestCall
