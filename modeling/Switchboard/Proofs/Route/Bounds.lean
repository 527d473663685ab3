import Mathlib.Data.List.Induction
import Switchboard.Route.Machine

/-!
# The state machine within its bounds

The state machine is told events by others, who may tell it anything: events in any order, and
events that make no sense where the task stands. Whatever it is told, it stays within the
candidates there are and within the attempts its policy allows, and it goes through the candidates
in order.

What carries the statements about whole lists of events is the `level` of a state: how many
candidates have been selected up to it, and one more when none is left. An event raises the level
by at most one, and a state of a new level is a selection. So no candidate is left out on the way,
and one that has been left behind does not come back.

## Main results

* `Within.follows` — what an event can do.
* `within_stateAfter` — candidates, attempts and delays are always within their bounds.
* `level_stateAfter_le` — the level never falls.
* `exists_selecting` — every candidate up to the present one was selected.
* `machine_within_bounds` — all that holds after any events.
-/

namespace Switchboard.Route

/-- The state after events that are told from the beginning. -/
def stateAfter (policy : RetryPolicy) (candidateCount : Nat) (events : List Event) : State :=
  events.foldl (transition policy candidateCount) .pending

namespace State

/-- The candidate that a state names. -/
def candidate? : State → Option Nat
  | .selecting c | .calling c _ _ | .retrying c _ _ _ | .succeeded c => some c
  | .pending | .exhausted => none

/-- The chunk that a state is at. -/
def chunk? : State → Option Nat
  | .calling _ k _ | .retrying _ k _ _ => some k
  | _ => none

/-- How many of `n` candidates have been selected, and one more when none of them is left. -/
def level (n : Nat) : State → Nat
  | .pending => 0
  | .selecting c | .calling c _ _ | .retrying c _ _ _ | .succeeded c => c + 1
  | .exhausted => n + 1

/-- The state names one of `n` candidates, at an attempt that the policy allows. -/
def Within (policy : RetryPolicy) (n : Nat) : State → Prop
  | .pending | .exhausted => True
  | .selecting c | .succeeded c => c < n
  | .calling c _ attempt => c < n ∧ 1 ≤ attempt ∧ attempt ≤ policy.maxRetries + 1
  | .retrying c _ attempt delayMs =>
      c < n ∧ 1 ≤ attempt ∧ attempt ≤ policy.maxRetries ∧ delayMs = policy.backoffMs attempt

theorem level_of_candidate? {s : State} {n c : Nat} (h : s.candidate? = some c) :
    s.level n = c + 1 := by
  cases s <;> cases h <;> rfl

theorem Within.candidate_lt {policy : RetryPolicy} {s : State} {n c : Nat} (h : s.Within policy n)
    (hc : s.candidate? = some c) : c < n := by
  cases s with
  | pending => cases hc
  | exhausted => cases hc
  | selecting c' => cases hc; exact h
  | succeeded c' => cases hc; exact h
  | calling c' k a => cases hc; exact h.1
  | retrying c' k a d => cases hc; exact h.1

theorem chunk?_of_isTerminal {s : State} (h : s.isTerminal = true) : s.chunk? = none := by
  cases s <;> first | rfl | cases h

end State

/-! ## Single events -/

/-- What an event can do to a state. -/
inductive Follows (policy : RetryPolicy) (n : Nat) : State → Event → State → Prop where
  | kept (s : State) (e : Event) : Follows policy n s e s
  | begun (h : 0 < n) : Follows policy n .pending .begin (.selecting 0)
  | deserted (h : n = 0) : Follows policy n .pending .begin .exhausted
  | planned (c : Nat) : Follows policy n (.selecting c) .planned (.calling c 0 1)
  /-- The candidate is given up, and another one is left. -/
  | replaced {s : State} {c : Nat} (e : Event) (hs : s.candidate? = some c) (h : c + 1 < n) :
      Follows policy n s e (.selecting (c + 1))
  /-- The last candidate is given up. -/
  | exhausted {s : State} {c : Nat} (e : Event) (hs : s.candidate? = some c) (h : c + 1 = n) :
      Follows policy n s e .exhausted
  | counted (c k a : Nat) :
      Follows policy n (.calling c k a) .chunkDone (.calling c (Word.add k 1) 1)
  | finished (c k a : Nat) : Follows policy n (.calling c k a) .finished (.succeeded c)
  | rested (c k a : Nat) (h : a ≤ policy.maxRetries) :
      Follows policy n (.calling c k a) (.failed .transient)
        (.retrying c k a (policy.backoffMs a))
  | resumed (c k a d : Nat) :
      Follows policy n (.retrying c k a d) .backoffElapsed (.calling c k (a + 1))

section Machine

variable {policy : RetryPolicy} {n : Nat}

/-- Giving up a candidate selects the next one, or ends the way if there is none. -/
theorem follows_advance {s : State} {c : Nat} (e : Event) (hn : n < Word.size64) (hc : c < n)
    (hs : s.candidate? = some c) : Follows policy n s e (advance n c) := by
  rw [advance, Word.add_eq (by omega)]
  split
  · exact .replaced e hs ‹_›
  · exact .exhausted e hs (by omega)

/-- An event does one of the things listed. -/
theorem State.Within.follows (hretries : policy.maxRetries < Word.size32 - 1)
    (hn : n < Word.size64) {s : State} (h : s.Within policy n) (e : Event) :
    Follows policy n s e (transition policy n s e) := by
  cases s with
  | pending =>
      cases e <;> try exact .kept _ _
      show Follows policy n _ _ (if n = 0 then _ else _)
      split
      · exact .deserted ‹_›
      · exact .begun (Nat.pos_of_ne_zero ‹_›)
  | selecting c =>
      cases e <;> try exact .kept _ _
      · exact .planned c
      · exact follows_advance _ hn h rfl
  | calling c k a =>
      cases e <;> try exact .kept _ _
      · exact .counted c k a
      · exact .finished c k a
      · rename_i kind
        cases kind with
        | transient =>
            show Follows policy n _ _ (if a ≤ policy.maxRetries then _ else _)
            split
            · exact .rested c k a ‹_›
            · exact follows_advance _ hn h.1 rfl
        | capability => exact follows_advance _ hn h.1 rfl
  | retrying c k a d =>
      cases e <;> try exact .kept _ _
      have hattempt : Word.add32 a 1 = a + 1 := Word.add32_eq (by have := h.2.2.1; omega)
      show Follows policy n _ _ (.calling c k (Word.add32 a 1))
      rw [hattempt]
      exact .resumed c k a d
  | succeeded c => exact .kept _ _
  | exhausted => exact .kept _ _

/-- States in which a task has ended absorb every event. -/
theorem transition_of_isTerminal {s : State} (h : s.isTerminal = true) (e : Event) :
    transition policy n s e = s := by
  cases s <;> first | rfl | cases h

namespace Follows

variable {s t : State} {e : Event}

theorem within (h : Follows policy n s e t) (hs : s.Within policy n) : t.Within policy n := by
  cases h with
  | kept => exact hs
  | begun h => exact h
  | deserted => exact trivial
  | planned => exact ⟨hs, Nat.le_refl 1, Nat.le_add_left 1 _⟩
  | replaced _ _ h => exact h
  | exhausted => exact trivial
  | counted => exact ⟨hs.1, Nat.le_refl 1, Nat.le_add_left 1 _⟩
  | finished => exact hs.1
  | rested _ _ _ h => exact ⟨hs.1, hs.2.1, h, rfl⟩
  | resumed => exact ⟨hs.1, Nat.le_add_left 1 _, Nat.succ_le_succ hs.2.2.1⟩

/-- An event raises the level by at most one. -/
theorem level_le (h : Follows policy n s e t) :
    s.level n ≤ t.level n ∧ t.level n ≤ s.level n + 1 := by
  cases h with
  | replaced _ hs _ =>
      rw [State.level_of_candidate? hs]
      exact ⟨Nat.le_succ _, Nat.le_refl _⟩
  | exhausted _ hs h =>
      rw [State.level_of_candidate? hs]
      simp only [State.level]
      omega
  | _ => simp only [State.level]; omega

/-- A state of a new level is the selection of a candidate, unless none is left. -/
theorem selecting_of_level_ne (h : Follows policy n s e t) (hne : t.level n ≠ s.level n) :
    t = .exhausted ∨ ∃ c, t = .selecting c := by
  cases h with
  | deserted => exact .inl rfl
  | exhausted => exact .inl rfl
  | begun => exact .inr ⟨_, rfl⟩
  | replaced => exact .inr ⟨_, rfl⟩
  | _ => exact absurd rfl hne

/-- A candidate that is new is selected: the first one at the beginning, and then the one after the
present one. -/
theorem candidate? (h : Follows policy n s e t) {c : Nat} (hc : t.candidate? = some c) :
    s.candidate? = some c ∨
      t = .selecting c ∧ (s = .pending ∧ c = 0 ∨ ∃ c', s.candidate? = some c' ∧ c = c' + 1) := by
  cases h with
  | kept => exact .inl hc
  | begun => cases hc; exact .inr ⟨rfl, .inl ⟨rfl, rfl⟩⟩
  | deserted => cases hc
  | replaced _ hs _ => cases hc; exact .inr ⟨rfl, .inr ⟨_, hs, rfl⟩⟩
  | exhausted => cases hc
  | _ => exact .inl hc

/-- A selected candidate is first met at a chunk when it is called, for the first attempt of the
first one. -/
theorem calling_of_selecting {c k : Nat} (h : Follows policy n (.selecting c) e t)
    (hk : t.chunk? = some k) : t = .calling c 0 1 := by
  cases h with
  | planned => rfl
  | _ => cases hk

/-- While a candidate stays, the chunk stays or is counted on, until the task has ended. -/
theorem chunk? (h : Follows policy n s e t) {k : Nat} (hlevel : t.level n = s.level n)
    (hk : s.chunk? = some k) : t.isTerminal = true ∨ t.chunk? = some k ∨
      e = .chunkDone ∧ t.chunk? = some (Word.add k 1) := by
  cases h with
  | kept => exact .inr (.inl hk)
  | begun => cases hk
  | deserted => cases hk
  | planned => cases hk
  | replaced _ hs _ =>
      rw [State.level_of_candidate? hs] at hlevel
      exact absurd hlevel (Nat.succ_ne_self _)
  | exhausted => exact .inl rfl
  | counted => cases hk; exact .inr (.inr ⟨rfl, rfl⟩)
  | finished => exact .inl rfl
  | rested => exact .inr (.inl hk)
  | resumed => exact .inr (.inl hk)

/-- A chunk is at most one more than the one before, and only if that is done. -/
theorem chunk?_le (h : Follows policy n s e t) {k : Nat} (hk : t.chunk? = some k) :
    k = 0 ∨ ∃ k', s.chunk? = some k' ∧ k ≤ k' + [e].count .chunkDone := by
  cases h with
  | kept => exact .inr ⟨_, hk, Nat.le_add_right _ _⟩
  | begun => cases hk
  | deserted => cases hk
  | planned => cases hk; exact .inl rfl
  | replaced => cases hk
  | exhausted => cases hk
  | counted c k' a => cases hk; exact .inr ⟨k', rfl, Nat.mod_le _ _⟩
  | finished => cases hk
  | rested => exact .inr ⟨_, hk, Nat.le_add_right _ _⟩
  | resumed => exact .inr ⟨_, hk, Nat.le_add_right _ _⟩

end Follows

/-! ## Lists of events -/

theorem stateAfter_append_singleton (events : List Event) (e : Event) :
    stateAfter policy n (events ++ [e]) = transition policy n (stateAfter policy n events) e := by
  rw [stateAfter, List.foldl_append]
  rfl

/-- Once a task has ended, nothing changes any more. -/
theorem stateAfter_append_of_isTerminal {events : List Event}
    (h : (stateAfter policy n events).isTerminal = true) (later : List Event) :
    stateAfter policy n (events ++ later) = stateAfter policy n events := by
  induction later using List.reverseRecOn with
  | nil => rw [List.append_nil]
  | append_singleton later e ih =>
      rw [← List.append_assoc, stateAfter_append_singleton, ih, transition_of_isTerminal h]

section Bounded

variable (hretries : policy.maxRetries < Word.size32 - 1) (hn : n < Word.size64)
include hretries hn

/-- Candidates, attempts and delays are always within their bounds. -/
theorem within_stateAfter (events : List Event) : (stateAfter policy n events).Within policy n := by
  induction events using List.reverseRecOn with
  | nil => exact trivial
  | append_singleton events e ih =>
      rw [stateAfter_append_singleton]
      exact (ih.follows hretries hn e).within ih

/-- What one more event does is listed. -/
theorem follows_stateAfter (events : List Event) (e : Event) :
    Follows policy n (stateAfter policy n events) e (stateAfter policy n (events ++ [e])) := by
  rw [stateAfter_append_singleton]
  exact (within_stateAfter hretries hn events).follows hretries hn e

/-- The level never falls. -/
theorem level_stateAfter_le (events later : List Event) :
    (stateAfter policy n events).level n ≤ (stateAfter policy n (events ++ later)).level n := by
  induction later using List.reverseRecOn with
  | nil => exact Nat.le_of_eq (by rw [List.append_nil])
  | append_singleton later e ih =>
      rw [← List.append_assoc]
      exact Nat.le_trans ih (follows_stateAfter hretries hn (events ++ later) e).level_le.1

/-- Every candidate up to the present level was selected on the way. -/
theorem exists_selecting {events : List Event} {c : Nat} (hc : c < n)
    (hlevel : c + 1 ≤ (stateAfter policy n events).level n) :
    ∃ earlier, earlier <+: events ∧ stateAfter policy n earlier = .selecting c := by
  induction events using List.reverseRecOn with
  | nil => exact absurd hlevel (Nat.not_succ_le_zero c)
  | append_singleton events e ih =>
      have hstep := follows_stateAfter hretries hn events e
      by_cases hbefore : c + 1 ≤ (stateAfter policy n events).level n
      · obtain ⟨earlier, hearlier, hselecting⟩ := ih hbefore
        exact ⟨earlier, hearlier.trans (List.prefix_append events [e]), hselecting⟩
      · -- The level rises just now, so the event has selected the candidate.
        have hle := hstep.level_le.2
        rcases hstep.selecting_of_level_ne (by omega) with hlast | ⟨c', hselecting⟩
        · rw [hlast, State.level] at hle
          omega
        · rw [hselecting, State.level] at hle hlevel
          have hc' : c' = c := by omega
          exact ⟨events ++ [e], List.prefix_rfl, hc' ▸ hselecting⟩

/-- No more chunks are counted than are done. -/
theorem chunk?_stateAfter_le {events : List Event} {k : Nat}
    (hk : (stateAfter policy n events).chunk? = some k) : k ≤ events.count .chunkDone := by
  induction events using List.reverseRecOn generalizing k with
  | nil => cases hk
  | append_singleton events e ih =>
      rw [List.count_append]
      rcases (follows_stateAfter hretries hn events e).chunk?_le hk with hzero | ⟨k', hk', hle⟩
      · omega
      · have := ih hk'
        omega

/-- While a candidate stays, its chunks go forward, as long as their number is a word. -/
theorem chunk?_stateAfter_mono {events later : List Event} {k k' : Nat}
    (hcount : (events ++ later).count .chunkDone < Word.size64)
    (hlevel : (stateAfter policy n (events ++ later)).level n =
      (stateAfter policy n events).level n)
    (hk : (stateAfter policy n events).chunk? = some k)
    (hk' : (stateAfter policy n (events ++ later)).chunk? = some k') : k ≤ k' := by
  induction later generalizing events k with
  | nil =>
      rw [List.append_nil, hk] at hk'
      cases hk'
      exact Nat.le_refl _
  | cons e later ih =>
      have happend : events ++ e :: later = events ++ [e] ++ later := by
        rw [List.append_assoc, List.singleton_append]
      have hstep := follows_stateAfter hretries hn events e
      have hrest := level_stateAfter_le hretries hn (events ++ [e]) later
      rw [happend] at hcount hlevel hk'
      have hsame : (stateAfter policy n (events ++ [e])).level n =
          (stateAfter policy n events).level n := by
        have := hstep.level_le.1
        omega
      rcases hstep.chunk? hsame hk with hterminal | hkept | ⟨rfl, hcounted⟩
      · rw [stateAfter_append_of_isTerminal hterminal, State.chunk?_of_isTerminal hterminal] at hk'
        cases hk'
      · exact ih hcount (by omega) hkept hk'
      · have hnext := ih hcount (by omega) hcounted hk'
        have hle := chunk?_stateAfter_le hretries hn hk
        rw [List.count_append, List.count_append, List.count_singleton_self] at hcount
        rw [Word.add_eq (by omega)] at hnext
        omega

/-- A candidate whose call was refused is left behind. -/
theorem candidate?_ne_of_refused {events : List Event} {c k attempt : Nat}
    (h : stateAfter policy n events = .calling c k attempt) (later : List Event) :
    (stateAfter policy n (events ++ .failed .capability :: later)).candidate? ≠ some c := by
  have hwithin := within_stateAfter hretries hn events
  rw [h] at hwithin
  have hgiven : (stateAfter policy n (events ++ [.failed .capability])).level n = c + 2 := by
    rw [stateAfter_append_singleton, h]
    show (advance n c).level n = c + 2
    rw [advance, Word.add_eq (by have := hwithin.1; omega)]
    split
    · rfl
    · have := hwithin.1
      simp only [State.level]
      omega
  have hle := level_stateAfter_le hretries hn (events ++ [.failed .capability]) later
  rw [List.append_assoc, List.singleton_append, hgiven] at hle
  intro hcandidate
  rw [State.level_of_candidate? hcandidate] at hle
  omega

end Bounded

end Machine

/-- **The state machine stays within its bounds.** After any events: the candidate is one of those
there are, and calls and delays are at an attempt that the policy allows. Candidates go forward one
by one, the first one first, each of them selected and then called at the first attempt of its first
chunk; the chunks of a candidate go forward too, as long as their number is a word. A task that has
ended stays as it is, it is exhausted only after every candidate was selected, and a candidate that
has refused a call is never met again. -/
theorem machine_within_bounds (policy : RetryPolicy)
    (hretries : policy.maxRetries < Word.size32 - 1) (n : Nat) (hn : n < Word.size64)
    (events later : List Event) :
    let after := stateAfter policy n
    (∀ c, (after events).candidate? = some c → c < n) ∧
    (∀ c k attempt, after events = .calling c k attempt →
      1 ≤ attempt ∧ attempt ≤ policy.maxRetries + 1) ∧
    (∀ c k attempt delayMs, after events = .retrying c k attempt delayMs →
      1 ≤ attempt ∧ attempt ≤ policy.maxRetries ∧ delayMs = policy.backoffMs attempt) ∧
    (∀ c c', (after events).candidate? = some c →
      (after (events ++ later)).candidate? = some c' → c ≤ c') ∧
    (∀ e c, (after (events ++ [e])).candidate? = some c →
      (after events).candidate? = some c ∨
        after (events ++ [e]) = .selecting c ∧ (after events = .pending ∧ c = 0 ∨
          ∃ c', (after events).candidate? = some c' ∧ c = c' + 1)) ∧
    (∀ e c k, after events = .selecting c → (after (events ++ [e])).chunk? = some k →
      after (events ++ [e]) = .calling c 0 1) ∧
    (∀ c k k', (after events).candidate? = some c → (after (events ++ later)).candidate? = some c →
      (after events).chunk? = some k → (after (events ++ later)).chunk? = some k' →
      (events ++ later).count .chunkDone < Word.size64 → k ≤ k') ∧
    ((after events).isTerminal = true → after (events ++ later) = after events) ∧
    (after events = .exhausted →
      ∀ c < n, ∃ earlier, earlier <+: events ∧ after earlier = .selecting c) ∧
    (∀ c k attempt, after events = .calling c k attempt →
      (after (events ++ .failed .capability :: later)).candidate? ≠ some c) := by
  intro after
  have hwithin : (after events).Within policy n := within_stateAfter hretries hn events
  have hstep := follows_stateAfter hretries hn events
  have hlater : (after events).level n ≤ (after (events ++ later)).level n :=
    level_stateAfter_le hretries hn events later
  refine ⟨fun c => hwithin.candidate_lt, ?_, ?_, ?_, fun e c => (hstep e).candidate?, ?_, ?_,
    fun h => stateAfter_append_of_isTerminal h later, ?_,
    fun c k attempt h => candidate?_ne_of_refused hretries hn h later⟩
  · intro c k attempt h
    rw [h] at hwithin
    exact hwithin.2
  · intro c k attempt delayMs h
    rw [h] at hwithin
    exact hwithin.2
  · intro c c' hc hc'
    rw [State.level_of_candidate? hc, State.level_of_candidate? hc'] at hlater
    omega
  · intro e c k h hk
    have hcall : Follows policy n (after events) e (after (events ++ [e])) := hstep e
    rw [h] at hcall
    exact hcall.calling_of_selecting hk
  · intro c k k' hc hc' hk hk' hcount
    refine chunk?_stateAfter_mono hretries hn hcount ?_ hk hk'
    rw [State.level_of_candidate? hc, State.level_of_candidate? hc']
  · intro h c hc
    refine exists_selecting hretries hn hc ?_
    show c + 1 ≤ (after events).level n
    rw [h, State.level]
    omega

/-- A task that is told much that makes no sense, and is at the second attempt of its second chunk
when it is refused: it does not meet its first candidate again. -/
theorem muddledEvents_within_bounds :
    let policy : RetryPolicy := ⟨1, 100⟩
    let events : List Event := [.finished, .begin, .backoffElapsed, .planned, .unsuitable,
      .chunkDone, .failed .transient, .planned, .backoffElapsed]
    stateAfter policy 2 events = .calling 0 1 2 ∧ 2 ≤ policy.maxRetries + 1 ∧
      (∃ earlier, earlier <+: events ++ [.failed .capability, .unsuitable] ∧
        stateAfter policy 2 earlier = .selecting 1) ∧
      ∀ later, (stateAfter policy 2 (events ++ .failed .capability :: later)).candidate? ≠
        some 0 := by
  intro policy events
  have hstate : stateAfter policy 2 events = .calling 0 1 2 := rfl
  have hbounds := machine_within_bounds policy (by decide) 2 (by decide)
  obtain ⟨-, hattempt, -⟩ := hbounds events []
  obtain ⟨-, -, -, -, -, -, -, -, hvisited, -⟩ :=
    hbounds (events ++ [.failed .capability, .unsuitable]) []
  refine ⟨hstate, (hattempt 0 1 2 hstate).2, hvisited rfl 1 (by decide), fun later => ?_⟩
  obtain ⟨-, -, -, -, -, -, -, -, -, hrefused⟩ := hbounds events later
  exact hrefused 0 1 2 hstate

end Switchboard.Route
