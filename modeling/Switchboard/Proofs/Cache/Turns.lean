import Switchboard.Number.Word
import Switchboard.Proofs.Cache.Crowd

/-!
# Every lookup comes to an end

A lookup waits for nothing but the build lock, and the lookup that holds the lock never waits. So
in a round in which every lookup gets its turn somebody gets ahead, as long as there is a lookup
without an answer. The steps that all lookups together still have to take are therefore used up
after as many rounds, whatever happens in between and in whichever order the turns come.

## Main results

* `Move.proceeds` — a lookup gets ahead unless it is done or the lock it needs is taken.
* `Crowd.attended_run` — the build lock is taken only while some lookup holds it.
* `Crowd.isDone_of_rounds`, `Crowd.Fair.isDone` — after enough rounds every lookup has its answer.
-/

namespace Switchboard.Cache

open Switchboard.Source (Indexer)

variable {indexer : Indexer} {now : Timestamp} {site last : Site} {lookup next : Lookup}
  {crowd : Crowd} {event : Event} {events round : List Event} {i : Nat}

/-! ## Steps to take -/

/-- The steps that a lookup still has to take to its answer, those of waiting not counted. -/
def Lookup.stepsLeft : Lookup → Nat
  | .fresh => Lookup.length
  | .measured _ => 6
  | .queued _ => 5
  | .holding _ => 4
  | .missed _ => 3
  | .indexing .. => 2
  | .indexed .. => 1
  | .done _ => 0

/-- Whether a lookup cannot get ahead: it is done, or the lock that it needs is taken. -/
def Lookup.isIdle (locked : Bool) : Lookup → Bool
  | .queued _ => locked
  | .done _ => true
  | _ => false

theorem Lookup.stepsLeft_le (lookup : Lookup) : lookup.stepsLeft ≤ Lookup.length := by
  cases lookup <;> simp only [stepsLeft, Lookup.length] <;> decide

theorem Lookup.stepsLeft_eq_zero_iff : lookup.stepsLeft = 0 ↔ lookup.isDone = true := by
  cases lookup <;> simp [stepsLeft, isDone, Lookup.length]

/-- A lookup that holds the lock can always get ahead. -/
theorem Lookup.isHolder_of_isIdle {locked : Bool} (h : lookup.isIdle locked = true) :
    lookup.isHolder = false := by
  cases lookup with
  | queued | done => rfl
  | _ => cases h

/-- Without a lock to wait for, only a lookup that is done cannot get ahead. -/
theorem Lookup.isDone_of_isIdle (h : lookup.isIdle false = true) : lookup.isDone = true := by
  cases lookup with
  | done => rfl
  | _ => cases h

/-- A lookup that takes its turn gets ahead, unless it cannot; then nothing happens. -/
theorem Move.proceeds (h : Move indexer now site lookup last next) :
    next.stepsLeft < lookup.stepsLeft ∨
      last = site ∧ next = lookup ∧ lookup.isIdle site.cache.locked = true := by
  cases h with
  | waits locked => exact .inr ⟨rfl, rfl, locked⟩
  | rests => exact .inr ⟨rfl, rfl, rfl⟩
  | _ => exact .inl (by simp only [Lookup.stepsLeft, Lookup.length]; decide)

namespace Crowd

/-- The steps that all lookups together still have to take. -/
def stepsLeft (crowd : Crowd) : Nat := Word.total (crowd.lookups.map Lookup.stepsLeft)

theorem stepsLeft_le (crowd : Crowd) :
    crowd.stepsLeft ≤ Lookup.length * crowd.lookups.length := by
  obtain ⟨site, lookups⟩ := crowd
  induction lookups with
  | nil => exact Nat.zero_le _
  | cons lookup lookups ih =>
      have hhead := lookup.stepsLeft_le
      simp only [stepsLeft, List.map_cons, Word.total_cons, List.length_cons] at ih ⊢
      rw [Nat.mul_succ]
      omega

/-- Nothing is left to do exactly when every lookup is done. -/
theorem stepsLeft_eq_zero_iff :
    crowd.stepsLeft = 0 ↔ ∀ lookup ∈ crowd.lookups, lookup.isDone = true := by
  obtain ⟨site, lookups⟩ := crowd
  simp only [stepsLeft]
  induction lookups with
  | nil => exact ⟨fun _ => List.forall_mem_nil _, fun _ => rfl⟩
  | cons lookup lookups ih =>
      rw [List.map_cons, Word.total_cons, Nat.add_eq_zero_iff, Lookup.stepsLeft_eq_zero_iff, ih,
        List.forall_mem_cons]

/-- One lookup that gets ahead makes the steps of all fewer. -/
theorem stepsLeft_set_lt (h : crowd.lookups[i]? = some lookup)
    (hless : next.stepsLeft < lookup.stepsLeft) :
    stepsLeft ⟨site, crowd.lookups.set i next⟩ < crowd.stepsLeft := by
  obtain ⟨here, lookups⟩ := crowd
  simp only [stepsLeft] at h ⊢
  induction lookups generalizing i with
  | nil => cases h
  | cons first lookups ih =>
      cases i with
      | zero =>
          cases h
          simpa using hless
      | succ i =>
          have hrest := ih h
          simpa using hrest

/-! ## Rounds -/

/-- The lookup with the given number cannot get ahead. -/
def IsIdle (crowd : Crowd) (i : Nat) : Prop :=
  ∀ lookup, crowd.lookups[i]? = some lookup → lookup.isIdle crowd.site.cache.locked = true

/-- Nobody has moved, and the lock is as it was. -/
def Stands (crowd after : Crowd) : Prop :=
  after.lookups = crowd.lookups ∧ after.site.cache.locked = crowd.site.cache.locked

/-- Only an entry changes the number of lookups. -/
theorem length_perform (h : event ≠ .enter) :
    (event.perform crowd).lookups.length = crowd.lookups.length := by
  have hshift := shift_perform crowd event
  generalize event.perform crowd = after at hshift
  cases hshift with
  | enters => exact absurd rfl h
  | moves => exact List.length_set
  | _ => rfl

theorem length_run (h : .enter ∉ events) :
    (crowd.run events).lookups.length = crowd.lookups.length := by
  induction events generalizing crowd with
  | nil => rfl
  | cons event events ih =>
      rw [List.mem_cons, not_or] at h
      exact (ih h.2).trans (length_perform (Ne.symm h.1))

/-- A turn makes the steps to take fewer, or its lookup cannot get ahead. -/
theorem proceeds_perform (crowd : Crowd) (h : event ≠ .enter) :
    (event.perform crowd).stepsLeft < crowd.stepsLeft ∨
      crowd.Stands (event.perform crowd) ∧
        ∀ i indexer now, event = .advance i indexer now → crowd.IsIdle i := by
  have hshift := shift_perform crowd event
  generalize event.perform crowd = after at hshift
  cases hshift with
  | enters => exact absurd rfl h
  | idles absent =>
      refine .inr ⟨⟨rfl, rfl⟩, ?_⟩
      rintro i indexer now ⟨⟩ lookup hlookup
      cases absent.symm.trans hlookup
  | moves present move =>
      rcases move.proceeds with hless | ⟨rfl, rfl, hidle⟩
      · exact .inl (stepsLeft_set_lt present hless)
      · refine .inr ⟨⟨?_, rfl⟩, ?_⟩
        · obtain ⟨hlt, hget⟩ := List.getElem?_eq_some_iff.mp present
          rw [← hget, List.set_getElem_self]
        · rintro i indexer now ⟨⟩ lookup hlookup
          cases present.symm.trans hlookup
          exact hidle
  | invalidates => exact .inr ⟨⟨rfl, rfl⟩, nofun⟩
  | edits => exact .inr ⟨⟨rfl, rfl⟩, nofun⟩

/-- Some turns make the steps to take fewer, or none of their lookups can get ahead. -/
theorem proceeds_run (crowd : Crowd) (h : .enter ∉ events) :
    (crowd.run events).stepsLeft < crowd.stepsLeft ∨
      crowd.Stands (crowd.run events) ∧
        ∀ i indexer now, .advance i indexer now ∈ events → crowd.IsIdle i := by
  induction events generalizing crowd with
  | nil => exact .inr ⟨⟨rfl, rfl⟩, nofun⟩
  | cons event events ih =>
      rw [List.mem_cons, not_or] at h
      have hrest := ih (event.perform crowd) h.2
      show (Crowd.run (event.perform crowd) events).stepsLeft < _ ∨
        crowd.Stands (Crowd.run (event.perform crowd) events) ∧ _
      rcases proceeds_perform crowd (Ne.symm h.1) with hless | ⟨hstands, hfirst⟩
      · left
        rcases hrest with hlater | ⟨hstill, -⟩
        · exact Nat.lt_trans hlater hless
        · rwa [stepsLeft, hstill.1]
      · have hsame : (event.perform crowd).stepsLeft = crowd.stepsLeft := by
          rw [stepsLeft, hstands.1, stepsLeft]
        rcases hrest with hlater | ⟨hstill, hidle⟩
        · exact .inl (hsame ▸ hlater)
        · refine .inr ⟨⟨hstill.1.trans hstands.1, hstill.2.trans hstands.2⟩, ?_⟩
          intro i indexer now hmem
          rcases List.mem_cons.mp hmem with heq | hmem
          · exact hfirst i indexer now heq.symm
          · have hlater := hidle i indexer now hmem
            rwa [IsIdle, hstands.1, hstands.2] at hlater

/-! ## The lock is never forgotten -/

/-- Whenever the build lock is taken, some lookup holds it. -/
def Attended (crowd : Crowd) : Prop :=
  crowd.site.cache.locked = true → ∃ i, crowd.Has Lookup.isHolder i

theorem Attended.step (h : crowd.Attended) : (event.perform crowd).Attended := by
  have hshift := shift_perform crowd event
  generalize event.perform crowd = after at hshift
  cases hshift with
  | enters =>
      intro hlocked
      obtain ⟨i, hi⟩ := h hlocked
      exact ⟨i, hi.enter⟩
  | idles => exact h
  | invalidates => exact h
  | edits => exact h
  | @moves j indexer now lookup next site present move =>
      intro hlocked
      rcases move.lock_cases with ⟨hsame, hlock⟩ | ⟨-, hholds, -, -⟩ | ⟨-, -, hfree⟩
      · obtain ⟨i, hi⟩ := h (hlock.symm.trans hlocked)
        by_cases hij : i = j
        · subst hij
          obtain ⟨holder, hholder, hholds⟩ := hi
          cases present.symm.trans hholder
          exact ⟨i, has_set_self present (hsame.symm.trans hholds)⟩
        · exact ⟨i, hi.set_of_ne hij⟩
      · exact ⟨j, has_set_self present hholds⟩
      · cases hfree.symm.trans hlocked

theorem Attended.run (h : crowd.Attended) : (crowd.run events).Attended := by
  induction events generalizing crowd with
  | nil => exact h
  | cons event events ih => exact ih h.step

/-- In every run the build lock is taken only while some lookup holds it. -/
theorem attended_run (hfree : site.cache.locked = false) (events : List Event) :
    (Crowd.run ⟨site, []⟩ events).Attended :=
  Attended.run fun hlocked => absurd (hfree.symm.trans hlocked) Bool.false_ne_true

/-- If no lookup can get ahead, every lookup is done: a holder of the lock could. -/
theorem Attended.isDone_of_isIdle (h : crowd.Attended)
    (hidle : ∀ i < crowd.lookups.length, crowd.IsIdle i) :
    ∀ lookup ∈ crowd.lookups, lookup.isDone = true := by
  intro lookup hlookup
  obtain ⟨i, hi, hget⟩ := List.mem_iff_getElem.mp hlookup
  have hthis := hidle i hi lookup (List.getElem?_eq_some_iff.mpr ⟨hi, hget⟩)
  cases hlocked : crowd.site.cache.locked with
  | false =>
      rw [hlocked] at hthis
      exact Lookup.isDone_of_isIdle hthis
  | true =>
      obtain ⟨j, holder, hholder, hholds⟩ := h hlocked
      have hj := (List.getElem?_eq_some_iff.mp hholder).1
      cases (Lookup.isHolder_of_isIdle (hidle j hj holder hholder)).symm.trans hholds

/-! ## Whole schedules -/

/-- Each of the first lookups gets a turn, and no lookup begins. -/
structure IsRound (count : Nat) (round : List Event) : Prop where
  closed : .enter ∉ round
  turns : ∀ i < count, ∃ indexer now, .advance i indexer now ∈ round

/-- A round takes at least one of the steps to take. -/
theorem Attended.stepsLeft_round (h : crowd.Attended)
    (hround : IsRound crowd.lookups.length round) :
    (crowd.run round).stepsLeft ≤ crowd.stepsLeft - 1 := by
  rcases proceeds_run crowd hround.closed with hless | ⟨hstands, hidle⟩
  · omega
  · have hdone : crowd.stepsLeft = 0 := by
      rw [stepsLeft_eq_zero_iff]
      refine h.isDone_of_isIdle fun i hi => ?_
      obtain ⟨indexer, now, hmem⟩ := hround.turns i hi
      exact hidle i indexer now hmem
    rw [stepsLeft, hstands.1]
    show crowd.stepsLeft ≤ _
    omega

/-- After as many rounds as there are steps to take, every lookup has its answer. -/
theorem isDone_of_rounds {rounds : List (List Event)} (h : crowd.Attended)
    (hrounds : ∀ round ∈ rounds, IsRound crowd.lookups.length round)
    (hlong : crowd.stepsLeft ≤ rounds.length) :
    ∀ lookup ∈ (crowd.run rounds.flatten).lookups, lookup.isDone = true := by
  induction rounds generalizing crowd with
  | nil => exact stepsLeft_eq_zero_iff.mp (Nat.le_zero.mp hlong)
  | cons round rounds ih =>
      have hround := hrounds round List.mem_cons_self
      have hless := h.stepsLeft_round hround
      rw [List.flatten_cons, run_append]
      refine ih h.run (fun other hother => ?_) ?_
      · rw [length_run hround.closed]
        exact hrounds other (List.mem_cons_of_mem round hother)
      · rw [List.length_cons] at hlong
        omega

/-- A run that ends with as many rounds as its lookups may have steps to take. -/
def Fair (start : Crowd) (events : List Event) : Prop :=
  ∃ (before : List Event) (rounds : List (List Event)), events = before ++ rounds.flatten ∧
    (∀ round ∈ rounds, IsRound (start.run events).lookups.length round) ∧
    Lookup.length * (start.run events).lookups.length ≤ rounds.length

/-- At the end of a fair run every lookup has its answer. -/
theorem Fair.isDone (h : Fair ⟨site, []⟩ events) (hfree : site.cache.locked = false) :
    ∀ lookup ∈ (Crowd.run ⟨site, []⟩ events).lookups, lookup.isDone = true := by
  obtain ⟨before, rounds, rfl, hrounds, hlong⟩ := h
  have hclosed : .enter ∉ rounds.flatten := by
    intro henter
    obtain ⟨round, hround, henter⟩ := List.mem_flatten.mp henter
    exact (hrounds round hround).closed henter
  rw [run_append, length_run hclosed] at hrounds hlong
  rw [run_append]
  exact isDone_of_rounds (attended_run hfree before) hrounds (Nat.le_trans (stepsLeft_le _) hlong)

end Crowd

end Switchboard.Cache
