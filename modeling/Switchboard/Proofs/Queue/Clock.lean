import Switchboard.Queue.Shift

/-!
# The clock of a shift

A step of a shift does what can be done at the moment, or else lets the clock move to a moment at
which something can be done. So a shift in which everything that is done leaves less to do comes to
its end, and at most every second of its steps is one of the clock. `run_of_tasks` says so for any
count of what there is to do.

## Main results

* `Shift.works_of_work?`, `Shift.step_cases` — what a step can do.
* `Shift.step_of_stirs`, `Shift.step_of_still` — what a step does.
* `Shift.stirs_of_nextMs` — the clock moves to a moment at which something can be done.
* `Shift.run_of_tasks` — a shift with enough steps comes to its end.
-/

namespace Switchboard.Queue.Shift

variable {σ : Type} {backends : Backends σ} {shift : Shift σ}

/-- What workers and the one who hands out their tasks can do at a moment. -/
inductive Works (backends : Backends σ) (shift : Shift σ) : Shift σ → Prop where
  | advance {worker : Worker} (mem : worker ∈ shift.workers) :
      Works backends shift (shift.advance backends worker)
  | settle {id : String} {ending : Route.Ending} {rest : List (String × Route.Ending)}
      (ended : shift.ended = (id, ending) :: rest) :
      Works backends shift (shift.settleOne id ending rest)
  | look (ended : shift.ended = []) (awake : shift.awake = true)
      (unfinished : shift.finishedMs = none) : Works backends shift shift.lookAtQueue

theorem works_of_work? {next : Shift σ} (h : shift.work? backends = some next) :
    Works backends shift next := by
  unfold work? at h
  split at h
  next worker hready =>
    cases h
    exact .advance (List.mem_of_find?_eq_some hready)
  next =>
    split at h
    next id ending rest hended =>
      cases h
      exact .settle hended
    next hended =>
      split at h
      next hlook =>
        cases h
        rw [Bool.and_eq_true, Option.isNone_iff_eq_none] at hlook
        exact .look hended hlook.1 hlook.2
      next => cases h

/-- Whether something can be done at this moment. -/
def stirs (backends : Backends σ) (shift : Shift σ) : Bool :=
  (shift.work? backends).isSome || shift.operate?.isSome

/-- One while the queue has to be looked at. -/
def look (shift : Shift σ) : Nat := if shift.awake && shift.finishedMs.isNone then 1 else 0

theorem look_le_one (shift : Shift σ) : shift.look ≤ 1 := by
  unfold look
  split <;> omega

theorem stirs_of_ready {worker : Worker} (hmem : worker ∈ shift.workers)
    (hready : shift.isReady worker) : shift.stirs backends := by
  obtain ⟨found, hfound⟩ := Option.isSome_iff_exists.mp
    (List.find?_isSome.mpr ⟨worker, hmem, hready⟩)
  simp [stirs, work?, hfound]

/-- The moment to which the clock moves is one at which something can be done. -/
theorem stirs_of_nextMs {ms : Nat} (h : shift.nextMs? = some ms) :
    stirs backends { shift with clockMs := ms } := by
  have hmem := List.min?_mem h
  rcases List.mem_append.mp hmem with hdue | hcoming
  · obtain ⟨worker, hworker, hdue⟩ := List.mem_filterMap.mp hdue
    have hready : isReady { shift with clockMs := ms } worker := by
      unfold Worker.due? at hdue
      split at hdue
      next due play hwaiting =>
        cases hdue
        simp [isReady, hwaiting]
      next due hwaiting =>
        cases hdue
        simp [isReady, hwaiting]
      next => cases hdue
    exact stirs_of_ready hworker hready
  · cases hincoming : shift.incoming with
    | nil => simp [hincoming] at hcoming
    | cons entry rest =>
        simp only [hincoming, List.head?_cons, Option.map_some, Option.mem_toList] at hcoming
        have hdue : entry.1 = ms := Option.some.inj hcoming
        simp [stirs, operate?, hdue]

/-- A step does what can be done. -/
theorem step_of_stirs (hstirs : shift.stirs backends) :
    ∃ next, shift.step backends = some next ∧
      (shift.work? backends = some next ∨ shift.operate? = some next) := by
  unfold stirs at hstirs
  unfold step
  cases hwork : shift.work? backends with
  | none =>
      cases hoperate : shift.operate? with
      | none => simp [hwork, hoperate] at hstirs
      | some operated => exact ⟨operated, by split <;> rfl, .inr rfl⟩
  | some worked =>
      cases hoperate : shift.operate? with
      | none => exact ⟨worked, by split <;> rfl, .inl rfl⟩
      | some operated =>
          split
          · exact ⟨worked, rfl, .inl rfl⟩
          · exact ⟨operated, rfl, .inr rfl⟩

/-- A step in which nothing can be done moves the clock. -/
theorem step_of_still (hstirs : shift.stirs backends = false) :
    shift.step backends = shift.nextMs?.map fun ms => { shift with clockMs := ms } := by
  simp only [stirs, Bool.or_eq_false_iff, Option.isSome_eq_false_iff, Option.isNone_iff_eq_none]
    at hstirs
  simp only [step, hstirs.1, hstirs.2, Option.none_or, ite_self]

/-- A step is one of the work, one of an operation, or one of the clock. -/
theorem step_cases {next : Shift σ} (h : shift.step backends = some next) :
    Works backends shift next ∨ shift.operate? = some next ∨
      ∃ ms, next = { shift with clockMs := ms } := by
  cases hstirs : shift.stirs backends with
  | true =>
      obtain ⟨done, hdone, hwork | hoperate⟩ := step_of_stirs hstirs
      · obtain rfl := Option.some.inj (hdone.symm.trans h)
        exact .inl (works_of_work? hwork)
      · obtain rfl := Option.some.inj (hdone.symm.trans h)
        exact .inr (.inl hoperate)
  | false =>
      rw [step_of_still hstirs, Option.map_eq_some_iff] at h
      obtain ⟨ms, -, rfl⟩ := h
      exact .inr (.inr ⟨ms, rfl⟩)

/-- A shift with enough steps comes to its end: at most every second of them moves the clock, and
the others leave less to do. `Counts` bounds what there is to do besides moving the clock. -/
theorem run_of_tasks (Counts : Shift σ → Nat → Prop) {Over : Shift σ → Prop}
    (hstep : ∀ {shift tasks next}, Counts shift tasks →
      (shift.work? backends = some next ∨ shift.operate? = some next) →
        ∃ fewer < tasks, Counts next fewer)
    (hclock : ∀ {shift tasks} ms, Counts shift tasks → Counts { shift with clockMs := ms } tasks)
    (hover : ∀ {shift tasks}, Counts shift tasks → shift.stirs backends = false →
      shift.nextMs? = none → Over shift)
    {fuel tasks : Nat} (h : Counts shift tasks)
    (hfuel : 2 * tasks + (if shift.stirs backends then 0 else 1) ≤ fuel) :
    Over (run backends fuel shift) := by
  induction fuel generalizing shift tasks with
  | zero =>
      cases hstirs : shift.stirs backends with
      | true =>
          obtain ⟨next, -, hdone⟩ := step_of_stirs hstirs
          obtain ⟨fewer, hfewer, -⟩ := hstep h hdone
          omega
      | false =>
          rw [hstirs] at hfuel
          simp at hfuel
  | succ fuel ih =>
      rw [run]
      cases hstirs : shift.stirs backends with
      | true =>
          obtain ⟨next, hnext, hdone⟩ := step_of_stirs hstirs
          obtain ⟨fewer, hfewer, hcounts⟩ := hstep h hdone
          rw [hstirs] at hfuel
          rw [hnext]
          refine ih hcounts ?_
          split <;> simp only [if_true] at hfuel <;> omega
      | false =>
          rw [hstirs] at hfuel
          rw [step_of_still hstirs]
          cases hms : shift.nextMs? with
          | none => exact hover h hstirs hms
          | some ms =>
              have hstirs' : stirs backends { shift with clockMs := ms } := stirs_of_nextMs hms
              refine ih (hclock ms h) ?_
              rw [hstirs']
              simp only [Bool.false_eq_true, if_false] at hfuel
              simp only [if_true]
              omega

end Switchboard.Queue.Shift
