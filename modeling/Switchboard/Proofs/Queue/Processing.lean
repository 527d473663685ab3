import Switchboard.Proofs.Queue.Completion
import Switchboard.Proofs.Queue.Dispatch

/-!
# Processing does not depend on the order of the work

Where the outcome of a task depends on its own request alone, working off a queue comes to the same
end in every order and with any number of workers: each task that was pending has its plan and what
its own run gave, every other slot is as it was, and the report names the tasks in the order of the
queue.

This is shown of every dispatch of the queue, and the shift that the program carries out is one of
them: whenever it looks at its queue, hands a task to a worker or settles one, a dispatch takes the
same steps with the same permits.

## Main results

* `Shift.Imitates.run` — a shift is a dispatch of its queue.
* `processing_is_confluent` — every order of the work comes to the same end.
-/

namespace Switchboard.Queue

open Switchboard.Route (Request Ending Settings Attempt)

/-! ## Queues that were worked off -/

/-- Queue `q` was worked off, each task with the outcome of its own request. -/
structure WorkedOff (settings : Settings) (outcome : Request → Ending) (q last : Queue)
    (report : WorkReport) : Prop where
  /-- Each task that was pending has its plan and what its run gave; no other slot was changed. -/
  slots : last.slots = q.slots.map (Slot.worked settings outcome)
  /-- No task was left in flight. -/
  inFlight : ∀ slot ∈ last.slots, slot.task.status = .inFlight → slot ∈ q.slots
  /-- The tasks that were pending are reported in their order. -/
  order : report.tasks.map (·.taskId) = q.pendingIds
  /-- Each is reported as it is now. -/
  report : report = ⟨false, (q.slots.filter (·.task.status = .pending)).filterMap fun slot =>
    (slot.worked settings outcome).task.report?⟩

/-- When nothing is left to do on a floor, its queue was worked off. -/
theorem Floor.Staged.workedOff {settings : Settings} {held : Request → Ending → Prop}
    {outcome : Request → Ending} {q : Queue} {stage : String → Stage} {floor : Floor}
    (h : Staged settings held q stage floor) (hids : q.ids.Nodup) (hrest : floor.AtRest)
    (houtcome : ∀ slot ∈ q.slots, ∀ ending,
      held slot.task.request ending → ending = outcome slot.task.request) :
    WorkedOff settings outcome q floor.queue (floor.queue.report floor.claimed) := by
  have hslots := h.worked hrest houtcome
  have hreport := report_worked hids hslots
  rw [h.claimed_of_atRest hrest]
  refine ⟨hslots, fun slot hslot hflight => ?_, ?_, hreport⟩
  · rw [hslots] at hslot
    obtain ⟨old, hold, rfl⟩ := List.mem_map.mp hslot
    rw [Slot.worked_of_inFlight hflight]
    exact hold
  · rw [hreport]
    exact report_worked_ids q settings outcome

/-- A dispatch that is over has worked off its queue. -/
theorem Dispatch.Sound.workedOff {settings : Settings} {held : Request → Ending → Prop}
    {outcome : Request → Ending} {q : Queue} {total : Nat} {d : Dispatch}
    (h : Sound settings held q total d) (hids : q.ids.Nodup) (hover : d.phase = .closed)
    (houtcome : ∀ slot ∈ q.slots, ∀ ending,
      held slot.task.request ending → ending = outcome slot.task.request) :
    WorkedOff settings outcome q d.queue (d.queue.report d.claimed) := by
  obtain ⟨stage, hstaged⟩ := Floor.staged_of_moves hids h.moves
  exact hstaged.workedOff hids (h.atRest hids hover) houtcome

/-! ## A shift is a dispatch -/

namespace Dispatch

variable {settings : Settings} {outcome other : Request → Ending → Prop} {first d : Dispatch}
  {n : Nat}

/-- More outcomes allow for more runs. -/
theorem Run.mono (himp : ∀ request ending, outcome request ending → other request ending)
    (h : Run settings outcome first n d) : Run settings other first n d := by
  induction h with
  | refl => exact .refl
  | tail _ hstep ih =>
      refine ih.tail ?_
      cases hstep with
      | acquire hphase hpermits => exact .acquire hphase hpermits
      | claim hphase hclaim => exact .claim hphase hclaim
      | plan hphase => exact .plan hphase
      | hand hphase => exact .hand hphase
      | rest hphase hclaim => exact .rest hphase hclaim
      | join hphase hdone => exact .join hphase hdone
      | close hphase hdone herrands => exact .close hphase hdone herrands
      | stop herrands hending => exact .stop herrands (himp _ _ hending)
      | settle herrands => exact .settle herrands

/-- When nothing is pending, the hand looks with a permit, which it gives back. -/
theorem Run.rests (h : Run settings outcome first n d) (hphase : d.phase = .waiting)
    (hpermits : 0 < d.permits) (hclaim : d.queue.claim = none) :
    Run settings outcome first (n + 2) { d with phase := .joining } := by
  obtain ⟨permits, hfree⟩ := Nat.exists_eq_add_one_of_ne_zero hpermits.ne'
  have hrest := (h.tail (.acquire hphase hfree)).tail (.rest rfl hclaim)
  rwa [← hfree] at hrest

/-- When nothing is pending and all workers are done, the hand has only to see it. -/
theorem Run.closes (h : Run settings outcome first n d) (hphase : d.phase = .waiting)
    (hpermits : 0 < d.permits) (herrands : d.errands = []) (hclaim : d.queue.claim = none) :
    ∃ m last, Run settings outcome first m last ∧ last.phase = .closed ∧ last.queue = d.queue ∧
      last.claimed = d.claimed := by
  -- The hand looks once for each worker that is done, and once more when none is left.
  induction hdone : d.done generalizing n d with
  | zero =>
      have hrest := h.rests hphase hpermits hclaim
      exact ⟨_, _, hrest.tail (.close rfl hdone herrands), rfl, rfl, rfl⟩
  | succ done ih =>
      have hjoin := (h.rests hphase hpermits hclaim).tail (.join rfl hdone)
      have hcloses := ih hjoin rfl hpermits herrands hclaim rfl
      exact hcloses

end Dispatch

namespace Shift

variable {σ : Type}

/-- How the runs of a shift have ended so far. -/
def Recorded (shift : Shift σ) (request : Request) (ending : Ending) : Prop :=
  (request.taskId, ending) ∈ shift.endings

/-- A dispatch stands where the shift does: its hand waits for a permit, and its workers are those
of the shift, the runs that the shift has still to settle being under way. -/
structure Mirrors (q : Queue) (shift : Shift σ) (d : Dispatch) : Prop where
  phase : d.phase = .waiting
  permits : d.permits = shift.permits
  underWay : ∀ errand ∈ d.errands, errand.ending = none
  enacts : shift.Enacts (d.floor q)

/-- The shift has done what some dispatch of queue `q` with that many workers has done. -/
structure Imitates (q : Queue) (workers : Nat) (shift : Shift σ) : Prop where
  dispatch : ∃ n d, Dispatch.Run shift.settings shift.Recorded (.start q workers) n d ∧
    shift.Mirrors q d
  ended : ∀ entry ∈ shift.ended, entry ∈ shift.endings

section Imitates

variable {q : Queue} {workers : Nat} {shift : Shift σ}

/-- A shift that has not begun stands where the dispatch begins. -/
theorem Unbegun.imitates (h : Unbegun shift)
    (hpermits : shift.permits = min (max workers 1) maxWorkers) :
    Imitates shift.queue workers shift where
  dispatch := by
    refine ⟨0, _, .refl, rfl, hpermits.symm, fun _ h => absurd h List.not_mem_nil, rfl,
      h.claimed.symm, rfl, ?_⟩
    rw [h.workers, h.ended]
    exact .refl []
  ended := by
    intro entry hentry
    rw [h.ended] at hentry
    exact absurd hentry List.not_mem_nil

/-- Another shift with the same endings, permits and floor imitates the same dispatch. -/
theorem Imitates.congr {other : Shift σ} (h : Imitates q workers shift)
    (hsettings : other.settings = shift.settings) (hpermits : other.permits = shift.permits)
    (hendings : other.endings = shift.endings)
    (hended : ∀ entry ∈ other.ended, entry ∈ shift.endings)
    (hfloor : ∀ floor, shift.Enacts floor → other.Enacts floor) : Imitates q workers other where
  dispatch := by
    obtain ⟨n, d, hrun, hmirrors⟩ := h.dispatch
    have hrecorded : other.Recorded = shift.Recorded := by
      unfold Recorded
      rw [hendings]
    refine ⟨n, d, hsettings ▸ hrecorded ▸ hrun, hmirrors.phase, ?_, hmirrors.underWay,
      hfloor _ hmirrors.enacts⟩
    rw [hpermits]
    exact hmirrors.permits
  ended := by
    rw [hendings]
    exact hended

/-- The dispatch takes the same steps when a run that has ended is settled: its run ends, and its
worker settles it. -/
theorem Imitates.settleOne (h : Imitates q workers shift) {id : String} {ending : Ending}
    {rest : List (String × Ending)} (hended : shift.ended = (id, ending) :: rest) :
    Imitates q workers (shift.settleOne id ending rest) where
  dispatch := by
    obtain ⟨n, d, hrun, hmirrors⟩ := h.dispatch
    obtain ⟨request, before, after, hheld, hid, henacts⟩ := hmirrors.enacts.settleOne hended
    have hrecorded : shift.Recorded request ending := by
      show (request.taskId, ending) ∈ shift.endings
      rw [hid]
      exact h.ended _ (hended ▸ List.mem_cons_self)
    have hrequests : d.errands.map (·.request) = before ++ request :: after := by
      simpa [Dispatch.floor, hmirrors.phase, Phase.planned] using hheld
    obtain ⟨first, others, herrands, rfl, hothers⟩ := List.map_eq_append_iff.mp hrequests
    obtain ⟨errand, last, rfl, rfl, rfl⟩ := List.map_eq_cons_iff.mp hothers
    have hnone : errand.ending = none :=
      hmirrors.underWay errand (herrands ▸ List.mem_append_right _ List.mem_cons_self)
    have hsplit : d.errands = first ++ ⟨errand.request, none⟩ :: last := by
      rw [herrands, ← hnone]
    have hsettled := (hrun.tail (.stop hsplit hrecorded)).tail (.settle rfl)
    refine ⟨_, _, hsettled, hmirrors.phase, ?_, ?_, ?_⟩
    · show d.permits + 1 = shift.permits + 1
      rw [hmirrors.permits]
    · intro other hother
      refine hmirrors.underWay other ?_
      rw [hsplit]
      rcases List.mem_append.mp hother with hother | hother
      · exact List.mem_append_left _ hother
      · exact List.mem_append_right _ (List.mem_cons_of_mem _ hother)
    · simpa [Dispatch.floor, hmirrors.phase, Phase.planned] using henacts
  ended := fun entry hentry => h.ended entry (hended ▸ List.mem_cons_of_mem _ hentry)

/-- The dispatch takes the same steps when a task is claimed: its hand acquires a permit, claims the
task, plans it and hands it to a worker. -/
theorem Imitates.claimOne (h : Imitates q workers shift) {queue : Queue} {slot : Slot}
    (hclaim : shift.queue.claim = some (queue, slot)) {permits : Nat}
    (hpermits : shift.permits = permits + 1) (events : List Progress) :
    Imitates q workers { shift with
      queue := queue.setPlan slot.task.id (slot.task.request.job shift.settings).plan
      permits
      claimed := shift.claimed ++ [slot.task.id]
      events
      workers := shift.workers ++
        [{ serial := slot.serial, job := slot.task.request.job shift.settings }] } where
  dispatch := by
    obtain ⟨n, d, hrun, hmirrors⟩ := h.dispatch
    have hclaim : d.queue.claim = some (queue, slot) :=
      (congrArg Queue.claim hmirrors.enacts.queue).trans hclaim
    have hclaimed := (hrun.tail (.acquire hmirrors.phase (hmirrors.permits.trans hpermits))).tail
      (.claim rfl hclaim)
    have hhanded := (hclaimed.tail (.plan rfl)).tail (.hand rfl)
    refine ⟨_, _, hhanded, rfl, rfl, ?_, ?_⟩
    · intro errand herrand
      rcases List.mem_append.mp herrand with herrand | herrand
      · exact hmirrors.underWay errand herrand
      · rw [List.mem_singleton.mp herrand]
    · have henacts := hmirrors.enacts.claimOne queue slot permits events
      have hid : slot.task.request.taskId = slot.task.id := rfl
      simpa [Dispatch.floor, hmirrors.phase, Phase.planned, Phase.unplanned, hid] using henacts
  ended := h.ended

/-- The dispatch takes the same steps when as many tasks are claimed as there are permits. -/
theorem Imitates.claimTasks (h : Imitates q workers shift) {permits : Nat}
    (hpermits : shift.permits = permits) : Imitates q workers (claimTasks permits shift) := by
  induction permits generalizing shift with
  | zero => exact h
  | succ permits ih =>
      cases hclaim : shift.queue.claim with
      | none => simpa only [Shift.claimTasks, hclaim] using h
      | some found =>
          obtain ⟨queue, slot⟩ := found
          simp only [Shift.claimTasks, hclaim]
          exact ih (h.claimOne hclaim hpermits _) rfl

theorem Imitates.lookAtQueue (h : Imitates q workers shift) :
    Imitates q workers shift.lookAtQueue :=
  (h.claimTasks rfl).congr rfl rfl rfl (h.claimTasks rfl).ended
    fun _ henacts => ⟨henacts.queue, henacts.claimed, henacts.unplanned, henacts.running⟩

section Steps

variable {settings : Settings} (hids : q.ids.Nodup) (hnumbered : q.Numbered)
  {backends : Backends σ} (hcalm : Calm backends) {next : Shift σ}

/-- The run of a worker ends. -/
theorem Imitates.endWorker (h : Imitates q workers shift)
    (hserials : (shift.workers.map (·.serial)).Nodup) {worker : Worker}
    (hmem : worker ∈ shift.workers) (ending : Ending) :
    Imitates q workers (shift.endWorker worker ending) where
  dispatch := by
    obtain ⟨n, d, hrun, hmirrors⟩ := h.dispatch
    have hmore : ∀ request ending', shift.Recorded request ending' →
        (shift.endWorker worker ending).Recorded request ending' :=
      fun _ _ hrecorded => List.mem_append_left _ hrecorded
    exact ⟨n, d, hrun.mono hmore, hmirrors.phase, hmirrors.permits, hmirrors.underWay,
      hmirrors.enacts.endWorker hserials hmem ending⟩
  ended := by
    intro entry hentry
    rcases List.mem_append.mp hentry with hentry | hentry
    · exact List.mem_append_left _ (h.ended entry hentry)
    · exact List.mem_append_right _ hentry

theorem Imitates.aside (h : Imitates q workers shift) {other : Shift σ}
    (haside : Aside shift other) : Imitates q workers other := by
  have hfloor : ∀ floor, shift.Enacts floor → other.Enacts floor :=
    fun _ henacts => henacts.aside haside
  obtain ⟨state, calls, log, clockMs, rfl⟩ := haside
  exact h.congr rfl rfl rfl h.ended hfloor

include hids hnumbered

theorem Imitates.drifts (h : Imitates q workers shift) (hcrew : Crew settings q shift)
    {worker : Worker} (hmem : worker ∈ shift.workers) (hdrifts : Drifts shift worker next) :
    Imitates q workers next := by
  cases hdrifts with
  | same haside => exact h.aside haside
  | waiting haside =>
      have hserials := (hcrew.aside haside).serials hids hnumbered
      have hmem := haside.workers_eq ▸ hmem
      exact (h.aside haside).congr rfl rfl rfl (h.aside haside).ended
        fun _ henacts => henacts.putWorker hserials hmem _ _
  | ended haside =>
      have hserials := (hcrew.aside haside).serials hids hnumbered
      exact (h.aside haside).endWorker hserials (haside.workers_eq ▸ hmem) _

include hcalm

theorem Imitates.work (h : Imitates q workers shift) (hcrew : Crew settings q shift)
    (hwork : Works backends shift next) : Imitates q workers next := by
  cases hwork with
  | advance mem =>
      exact h.drifts hids hnumbered hcrew mem (drifts_advance hcalm (hcrew.workers _ mem).1)
  | settle ended => exact h.settleOne ended
  | look => exact h.lookAtQueue

/-- Whatever a shift does in a step, a dispatch can do. -/
theorem Imitates.step (h : Imitates q workers shift) (hcrew : Crew settings q shift)
    (hstep : shift.step backends = some next) : Imitates q workers next := by
  rcases step_cases hstep with hwork | hoperate | ⟨ms, rfl⟩
  · exact h.work hids hnumbered hcalm hcrew hwork
  · rw [hcrew.operate?_eq_none] at hoperate
    cases hoperate
  · exact h.aside ⟨_, _, _, ms, rfl⟩

theorem Imitates.run (h : Imitates q workers shift) (hcrew : Crew settings q shift) (fuel : Nat) :
    Imitates q workers (run backends fuel shift) := by
  induction fuel generalizing shift with
  | zero => exact h
  | succ fuel ih =>
      rw [Shift.run]
      split
      next => exact h
      next next hnext =>
        exact ih (h.step hids hnumbered hcalm hcrew hnext) (hcrew.step hids hnumbered hcalm hnext)

end Steps

end Imitates

/-- The one run of a task ended as recorded. -/
theorem endingOf_of_mem {shift : Shift σ} {id : String} {ending : Ending}
    (hnodup : (shift.endings.map (·.1)).Nodup) (hmem : (id, ending) ∈ shift.endings) :
    shift.endingOf id = some ending := by
  obtain ⟨found, hfound⟩ : ∃ found, shift.endings.find? (·.1 = id) = some found :=
    Option.isSome_iff_exists.mp (List.find?_isSome.mpr ⟨_, hmem, decide_eq_true rfl⟩)
  have hid : found.1 = id := by simpa using List.find?_some hfound
  have hsame := List.inj_on_of_nodup_map hnodup (List.mem_of_find?_eq_some hfound) hmem hid
  rw [endingOf, hfound, hsame]
  rfl

/-- A shift that is over has worked off its queue, if every run ended with the outcome of its
request. -/
theorem Imitates.workedOff {q : Queue} {workers : Nat} {shift : Shift σ} {settings : Settings}
    {outcome : Request → Ending} (h : Imitates q workers shift) (hcrew : Crew settings q shift)
    (hids : q.ids.Nodup) (hfinished : shift.finishedMs.isSome = true)
    (houtcome : ∀ slot ∈ q.slots, ∀ ending, (slot.task.id, ending) ∈ shift.endings →
      ending = outcome slot.task.request) :
    WorkedOff settings outcome q shift.queue (shift.queue.report shift.claimed) := by
  obtain ⟨n, d, hrun, hmirrors⟩ := h.dispatch
  obtain ⟨hworkers, hended, hpending⟩ := hcrew.finished hfinished
  have hqueue : d.queue = shift.queue := hmirrors.enacts.queue
  have herrands : d.errands = [] := by
    have hrunning := hmirrors.enacts.running
    rw [hworkers, hended] at hrunning
    have hnone := List.map_eq_nil_iff.mp hrunning.eq_nil
    exact List.map_eq_nil_iff.mp (List.append_eq_nil_iff.mp hnone).1
  have hpermits : 0 < d.permits := by
    have hstaffed := hcrew.staffed
    rw [hworkers, hended] at hstaffed
    rw [hmirrors.permits]
    exact hstaffed
  have hclaim : d.queue.claim = none := by
    rw [hqueue]
    exact claim_eq_none_iff.mpr hpending
  obtain ⟨m, last, hlast, hover, hlastQueue, hlastClaimed⟩ :=
    hrun.closes hmirrors.phase hpermits herrands hclaim
  have hworked := (Dispatch.sound_of_run hids hlast).workedOff hids hover houtcome
  rw [hlastQueue, hlastClaimed, hqueue, hcrew.settings_eq] at hworked
  rw [← hmirrors.enacts.claimed]
  exact hworked

end Shift

/-! ## Every order of the work -/

/-- For every queue of tasks with distinct ids, every number of workers and every outcome that
depends on the request of a task alone. However the steps of a dispatch are ordered, it takes a
bounded number of them, can go on as long as it is not over, and has worked off its queue when it
is: the same slots and the same report, whatever the order and the number of workers. Processing is
one of these orders; where the backends answer every call it comes to its end. -/
theorem processing_is_confluent (settings : Settings) (outcome : Request → Ending) (q : Queue)
    (hids : q.ids.Nodup) (workers : Nat) :
    (∀ n d, Dispatch.Run settings (fun request ending => ending = outcome request)
        (.start q workers) n d →
      n ≤ 9 * q.pendingIds.length + 3 ∧
      (d.phase ≠ .closed → ∃ next,
        Dispatch.Step settings (fun request ending => ending = outcome request) d next) ∧
      (d.phase = .closed → WorkedOff settings outcome q d.queue (d.queue.report d.claimed))) ∧
    ∀ {σ : Type} (writeDown : Attempt → σ → Except String σ) (backends : Backends σ) (state : σ)
      (start : Timestamp) (log : List Attempt), Calm backends → q.Numbered →
      let shift := workOffWritten writeDown backends state settings start q log workers []
      let work := process writeDown backends state settings start q log false workers
      (work.finishedMs.isSome = true →
        (∀ slot ∈ q.slots, ∀ ending, (slot.task.id, ending) ∈ shift.endings →
          ending = outcome slot.task.request) →
        WorkedOff settings outcome q work.queue work.report) ∧
      (Answering backends → settings.policy.maxRetries + 1 < Word.size32 →
        (∀ slot ∈ q.slots, slot.task.request.Addressable) → work.finishedMs.isSome = true) := by
  refine ⟨fun n d hrun => ?_, fun writeDown backends state start log hcalm hnumbered => ?_⟩
  · have hsound := Dispatch.sound_of_run hids hrun
    have hbound := Dispatch.length_add_effort_le hids hrun
    have htotal : 0 < min (max workers 1) maxWorkers := by
      simp only [maxWorkers]
      omega
    refine ⟨by omega, hsound.exists_step htotal fun request => ⟨_, rfl⟩, fun hover => ?_⟩
    exact hsound.workedOff hids hover fun _ _ _ hending => hending
  · intro shift work
    have hbegun := Shift.unbegun_ofQueue writeDown state settings start q log workers
    have hcrew : Shift.Crew settings q shift := hbegun.crew.run hids hnumbered hcalm _
    have himitates : Shift.Imitates q workers shift :=
      (hbegun.imitates rfl).run hids hnumbered hcalm hbegun.crew _
    refine ⟨fun hfinished houtcome => himitates.workedOff hcrew hids hfinished houtcome, ?_⟩
    intro hanswers hretries haddr
    exact Shift.finish_lively hanswers hcalm hbegun hids hnumbered haddr hretries

/-! ### Two tasks -/

/-- Backends that answer the sample task after a while, and crash sooner on all others. -/
def moodyBackends : Backends Unit := fun state _ request =>
  (state, if request.taskId = "task" then { delayMs := 5, deed := .answer (.ok ⟨"done", none⟩) }
    else { delayMs := 2, deed := .crash "out of cards" })

/-- How the moody backends work off the two tasks with two workers. -/
def sampleShift : Shift Unit :=
  workOffWritten (fun _ state => .ok state) moodyBackends () Route.sampleSettings ⟨0, 0⟩ sampleTasks
    [] 2 []

/-- The outcome of each of the two tasks. -/
def sampleOutcome (request : Request) : Ending :=
  (sampleShift.endingOf request.taskId).getD (.ok default)

set_option maxRecDepth 100000 in
/-- The second task is settled first, in a dispatch and in the shift of the moody backends. Both
times the tasks are worked off, and they are reported in their order. -/
theorem sampleTasks_confluent :
    let outcome := fun request ending => ending = sampleOutcome request
    let work := process (fun _ state => .ok state) moodyBackends () Route.sampleSettings ⟨0, 0⟩
      sampleTasks [] false 2
    sampleShift.endings.map (·.1) = ["other", "task"] ∧
      (∃ n d, Dispatch.Run Route.sampleSettings outcome (.start sampleTasks 2) n d ∧
        d.phase = .closed ∧
        WorkedOff Route.sampleSettings sampleOutcome sampleTasks d.queue
          (d.queue.report d.claimed)) ∧
      WorkedOff Route.sampleSettings sampleOutcome sampleTasks work.queue work.report ∧
      work.report.tasks.map (·.status) = [.succeeded, .failed] := by
  intro outcome work
  have hids : sampleTasks.ids.Nodup := by decide
  have hnumbered : sampleTasks.Numbered := ⟨by decide, by decide⟩
  have hendings : sampleShift.endings.map (·.1) = ["other", "task"] := by decide +kernel
  have hfinished : work.finishedMs.isSome = true := by decide +kernel
  obtain ⟨hdispatch, hprocess⟩ :=
    processing_is_confluent Route.sampleSettings sampleOutcome sampleTasks hids 2
  have hstart : Dispatch.Run Route.sampleSettings outcome (.start sampleTasks 2) 0
      (.start sampleTasks 2) := .refl
  have hfirst := (((hstart.tail (.acquire rfl rfl)).tail (.claim rfl rfl)).tail
    (.plan rfl)).tail (.hand rfl)
  have hsecond := (((hfirst.tail (.acquire rfl rfl)).tail (.claim rfl rfl)).tail
    (.plan rfl)).tail (.hand rfl)
  have hlater := (hsecond.tail (@Dispatch.Step.stop _ _ _ _ _ [_] [] rfl rfl)).tail
    (@Dispatch.Step.settle _ _ _ _ _ [_] [] rfl)
  have hsooner := (hlater.tail (@Dispatch.Step.stop _ _ _ _ _ [] [] rfl rfl)).tail
    (@Dispatch.Step.settle _ _ _ _ _ [] [] rfl)
  have hpending : pendingIds _ = [] :=
    List.append_right_eq_self.mp ((Dispatch.sound_of_run hids hsooner).order hids)
  obtain ⟨n, d, hover, hphase, -⟩ :=
    hsooner.closes rfl Nat.two_pos rfl (claim_eq_none_iff.mpr hpending)
  have hworked : WorkedOff Route.sampleSettings sampleOutcome sampleTasks work.queue
      work.report := by
    refine (hprocess _ moodyBackends () ⟨0, 0⟩ [] ?_ hnumbered).1 hfinished ?_
    · intro state now request
      dsimp only [moodyBackends]
      split <;> rfl
    · intro slot _ ending hmem
      have hnodup : (sampleShift.endings.map (·.1)).Nodup := by
        rw [hendings]
        decide
      show ending = (sampleShift.endingOf slot.task.id).getD _
      rw [Shift.endingOf_of_mem hnodup hmem]
      rfl
  refine ⟨hendings, ⟨n, d, hover, hphase, (hdispatch n d hover).2.2 hphase⟩, hworked, ?_⟩
  decide +kernel

end Switchboard.Queue
