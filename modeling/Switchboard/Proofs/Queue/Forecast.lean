import Mathlib.Data.List.Basic
import Switchboard.Proofs.Queue.Alone
import Switchboard.Proofs.Queue.Completion
import Switchboard.Proofs.Queue.Interleaving

/-!
# Dry runs

A dry run says of every pending task how it would be handed out, and changes nothing. What it says
comes true: working off the queue afterwards reports the same tasks in the same order with the same
plans, however many workers there are, in whatever order their steps come and whatever the backends
answer. Only what is known after a run differs: the status, the cost and the error of a task.

## Main results

* `preview_forecasts`, `report_forecasts` — a dry run and a real one report the forecasts of the
  pending tasks.
* `dryRun_comes_true` — a dry run changes nothing, and what it says comes true.
-/

namespace Switchboard.Queue

open Switchboard.Route (Attempt Request Ending Settings)

/-- What can be said of a task before it is run. -/
structure Forecast where
  taskId : String
  description : String
  selected : Option String
  chunks : Nat
  promptTokens : Nat
  plan : Route.Plan
  deriving DecidableEq, Repr

/-- What a report says of a task that could be said before. -/
def TaskReport.forecast (report : TaskReport) : Forecast where
  taskId := report.taskId
  description := report.description
  selected := report.selected
  chunks := report.chunks
  promptTokens := report.promptTokens
  plan := report.plan

/-- What a report says of its tasks that could be said before. -/
def WorkReport.forecasts (report : WorkReport) : List Forecast :=
  report.tasks.map TaskReport.forecast

/-- The forecast for a task. -/
def Task.forecast (settings : Settings) (task : Task) : Forecast :=
  let plan := (task.request.job settings).plan
  { taskId := task.id
    description := task.description
    selected := plan.selected.map (·.model)
    chunks := plan.chunkCount
    promptTokens := (plan.selected.map (·.promptTokens)).getD 0
    plan }

/-- A task that has the plan of its request is reported as forecast. -/
theorem Task.report?_forecast {settings : Settings} (task : Task)
    (hplan : task.plan = some (task.request.job settings).plan) :
    task.report?.map TaskReport.forecast = some (task.forecast settings) := by
  rw [Task.report?, hplan]
  rfl

/-- Reports that each say what was forecast say together what was forecast. -/
theorem map_filterMap_eq_map {α β γ : Type} {items : List α} {report : α → Option β} {view : β → γ}
    (forecast : α → γ) (h : ∀ a ∈ items, (report a).map view = some (forecast a)) :
    (items.filterMap report).map view = items.map forecast := by
  rw [List.map_filterMap, List.filterMap_eq_map_iff_forall_eq_some]
  exact h

/-- A dry run reports the forecasts of the pending tasks. -/
theorem preview_forecasts (q : Queue) (settings : Settings) :
    (q.preview settings).forecasts =
      (q.slots.filter (·.task.status = .pending)).map (·.task.forecast settings) := by
  have hpending : q.list (some .pending) =
      (q.slots.filter (·.task.status = .pending)).map (·.task) := by
    rw [Queue.list, List.filter_map]
    rfl
  show ((q.list (some .pending)).filterMap _).map _ = _
  rw [map_filterMap_eq_map (Task.forecast settings), hpending, List.map_map]
  · rfl
  · intro task _
    exact Task.report?_forecast { task with plan := some (task.request.job settings).plan } rfl

/-- When nothing is left to do, the forecasts of the pending tasks are reported, whatever the order
of the steps and the outcomes of the runs. -/
theorem report_forecasts {q : Queue} (hids : q.ids.Nodup) {settings : Settings}
    {outcome : Request → Ending → Prop} {floor : Floor}
    (hmoves : Relation.ReflTransGen (Floor.Move settings outcome) (.ofQueue q) floor)
    (hrest : floor.AtRest) :
    (floor.queue.report floor.claimed).forecasts =
      (q.slots.filter (·.task.status = .pending)).map (·.task.forecast settings) := by
  obtain ⟨stage, hstaged⟩ := Floor.staged_of_moves hids hmoves
  show (floor.claimed.filterMap _).map _ = _
  rw [hstaged.claimed_of_atRest hrest, pendingIds, List.filterMap_map]
  refine map_filterMap_eq_map _ fun slot hslot => ?_
  obtain ⟨hmem, hpending⟩ := List.mem_filter.mp hslot
  rcases hstaged.stage_of_atRest hrest hmem with ⟨-, ending, -, hstage⟩ | ⟨hother, -⟩
  · have hfound := hstaged.slot?_eq hids hmem
    rw [hstage] at hfound
    show Option.map _ ((floor.queue.get? slot.task.id).bind _) = _
    rw [Queue.get?, hfound]
    exact Task.report?_forecast (slot.atStage settings (.settled ending)).task rfl
  · exact absurd (of_decide_eq_true hpending) hother

/-- A dry run names the pending tasks. -/
theorem preview_taskIds (q : Queue) (settings : Settings) :
    (q.preview settings).tasks.map (·.taskId) = q.pendingIds := by
  have h := congrArg (List.map Forecast.taskId) (preview_forecasts q settings)
  rw [WorkReport.forecasts, List.map_map, List.map_map] at h
  exact h

/-- A dry run changes nothing, calls nobody and names the pending tasks in their order. What it says
comes true: however the steps of workers are interleaved and whatever the outcomes of the runs,
when nothing is left to do the same tasks are reported in the same order with the same plans. So
does working off the queue, with any number of workers; and where the backends answer every call
this comes to an end. -/
theorem dryRun_comes_true {σ : Type} (writeDown : Attempt → σ → Except String σ)
    (backends : Backends σ) (hcalm : Calm backends) (state : σ) (settings : Settings)
    (start later : Timestamp) (q : Queue) (hids : q.ids.Nodup) (hnumbered : q.Numbered)
    (log : List Attempt) (workers others : Nat) :
    let dry := process writeDown backends state settings start q log true workers
    let real := process writeDown backends dry.backends settings later dry.queue dry.log false
      others
    (dry.queue = q ∧ dry.log = log ∧ dry.backends = state ∧ dry.calls = []) ∧
      dry.report.tasks.map (·.taskId) = q.pendingIds ∧
      (∀ outcome floor,
        Relation.ReflTransGen (Floor.Move settings outcome) (.ofQueue dry.queue) floor →
          floor.AtRest →
            (floor.queue.report floor.claimed).forecasts = dry.report.forecasts) ∧
      (real.finishedMs.isSome = true → real.report.forecasts = dry.report.forecasts) ∧
      (Answering backends → settings.policy.maxRetries + 1 < Word.size32 →
        (∀ slot ∈ q.slots, slot.task.request.Addressable) → real.finishedMs.isSome = true) := by
  intro dry real
  have hbegun := Shift.unbegun_ofQueue writeDown state settings later q log others
  have hcrew : Shift.Crew settings q
      (workOffWritten writeDown backends state settings later q log others []) :=
    hbegun.crew.run hids hnumbered hcalm _
  refine ⟨⟨rfl, rfl, rfl, rfl⟩, preview_taskIds q settings, ?_, ?_, ?_⟩
  · intro outcome floor hmoves hrest
    rw [report_forecasts hids hmoves hrest]
    exact (preview_forecasts q settings).symm
  · intro hfinished
    obtain ⟨floor, hmoves, hqueue, hclaimed, hrest⟩ := hcrew.atRest hfinished
    have hreport := report_forecasts hids hmoves hrest
    rw [hqueue, hclaimed] at hreport
    exact hreport.trans (preview_forecasts q settings).symm
  · intro hanswers hretries haddr
    exact Shift.finish_lively hanswers hcalm hbegun hids hnumbered haddr hretries

/-- Backends that are always busy, and take longer to say so of the sample task than of others. -/
def unevenBackends : Backends Unit := fun state _ request =>
  (state, { delayMs := if request.taskId = "task" then 5 else 2
            deed := .answer (Backend.transient "busy") })

set_option maxRecDepth 100000 in
/-- Two tasks are forecast and then run by two workers. The second one is settled first, and both
are reported in the order in which they were forecast. -/
theorem sampleTasks_dryRun_comes_true :
    let writeDown : Attempt → Unit → Except String Unit := fun _ state => .ok state
    let dry := process writeDown unevenBackends () Route.sampleSettings ⟨0, 0⟩ sampleTasks [] true 0
    let real := process writeDown unevenBackends dry.backends Route.sampleSettings ⟨1, 0⟩ dry.queue
      dry.log false 2
    let shift := workOffWritten writeDown unevenBackends dry.backends Route.sampleSettings ⟨1, 0⟩
      dry.queue dry.log 2 []
    shift.endings.map (·.1) = ["other", "task"] ∧
      dry.report.tasks.map (·.taskId) = ["task", "other"] ∧ real.finishedMs.isSome = true ∧
      real.report.forecasts = dry.report.forecasts := by
  intro writeDown dry real shift
  have hids : sampleTasks.ids.Nodup := by decide
  have hnumbered : sampleTasks.Numbered := ⟨by decide, by decide⟩
  have hsame : ∀ slot ∈ sampleTasks.slots,
      slot.task.request.candidates = Route.sampleRequest.candidates ∧
        slot.task.request.package = Route.sampleRequest.package := by
    simp [sampleTasks, Queue.enqueue, Floor.sampleTask, Task.request]
  have haddr : ∀ slot ∈ sampleTasks.slots, slot.task.request.Addressable := by
    intro slot hslot
    obtain ⟨hcandidates, hpackage⟩ := hsame slot hslot
    obtain ⟨hfew, hshort⟩ := Route.sampleRequest_addressable
    exact ⟨hcandidates ▸ hfew, hpackage ▸ hshort⟩
  have hcalm : Calm unevenBackends := fun _ _ _ => rfl
  have hanswers : Answering unevenBackends := fun _ _ _ => ⟨_, rfl⟩
  obtain ⟨-, hnames, -, htrue, hends⟩ := dryRun_comes_true writeDown unevenBackends hcalm ()
    Route.sampleSettings ⟨0, 0⟩ ⟨1, 0⟩ sampleTasks hids hnumbered [] 0 2
  have hfinished := hends hanswers (by decide) haddr
  exact ⟨by decide +kernel, hnames, hfinished, htrue hfinished⟩

end Switchboard.Queue
