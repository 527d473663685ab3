import Mathlib.Data.List.Forall2
import Switchboard.Proofs.Cache.Freshness
import Switchboard.Proofs.Engine.Start

/-!
# Batches

A batch is put into a queue entry by entry: an entry is prepared by the engine that the entries
before it have left, and its task goes into the queue at once. The first entry that cannot be
prepared ends the batch. What is in the queue by then stays there, so a batch that fails has put
the tasks before this entry into the queue, and none just if it is the first one.

`Prepares` says that entries are prepared one after the other, and `Refused` why an entry is not.

## Main results

* `prepareTask_cases` — what becomes of one entry.
* `enqueueBatch_eq` — how far a batch comes.
* `enqueueBatch_spec` — what is in the queue afterwards, for all batches.
* `failed_batch_enqueued` — a batch that fails after its first task.
-/

namespace Switchboard

namespace Queue

/-- Tasks that are put into a queue one after the other stand behind those that were there. -/
theorem slots_foldl_enqueue (q : Queue) (tasks : List Task) :
    (tasks.foldl enqueue q).slots =
      q.slots ++ (tasks.zipIdx q.nextSerial).map fun (task, serial) => ⟨serial, task, false⟩ := by
  induction tasks generalizing q with
  | nil => simp
  | cons task tasks ih =>
      rw [List.foldl_cons, ih, enqueue, List.zipIdx_cons, List.map_cons, List.append_assoc,
        List.singleton_append]

/-- All tasks of a queue. -/
theorem list_none (q : Queue) : q.list none = q.slots.map (·.task) := by
  simp [list]

end Queue

namespace Engine

open Switchboard.Queue (BatchEntry Task)

variable {engine next last : Engine} {world later final : World} {entry : BatchEntry}
  {entries : List BatchEntry} {task : Task} {tasks : List Task} {report : Report}

/-! ## One entry -/

/-- The scenario that an entry is prepared with. -/
def scenarioOf (engine : Engine) (entry : BatchEntry) : String :=
  entry.context.scenario.getD engine.config.assembly.defaultScenario

/-- Why an entry cannot be prepared: one of its models or its scenario is unknown, or there is no
index. -/
inductive Refused (engine : Engine) (world : World) (entry : BatchEntry) : Report → Prop where
  | model {error : Error} (unknown : engine.models.candidates entry.models = .error error) :
      Refused engine world entry (.ofError error)
  | scenario {candidates : List Model.Profile} {error : Error}
      (known : engine.models.candidates entry.models = .ok candidates)
      (unknown : engine.scenarios.get (engine.scenarioOf entry) = .error error) :
      Refused engine world entry (.ofError error)
  | index {candidates : List Model.Profile} {scenario : Scenario} {report : Report}
      (known : engine.models.candidates entry.models = .ok candidates)
      (found : engine.scenarios.get (engine.scenarioOf entry) = .ok scenario)
      (missing : (engine.lookUp world).2.2 = .error report) :
      Refused engine world entry report

/-- A task that was just made of an entry. -/
structure MadeOf (engine : Engine) (entry : BatchEntry) (task : Task) : Prop where
  description : task.description = entry.description
  tags : task.tags = entry.tags
  candidates : engine.models.candidates entry.models = .ok task.candidates
  pending : task.status = .pending

/-- An engine that has made some more tasks, and knows the same models and scenarios. -/
structure Continues (engine next : Engine) (count : Nat) : Prop where
  config : next.config = engine.config
  scenarios : next.scenarios = engine.scenarios
  models : next.models = engine.models
  taskId : next.taskId = engine.taskId
  made : next.made = engine.made + count

/-- A lookup leaves the engine as it is, but for its cache. -/
theorem continues_lookUp (engine : Engine) (world : World) :
    Continues engine (engine.lookUp world).1 0 :=
  ⟨rfl, rfl, rfl, rfl, rfl⟩

/-- What preparing an entry comes to: it is refused, or a task is made of it. -/
theorem prepareTask_cases (engine : Engine) (world : World) (entry : BatchEntry) :
    ∃ next later,
      (∃ report, engine.prepareTask world entry = (next, later, .error report) ∧
        Refused engine world entry report) ∨
      ∃ task, engine.prepareTask world entry = (next, later, .ok task) ∧
        MadeOf engine entry task ∧ task.id = engine.taskId engine.made ∧
        Continues engine next 1 := by
  cases hmodels : engine.models.candidates entry.models with
  | error error =>
      refine ⟨engine, world, .inl ⟨.ofError error, ?_, .model hmodels⟩⟩
      simp only [prepareTask, hmodels]
  | ok candidates =>
      cases hscenario : engine.scenarios.get (engine.scenarioOf entry) with
      | error error =>
          refine ⟨engine, world, .inl ⟨.ofError error, ?_, .scenario hmodels hscenario⟩⟩
          rw [scenarioOf] at hscenario
          simp only [prepareTask, context, hmodels, hscenario]
      | ok scenario =>
          have hkept := continues_lookUp engine world
          rcases hlook : engine.lookUp world with ⟨looked, seen, found⟩
          rw [hlook] at hkept
          have hname := hscenario
          rw [scenarioOf] at hname
          cases found with
          | error report =>
              refine ⟨looked, seen, .inl ⟨report, ?_, .index hmodels hscenario (by rw [hlook])⟩⟩
              simp only [prepareTask, context, hmodels, hname, hlook, Except.map]
          | ok found =>
              have hprepared : engine.prepareTask world entry =
                  ({ looked with made := looked.made + 1 }, seen, .ok {
                    id := looked.taskId looked.made
                    description := entry.description
                    package := Package.assemble looked.config.estimator scenario
                      found.record.document ⟨entry.context.query, entry.context.activeFile⟩
                    candidates
                    tags := entry.tags
                    enqueuedAt := seen.now }) := by
                simp only [prepareTask, context, hmodels, hname, hlook, Except.map]
              have hid : looked.taskId looked.made = engine.taskId engine.made := by
                rw [hkept.taskId, hkept.made, Nat.add_zero]
              have hmade : looked.made + 1 = engine.made + 1 := by rw [hkept.made, Nat.add_zero]
              exact ⟨_, _, .inr ⟨_, hprepared, ⟨rfl, rfl, hmodels, rfl⟩, hid,
                ⟨hkept.config, hkept.scenarios, hkept.models, hkept.taskId, hmade⟩⟩⟩

/-! ## Many entries -/

/-- Entries are prepared one after the other: the tasks, and what the engine and the world have
become. -/
inductive Prepares : Engine → World → List BatchEntry → List Task → Engine → World → Prop where
  | nil (engine : Engine) (world : World) : Prepares engine world [] [] engine world
  | cons {engine next last : Engine} {world later final : World} {entry : BatchEntry}
      {entries : List BatchEntry} {task : Task} {tasks : List Task}
      (prepared : engine.prepareTask world entry = (next, later, .ok task))
      (behind : Prepares next later entries tasks last final) :
      Prepares engine world (entry :: entries) (task :: tasks) last final

theorem MadeOf.of_continues {count : Nat} (h : MadeOf next entry task)
    (hnext : Continues engine next count) : MadeOf engine entry task :=
  ⟨h.description, h.tags, hnext.models ▸ h.candidates, h.pending⟩

/-- The tasks of entries are those that the engine makes of them, with its next ids. -/
theorem Prepares.made (h : Prepares engine world entries tasks last final) :
    List.Forall₂ (MadeOf engine) entries tasks ∧
      tasks.map (·.id) = (List.range' engine.made tasks.length).map engine.taskId ∧
      Continues engine last tasks.length := by
  induction h with
  | nil engine world => exact ⟨.nil, rfl, ⟨rfl, rfl, rfl, rfl, rfl⟩⟩
  | @cons engine next last world later final entry entries task tasks prepared behind ih =>
      obtain ⟨hmade, hids, hlast⟩ := ih
      obtain ⟨_, _, ⟨_, hrefused, -⟩ | ⟨_, hprepared, htask, hid, hnext⟩⟩ :=
        prepareTask_cases engine world entry
      · rw [prepared] at hrefused
        cases hrefused
      · cases prepared.symm.trans hprepared
        refine ⟨.cons htask (hmade.imp fun _ _ h => h.of_continues hnext), ?_,
          ⟨hlast.config.trans hnext.config, hlast.scenarios.trans hnext.scenarios,
            hlast.models.trans hnext.models, hlast.taskId.trans hnext.taskId, ?_⟩⟩
        · rw [List.map_cons, List.length_cons, List.range'_succ, List.map_cons, hids, hid,
            hnext.taskId, hnext.made]
        · rw [hlast.made, hnext.made, List.length_cons]
          omega

/-- How far a batch comes: to its end, or to the first entry that is refused. -/
theorem enqueueBatch_eq (engine : Engine) (world : World) (queue : Queue) (ids : List String)
    (entries : List BatchEntry) :
    ∃ done tasks last final, Prepares engine world done tasks last final ∧
      ((done = entries ∧ engine.enqueueBatch world queue ids entries =
          (last, final, tasks.foldl Queue.enqueue queue, .ok (ids ++ tasks.map (·.id)))) ∨
        ∃ entry rest report next later, entries = done ++ entry :: rest ∧
          Refused last final entry report ∧
          engine.enqueueBatch world queue ids entries =
            (next, later, tasks.foldl Queue.enqueue queue, .error report)) := by
  induction entries generalizing engine world queue ids with
  | nil => exact ⟨[], [], engine, world, .nil engine world, .inl ⟨rfl, by simp [enqueueBatch]⟩⟩
  | cons entry entries ih =>
      obtain ⟨next, later, ⟨report, hreport, hrefused⟩ | ⟨task, htask, -⟩⟩ :=
        prepareTask_cases engine world entry
      · exact ⟨[], [], engine, world, .nil engine world,
          .inr ⟨entry, entries, report, next, later, rfl, hrefused, by
            simp only [enqueueBatch, hreport, List.foldl_nil]⟩⟩
      · obtain ⟨done, tasks, last, final, hprepares, hend⟩ :=
          ih next later (queue.enqueue task) (ids ++ [task.id])
        refine ⟨entry :: done, task :: tasks, last, final, .cons htask hprepares, ?_⟩
        have hstep : engine.enqueueBatch world queue ids (entry :: entries) =
            next.enqueueBatch later (queue.enqueue task) (ids ++ [task.id]) entries := by
          simp only [enqueueBatch, htask]
        obtain ⟨rfl, hall⟩ | ⟨refused, rest, report, next', later', rfl, hrefused, hfailed⟩ := hend
        · refine .inl ⟨rfl, ?_⟩
          rw [hstep, hall, List.foldl_cons, List.map_cons, List.append_assoc, List.singleton_append]
        · exact .inr ⟨refused, rest, report, next', later', rfl, hrefused, hstep.trans hfailed⟩

/-- For all engines, queues and batches: the entries before the first one that is refused are
prepared in the order of the batch, and exactly their tasks are put behind those of the queue, each
pending and with the next id of the engine. The answer are their ids if no entry is refused, and
otherwise why that entry is. So a batch that fails leaves the queue as it was just if it is refused
at its first entry. -/
theorem enqueueBatch_spec (engine : Engine) (world : World) (queue : Queue)
    (entries : List BatchEntry) :
    ∃ done tasks last final engine' world' queue' answer,
      engine.enqueueBatch world queue [] entries = (engine', world', queue', answer) ∧
      Prepares engine world done tasks last final ∧
      List.Forall₂ (MadeOf engine) done tasks ∧
      tasks.map (·.id) = (List.range' engine.made tasks.length).map engine.taskId ∧
      queue.slots <+: queue'.slots ∧
      queue'.list none = queue.list none ++ tasks ∧
      ((answer = .ok (tasks.map (·.id)) ∧ done = entries) ∨
        ∃ entry rest report, answer = .error report ∧ entries = done ++ entry :: rest ∧
          Refused last final entry report ∧
          (queue'.list none = queue.list none ↔ done = [])) := by
  obtain ⟨done, tasks, last, final, hprepares, hend⟩ :=
    enqueueBatch_eq engine world queue [] entries
  obtain ⟨hmade, hids, -⟩ := hprepares.made
  have hslots := Queue.slots_foldl_enqueue queue tasks
  have hprefix : queue.slots <+: (tasks.foldl Queue.enqueue queue).slots := ⟨_, hslots.symm⟩
  have hlist : (tasks.foldl Queue.enqueue queue).list none = queue.list none ++ tasks := by
    rw [Queue.list_none, Queue.list_none, hslots, List.map_append, List.map_map]
    exact congrArg (_ ++ ·) (List.zipIdx_map_fst _ _)
  have hunchanged : (tasks.foldl Queue.enqueue queue).list none = queue.list none ↔ done = [] := by
    rw [hlist, List.append_right_eq_self, ← List.length_eq_zero_iff, ← hmade.length_eq,
      List.length_eq_zero_iff]
  obtain ⟨rfl, hall⟩ | ⟨entry, rest, report, next, later, rfl, hrefused, hfailed⟩ := hend
  · exact ⟨_, tasks, last, final, _, _, _, _, hall, hprepares, hmade, hids, hprefix, hlist,
      .inl ⟨rfl, rfl⟩⟩
  · exact ⟨done, tasks, last, final, _, _, _, _, hfailed, hprepares, hmade, hids, hprefix, hlist,
      .inr ⟨entry, rest, report, rfl, rfl, hrefused, hunchanged⟩⟩

/-! ## A batch that fails late -/

/-- A scenario that takes everything. -/
def sampleScenario : Scenario where
  name := "focused"
  budget := 4000
  rules := [.remaining]
  included := none
  excluded := []
  critical := []
  includeOverview := true

/-- An engine with one model and one scenario that holds the record of a tree without files. -/
def sampleEngine : Engine where
  config := {}
  indexer := Cache.blank
  scenarios := ⟨[("focused", sampleScenario)]⟩
  models := ⟨[{ name := "local", provider := "echo", maxContextTokens := 4000 }]⟩
  cache := { tree := Cache.besides, path := "b", record := some (Cache.blankRecord []) }
  taskId := toString

/-- An entry for all models, and one for a model that there is not. -/
def sampleBatch : List BatchEntry :=
  [{ description := "first" }, { description := "second", models := ["absent"] }]

/-- The record is valid. -/
theorem sampleEngine_lookUp : sampleEngine.lookUp emptyWorld =
    (sampleEngine, emptyWorld, .ok ⟨Cache.blankRecord [], .hit⟩) := by
  have hfresh : Cache.Fresh (Cache.blankRecord []) ⟨emptyWorld.disk, sampleEngine.cache⟩ :=
    Cache.fresh_blank rfl rfl Cache.files_besides
  rw [lookUp, hfresh.getOrBuild_eq]

/-- So the first entry of `sampleBatch` becomes a task. -/
theorem sampleEngine_prepareTask : ∃ next later task,
    sampleEngine.prepareTask emptyWorld { description := "first" } = (next, later, .ok task) ∧
      next.models = sampleEngine.models ∧ task.description = "first" := by
  obtain ⟨next, later, ⟨report, -, hrefused⟩ | ⟨task, hprepared, hmade, -, hnext⟩⟩ :=
    prepareTask_cases sampleEngine emptyWorld { description := "first" }
  · cases hrefused with
    | model unknown => cases unknown
    | scenario known unknown => cases unknown
    | index known found missing =>
        rw [sampleEngine_lookUp] at missing
        cases missing
  · exact ⟨next, later, task, hprepared, hnext.models, hmade.description⟩

/-- The second entry is refused, and the task of the first one is in the queue. -/
theorem failed_batch_enqueued :
    ∃ engine world queue, sampleEngine.enqueueBatch emptyWorld {} [] sampleBatch =
        (engine, world, queue, .error (.ofError (.unknownModel "absent"))) ∧
      ({} : Queue).list none = [] ∧
      (queue.list none).map (·.description) = ["first"] := by
  obtain ⟨next, later, task, hprepared, hmodels, hdescription⟩ := sampleEngine_prepareTask
  have hunknown : next.models.candidates ["absent"] = .error (.unknownModel "absent") := by
    rw [hmodels]
    rfl
  refine ⟨next, later, Queue.enqueue {} task, ?_, rfl, ?_⟩
  · simp only [sampleBatch, enqueueBatch, hprepared]
    simp only [prepareTask, hunknown]
  · rw [Queue.list_none]
    exact congrArg (fun text => [text]) hdescription

end Engine

end Switchboard
