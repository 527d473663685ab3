import Switchboard.Proofs.Route.Asking
import Switchboard.Proofs.Route.Result

/-!
# What a plan announces

A plan is a table that is made before anything is called, and a run finds its way by asking for one
candidate after the other whether it can be called. When every provider has a backend, a candidate
can be called just if it has a call plan. So as long as no call fails, a run passes over the
candidates without one and stays with the first one that has one: the candidate that the plan
selects.

`Run.Announced` says so for runs on their way, and `Run.turnsAhead` counts what they still have to
do. No policy comes in, since nothing is tried again.

## Main results

* `Run.Moved.announced` — every move keeps to the plan.
* `Run.Announced.follow` — a run that keeps to the plan comes to its end.
* `execution_follows_plan` — what a run without failures does and brings.
-/

namespace Switchboard.Route

/-- Every model of the request has a backend. -/
def Request.Registered (request : Request) (settings : Settings) : Prop :=
  ∀ p ∈ request.candidates, p.provider ∈ settings.providers

/-- Every candidate of the plan has a backend. -/
def Job.Registered (job : Job) : Prop :=
  ∀ c ∈ job.plan.candidates, c.provider ∈ job.settings.providers

@[simp] theorem Candidate.ofRanked_provider (package : Package) (tokens : Nat) (margin : Float)
    (ranked : Model.Ranked) :
    (Candidate.ofRanked package tokens margin ranked).provider = ranked.profile.provider := by
  simp only [Candidate.ofRanked]
  split <;> rfl

theorem Request.Registered.job {request : Request} {settings : Settings}
    (h : request.Registered settings) : (request.job settings).Registered := by
  intro c hc
  obtain ⟨ranked, hmem, rfl⟩ := exists_ranked_of_mem_candidates hc
  rw [Candidate.ofRanked_provider]
  exact h ranked.profile hmem

/-- The first candidate with a call plan is the one that is selected. -/
theorem Plan.selected_eq_some {plan : Plan} {index : Nat} {c : Candidate}
    (hbefore : ∀ c ∈ plan.candidates.take index, c.plan = none)
    (hc : plan.candidates[index]? = some c) (hplan : c.plan.isSome = true) :
    plan.selected = some c := by
  obtain ⟨hindex, hget⟩ := List.getElem?_eq_some_iff.mp hc
  have hsplit : plan.candidates =
      plan.candidates.take index ++ c :: plan.candidates.drop (index + 1) := by
    rw [← hget, List.getElem_cons_drop, List.take_append_drop]
  have hnone : (plan.candidates.take index).find? (·.plan.isSome) = none :=
    List.find?_eq_none.mpr fun c hc => by simp [hbefore c hc]
  rw [selected, hsplit, List.find?_append, hnone, Option.none_or]
  exact List.find?_cons_of_pos hplan

/-- Nothing is selected when no candidate has a call plan. -/
theorem Plan.selected_eq_none {plan : Plan} (h : ∀ c ∈ plan.candidates, c.plan = none) :
    plan.selected = none :=
  List.find?_eq_none.mpr fun c hc => by simp [h c hc]

namespace Run

variable {job : Job} {run next : Run} {calls made : List Exchange} {index : Nat} {c : Candidate}

/-- A candidate that is passed over has no call plan. -/
theorem plan_eq_none_of_error (hjob : job.Sound) (hregistered : job.Registered) {reason : String}
    (hc : c ∈ job.plan.candidates) (h : prepare job c = .error reason) : c.plan = none := by
  rw [← Option.not_isSome_iff_eq_none]
  intro hplan
  obtain ⟨prompts, hok⟩ := (prepare_isOk_iff hjob hc).mpr ⟨hplan, hregistered c hc⟩
  rw [hok] at h
  cases h

/-- The run has called the selected candidate for the first chunks, once for each of them. -/
structure Serves (job : Job) (run : Run) (calls : List Exchange) (index served : Nat) : Prop where
  selected : ∃ c, job.plan.selected = some c ∧ run.Calls job index c
  position : ∀ call ∈ calls, call.index = index
  chunks : calls.map (·.request.chunk) = List.range served
  outputs : run.outputs.length = served

/-- The run keeps to what the plan announces. -/
def Announced (job : Job) (run : Run) (calls : List Exchange) : Prop :=
  match run.state with
  | .pending => calls = []
  | .selecting index => calls = [] ∧ ∀ c ∈ job.plan.candidates.take index, c.plan = none
  | .calling index chunk _ => run.Serves job calls index chunk
  | .retrying .. => False
  | .succeeded index => run.Serves job calls index run.prompts.length
  | .exhausted => calls = [] ∧ job.plan.selected = none

/-- After a candidate without a call plan the next one is due, or there is nothing to select. -/
theorem announced_of_afterward (hstate : run.state = afterward job index)
    (hbefore : ∀ c ∈ job.plan.candidates.take index, c.plan = none)
    (hc : job.plan.candidates[index]? = some c) (hplan : c.plan = none) :
    run.Announced job [] := by
  have hnext : ∀ c ∈ job.plan.candidates.take (index + 1), c.plan = none := by
    rw [List.take_add_one, hc]
    exact List.forall_mem_append.mpr ⟨hbefore, List.forall_mem_singleton.mpr hplan⟩
  rw [afterward] at hstate
  split at hstate
  next hmore =>
    simp only [Announced, hstate]
    exact ⟨trivial, hnext⟩
  next hlast =>
    simp only [Announced, hstate]
    rw [List.take_of_length_le (Nat.le_of_not_lt hlast)] at hnext
    exact ⟨trivial, Plan.selected_eq_none hnext⟩

/-- The reply for a chunk completes one chunk more. -/
theorem Serves.replied {call : Exchange} {chunk : Nat} {output : Nat × String}
    (h : run.Serves job calls index chunk)
    (hprompts : next.prompts = run.prompts) (houtputs : next.outputs = run.outputs ++ [output])
    (hindex : call.index = index) (hchunk : call.request.chunk = chunk) :
    next.Serves job (calls ++ [call]) index (chunk + 1) := by
  obtain ⟨⟨c, hselected, hcalls⟩, hposition, hchunks, hlength⟩ := h
  refine ⟨⟨c, hselected, hcalls.of_prompts hprompts⟩, ?_, ?_, ?_⟩
  · exact List.forall_mem_append.mpr ⟨hposition, List.forall_mem_singleton.mpr hindex⟩
  · rw [List.map_append, hchunks, List.map_singleton, hchunk, List.range_succ]
  · rw [houtputs, List.length_append, hlength, List.length_singleton]

/-- As long as calls bring replies, every move keeps to the plan. -/
theorem Moved.announced (hjob : job.Sound) (hregistered : job.Registered)
    (h : Moved job run next made) (hplaced : run.Placed job) (hrun : run.Announced job calls)
    (hreplied : ∀ call ∈ made, call.reply?.isSome = true) : next.Announced job (calls ++ made) := by
  cases h with
  | begun hstate hnext =>
      simp only [Announced, hstate] at hrun
      subst hrun
      split at hnext
      next hnone =>
        simp only [Announced, hnext]
        refine ⟨rfl, Plan.selected_eq_none fun c hc => ?_⟩
        rw [List.eq_nil_of_length_eq_zero hnone] at hc
        cases hc
      next =>
        simp only [Announced, hnext]
        exact ⟨rfl, List.forall_mem_nil _⟩
  | skipped hstate hc hprepare hnext =>
      simp only [Announced, hstate] at hrun
      obtain ⟨rfl, hbefore⟩ := hrun
      have hplan := plan_eq_none_of_error hjob hregistered (List.mem_of_getElem? hc) hprepare
      exact announced_of_afterward hnext hbefore hc hplan
  | chosen hstate hcalls hnext houtputs =>
      simp only [Announced, hstate] at hrun
      obtain ⟨rfl, hbefore⟩ := hrun
      obtain ⟨plan, hplan, -⟩ := prepare_eq_ok_iff.mp hcalls.2
      -- the candidates passed over have no call plan, so this is the one that is selected
      have hselected := Plan.selected_eq_some hbefore hcalls.1 (by rw [hplan]; rfl)
      simp only [Announced, hnext]
      exact ⟨⟨_, hselected, hcalls⟩, List.forall_mem_nil _, rfl, by rw [houtputs]; rfl⟩
  | @replied index chunk attempt c request reply a hstate hcalls hchunk hnext hprompts houtputs =>
      simp only [Announced, hstate] at hrun
      have hserves : next.Serves job (calls ++ [⟨index, attempt, request, some (.ok reply)⟩]) index
          (chunk + 1) := hrun.replied hprompts houtputs rfl hchunk
      split at hnext
      next hmore =>
        simp only [Announced, hnext]
        exact hserves
      next hlast =>
        simp only [Placed, hstate] at hplaced
        have hall : chunk + 1 = next.prompts.length := by
          rw [hprompts]
          omega
        simp only [Announced, hnext]
        rwa [← hall]
  | failed => cases hreplied _ (List.mem_singleton_self _)
  | rested hstate =>
      simp only [Announced, hstate] at hrun

/-! ## The end of the run -/

/-- A bound on the moves that a run that keeps to the plan may still make. -/
def turnsAhead (job : Job) (run : Run) : Nat :=
  match run.state with
  | .pending => job.plan.candidates.length + job.plan.chunkCount + 1
  | .selecting index => job.plan.candidates.length - index + job.plan.chunkCount
  | .calling _ chunk _ => run.prompts.length - chunk
  | .retrying .. | .succeeded _ | .exhausted => 0

/-- There is a prompt for each call of the plan that is selected. -/
theorem Serves.length_prompts {served : Nat} (h : run.Serves job calls index served) :
    run.prompts.length = job.plan.chunkCount := by
  obtain ⟨c, hselected, hcalls⟩ := h.selected
  obtain ⟨plan, hplan, -, hprompts, -⟩ := prepare_eq_ok_iff.mp hcalls.2
  rw [hprompts, Call.length_prompts, Plan.chunkCount, hselected, Option.bind_some, hplan]
  rfl

/-- Every move of a run that keeps to the plan leaves fewer to come. -/
theorem Moved.turnsAhead_lt (h : Moved job run next made) (hplaced : run.Placed job)
    (hrun : run.Announced job calls) (hnext : next.Announced job (calls ++ made))
    (hreplied : ∀ call ∈ made, call.reply?.isSome = true) :
    next.turnsAhead job < run.turnsAhead job := by
  cases h with
  | begun hstate hstate' =>
      split at hstate' <;> simp only [turnsAhead, hstate, hstate'] <;> omega
  | skipped hstate hc hprepare hstate' =>
      have hindex := (List.getElem?_eq_some_iff.mp hc).1
      rw [afterward] at hstate'
      split at hstate' <;> simp only [turnsAhead, hstate, hstate'] <;> omega
  | chosen hstate hcalls hstate' =>
      have hindex := hcalls.index_lt
      simp only [Announced, hstate'] at hnext
      have hlength := hnext.length_prompts
      simp only [turnsAhead, hstate, hstate']
      omega
  | replied hstate hcalls hchunk hstate' hprompts =>
      simp only [Placed, hstate] at hplaced
      have hopen := hplaced.2
      split at hstate' <;> simp only [turnsAhead, hstate, hstate', hprompts] <;> omega
  | failed => cases hreplied _ (List.mem_singleton_self _)
  | rested hstate => simp only [Announced, hstate] at hrun

/-- A run that keeps to the plan comes to its end when nobody cancels the task and every call
brings a reply. -/
theorem Announced.follow (hjob : job.Sound) (hregistered : job.Registered)
    (h : run.Announced job calls) (hplaced : run.Placed job) {moments : List Moment}
    (hcalm : ∀ m ∈ moments, ¬m.Cancels)
    (hreplied : ∀ call ∈ run.exchanges job moments, call.reply?.isSome = true)
    (hlong : run.turnsAhead job < moments.length) :
    ∃ m last final ending, ¬m.Cancels ∧ run.follow job moments = .stop final ending ∧
      Stopped job m last final ending [] ∧
      last.Announced job (calls ++ run.exchanges job moments) := by
  induction moments generalizing run calls with
  | nil => exact absurd hlong (Nat.not_lt_zero _)
  | cons m moments ih =>
      have hturned := turned job run m
      rw [Run.follow]
      rw [exchanges] at hreplied ⊢
      generalize run.turn job m = step at hturned hreplied ⊢
      generalize run.exchange job m = made at hturned hreplied ⊢
      obtain ⟨hmade, hbehind⟩ := List.forall_mem_append.mp hreplied
      obtain ⟨hcalm, hcalm'⟩ := List.forall_mem_cons.mp hcalm
      cases step with
      | next next =>
          have hmoved := hplaced.moved hjob hturned
          have hnext := hmoved.announced hjob hregistered hplaced h hmade
          have hfewer := hmoved.turnsAhead_lt hplaced h hnext hmade
          rw [List.length_cons] at hlong
          rw [← List.append_assoc]
          exact ih hnext (hmoved.placed hplaced) hcalm' hbehind (by omega)
      | wait waiting need => cases hturned
      | stop final ending =>
          have hstopped := hplaced.stopped hjob hturned
          -- a call in the last turn would have been cut short by a cancellation
          have hmade : made = [] := by
            cases hstopped with
            | interrupted called now hstate hc hcancels => exact absurd hcancels hcalm
            | _ => rfl
          subst hmade
          rw [List.append_nil, List.append_nil]
          exact ⟨m, run, final, ending, hcalm, rfl, hstopped, h⟩

end Run

end Switchboard.Route
