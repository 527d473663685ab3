import Switchboard.Proofs.Route.Journey

/-!
# What is asked in a call

Every call of a run goes to the candidate that the run is at, and asks what the plan of that
candidate has for the chunk that is due. What was answered before decides only whether the call is
made at all.

The calls of a journey are those of a run that is still on its way, and those of one more turn.
Whatever is to be shown of them, for journeys that stop and for those that do not, is shown for
these two.

## Main results

* `Run.Turned.made_cases` — the call that a turn makes, if it makes one.
* `Run.start_exchanges` — the calls of a journey as those of a run on its way and one more turn.
* `Run.start_asked` — every call of a sound job asks what the plan says.
-/

namespace Switchboard.Route

/-- The call asks what the call plan of its candidate has for its chunk. -/
structure Exchange.Asked (job : Job) (call : Exchange) (c : Candidate) (plan : Call.Plan) :
    Prop where
  candidate : job.plan.candidates[call.index]? = some c
  planned : c.plan = some plan
  model : call.request.profile.name = c.model
  prompt : (Call.prompts job.request.description job.request.package plan)[call.request.chunk]? =
    some call.request.prompt
  chunkCount : call.request.chunkCount = plan.chunkCount

namespace Run

variable {job : Job} {run : Run} {m : Moment} {step : Step} {made : List Exchange}

/-- A turn makes at most one call, for the chunk that the run is at. -/
theorem Turned.made_cases (h : Turned job m run step made) :
    made = [] ∨ ∃ call c, made = [call] ∧
      run.state = .calling call.index call.request.chunk call.attempt ∧
      job.plan.candidates[call.index]? = some c ∧
      run.request job c call.request.chunk = .ok call.request := by
  cases h with
  | answered hstate hc hrequest | interruptedCalling hstate hc hrequest =>
      obtain ⟨-, rfl⟩ := request_eq_ok hrequest
      exact .inr ⟨_, _, rfl, hstate, hc, hrequest⟩
  | _ => exact .inl rfl

/-- Which model a call that can be made goes to, and how many calls it is one of. -/
theorem request_profile {c : Candidate} {chunk : Nat} {request : Backend.Request}
    (h : run.request job c chunk = .ok request) :
    request.profile.name = c.model ∧ request.chunkCount = run.prompts.length := by
  unfold Run.request at h
  split at h
  · cases h
  next profile hprofile =>
    split at h
    · cases h
    · split at h
      · cases h
      · cases h
        have hname := List.find?_some hprofile
        exact ⟨by simpa using hname, rfl⟩

/-- A call of a run that is at a candidate and at a chunk of it asks what the plan says. -/
theorem Turned.asked (h : Turned job m run step made) (hplaced : run.Placed job) :
    ∀ call ∈ made, ∃ c plan, call.Asked job c plan := by
  rcases h.made_cases with rfl | ⟨call, c, rfl, hstate, hc, hrequest⟩
  · exact fun _ hcall => absurd hcall List.not_mem_nil
  · intro found hfound
    rw [List.mem_singleton] at hfound
    subst hfound
    obtain ⟨hcalls, -⟩ := hplaced.of_calling hstate hc
    obtain ⟨plan, hplan, -, hprompts, -⟩ := prepare_eq_ok_iff.mp hcalls.2
    obtain ⟨hprompt, -⟩ := request_eq_ok hrequest
    obtain ⟨hname, hcount⟩ := request_profile hrequest
    refine ⟨c, plan, hc, hplan, hname, ?_, ?_⟩
    · rw [← hprompts, hprompt]
    · rw [hcount, hprompts, Call.length_prompts]

/-! ## The calls of a journey -/

/-- What every turn keeps holds of a run on the way and the calls until then. At most one more turn
makes a call. -/
theorem exchanges_cases {P : Run → List Exchange → Prop}
    (hkeep : ∀ {run calls m next made}, P run calls → Turned job m run (.next next) made →
      P next (calls ++ made))
    {calls : List Exchange} (hstart : P run calls) (moments : List Moment) :
    ∃ last made, P last made ∧ (calls ++ run.exchanges job moments = made ∨
      ∃ m, calls ++ run.exchanges job moments = made ++ last.exchange job m) := by
  induction moments generalizing run calls with
  | nil => exact ⟨run, calls, hstart, .inl (List.append_nil calls)⟩
  | cons m moments ih =>
      have hturned := turned job run m
      rw [exchanges]
      cases hturn : run.turn job m with
      | next next =>
          rw [hturn] at hturned
          obtain ⟨last, made, hlast, hcalls⟩ := ih (hkeep hstart hturned)
          rw [List.append_assoc] at hcalls
          exact ⟨last, made, hlast, hcalls⟩
      | wait waiting need => exact ⟨run, calls, hstart, .inr ⟨m, by rw [List.append_nil]⟩⟩
      | stop final ending => exact ⟨run, calls, hstart, .inr ⟨m, by rw [List.append_nil]⟩⟩

/-- What holds at the start and is kept by every move of a sound job holds of a run on the way and
the calls until then. At most one more turn makes a call. -/
theorem start_exchanges (hjob : job.Sound) {P : Run → List Exchange → Prop} {now : Timestamp}
    (hstart : P (Run.start job now) [])
    (hkeep : ∀ {run calls next made}, P run calls → run.Placed job → Moved job run next made →
      P next (calls ++ made))
    (moments : List Moment) :
    ∃ last made, P last made ∧ last.Placed job ∧
      ((Run.start job now).exchanges job moments = made ∨
        ∃ m, (Run.start job now).exchanges job moments = made ++ last.exchange job m) := by
  obtain ⟨last, made, ⟨hlast, hplaced⟩, hcalls⟩ :=
    exchanges_cases (P := fun run calls => P run calls ∧ run.Placed job)
      (fun ⟨hrun, hplaced⟩ hturned =>
        have hmoved := hplaced.moved hjob hturned
        ⟨hkeep hrun hplaced hmoved, hmoved.placed hplaced⟩)
      ⟨hstart, start_placed job now⟩ moments
  exact ⟨last, made, hlast, hplaced, hcalls⟩

/-- Every call of a sound job asks what the plan says. -/
theorem start_asked (hjob : job.Sound) (now : Timestamp) (moments : List Moment) :
    ∀ call ∈ (Run.start job now).exchanges job moments, ∃ c plan, call.Asked job c plan := by
  have hnone : ∀ call ∈ ([] : List Exchange), ∃ c plan, Exchange.Asked job call c plan :=
    fun call hcall => absurd hcall List.not_mem_nil
  obtain ⟨last, made, ⟨hmade, hplaced⟩, hcalls⟩ := exchanges_cases
    (P := fun run calls => (∀ call ∈ calls, ∃ c plan, Exchange.Asked job call c plan) ∧
      run.Placed job)
    (fun ⟨hcalls, hplaced⟩ hturned =>
      ⟨List.forall_mem_append.mpr ⟨hcalls, hturned.asked hplaced⟩,
        (hplaced.moved hjob hturned).placed hplaced⟩)
    ⟨hnone, start_placed job now⟩ moments
  rw [List.nil_append] at hcalls
  rcases hcalls with hcalls | ⟨m, hcalls⟩
  · rwa [hcalls]
  · rw [hcalls]
    exact List.forall_mem_append.mpr ⟨hmade, (turned job last m).asked hplaced⟩

end Run

end Switchboard.Route
