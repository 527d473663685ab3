import Switchboard.Proofs.Call.Outputs
import Switchboard.Proofs.Route.Journey

/-!
# What a result is made of

The outputs, prompts and costs of a run are shared by all its candidates. Choosing a candidate
drops the outputs of the one before and keeps what was spent on it, so the outputs are at every
moment the replies of the candidate being called, in chunk order, and the cost is that of all
records.

`Run.Ledger` says so for runs on their way, together with where the records of the current
candidate stand among those of the run. A result is read off the ledger of the run that brings it.

## Main results

* `Run.Moved.ledger` — every move keeps the ledger.
* `result_faithful` — the model, the chunks, the output and the cost of a result.
-/

namespace Switchboard.Route

/-- The reply that a call brought, with its chunk. -/
def Exchange.reply? (call : Exchange) : Option (Nat × Backend.Reply) :=
  match call.answer with
  | some (.ok reply) => some (call.request.chunk, reply)
  | _ => none

/-- A call leaves the record of a success exactly when it brought a reply. -/
theorem Exchange.record_success (job : Job) (c : Candidate) (calls : List Exchange) :
    ((calls.map (Exchange.record job c)).filter (·.outcome = .success)).map (·.chunk) =
      (calls.filterMap Exchange.reply?).map fun (chunk, _) => c.label chunk := by
  induction calls with
  | nil => rfl
  | cons call calls ih =>
      obtain ⟨index, attempt, request, answer⟩ := call
      rcases answer with _ | ⟨⟨kind, message⟩⟩ | reply
      · simpa [List.filterMap_cons, Exchange.record, Exchange.reply?] using ih
      · cases kind <;>
          simpa [List.filterMap_cons, Exchange.record, Exchange.reply?, Outcome.ofFailure] using ih
      · simpa [List.filterMap_cons, Exchange.record, Exchange.reply?] using ih

namespace Run

/-- The number of candidates chosen so far. -/
def chosenCount (job : Job) : State → Nat
  | .pending => 0
  | .selecting index => index
  | .calling index _ _ | .retrying index _ _ _ | .succeeded index => index + 1
  | .exhausted => job.plan.candidates.length

/-- The run has the replies of a candidate for the first chunks, in order, and its latest records
are those of the calls of this candidate. -/
structure Serving (job : Job) (run : Run) (calls : List Exchange) (index chunks : Nat) : Prop where
  records : ∃ c before block, job.plan.candidates[index]? = some c ∧
    run.attempts = before ++ block ∧
    block.map Attempt.timeless = (calls.filter (·.index = index)).map (Exchange.record job c)
  replies : run.outputs = ((calls.filter (·.index = index)).filterMap Exchange.reply?).map
    fun (chunk, reply) => (chunk, reply.text)
  chunks : ((calls.filter (·.index = index)).filterMap Exchange.reply?).map (·.1) =
    List.range chunks

/-- How the records and outputs of a run on its way come from its calls. -/
structure Ledger (job : Job) (run : Run) (calls : List Exchange) : Prop where
  /-- Only candidates that were chosen are called. -/
  chosen : ∀ call ∈ calls, call.index < chosenCount job run.state
  /-- Every record is charged. -/
  cost : run.tokenCost = Word.sum (run.attempts.map (·.tokenCost))
  /-- What there is of the current candidate. -/
  serving : match run.state with
    | .calling index chunk _ | .retrying index chunk _ _ => run.Serving job calls index chunk
    | .succeeded index => run.Serving job calls index run.prompts.length
    | _ => True

private theorem sum_costs_append (attempts : List Attempt) (a : Attempt) :
    Word.sum ((attempts ++ [a]).map (·.tokenCost)) =
      Word.add (Word.sum (attempts.map (·.tokenCost))) a.tokenCost := by
  rw [List.map_append, List.map_singleton, Word.sum_append_singleton]

/-- A record without costs adds none. -/
private theorem sum_costs_append_free (attempts : List Attempt) {a r : Attempt}
    (ha : a.timeless = r) (hr : r.tokenCost = 0) :
    Word.sum ((attempts ++ [a]).map (·.tokenCost)) =
      Word.sum (attempts.map (·.tokenCost)) := by
  have hfree : a.timeless.tokenCost = 0 := ha ▸ hr
  have hfree : a.tokenCost = 0 := hfree
  rw [sum_costs_append, hfree]
  exact Nat.mod_eq_of_lt (Word.sum_lt _)

theorem chosenCount_afterward {job : Job} {index : Nat}
    (hindex : index < job.plan.candidates.length) :
    chosenCount job (afterward job index) = index + 1 := by
  unfold afterward
  split
  · rfl
  · simp only [chosenCount]
    omega

/-- A call that is answered adds its record, and its reply if it brought one. -/
private theorem Serving.answered {job : Job} {run next : Run} {calls : List Exchange}
    {index chunk chunks : Nat} {c : Candidate} {call : Exchange} {a : Attempt}
    (h : run.Serving job calls index chunk) (hindex : call.index = index)
    (hc : job.plan.candidates[index]? = some c) (ha : a.timeless = call.record job c)
    (hattempts : next.attempts = run.attempts ++ [a])
    (houtputs : next.outputs = run.outputs ++
      call.reply?.toList.map fun (chunk, reply) => (chunk, reply.text))
    (hchunks : List.range chunk ++ call.reply?.toList.map (·.1) = List.range chunks) :
    next.Serving job (calls ++ [call]) index chunks := by
  obtain ⟨⟨c', before, block, hc', hblock, hrecords⟩, hreplies, hrange⟩ := h
  obtain rfl : c = c' := Option.some.inj (hc.symm.trans hc')
  have hmine : (calls ++ [call]).filter (·.index = index) =
      calls.filter (·.index = index) ++ [call] := by
    rw [List.filter_append, List.filter_cons_of_pos (by simpa using hindex), List.filter_nil]
  have hreply : [call].filterMap Exchange.reply? = call.reply?.toList := by
    cases hreply : call.reply? <;> simp [hreply]
  refine ⟨⟨c, before, block ++ [a], hc, ?_, ?_⟩, ?_, ?_⟩
  · rw [hattempts, hblock, List.append_assoc]
  · rw [hmine, List.map_append, List.map_append, hrecords, List.map_singleton, ha,
      List.map_singleton]
  · rw [hmine, List.filterMap_append, List.map_append, houtputs, hreplies, hreply]
  · rw [hmine, List.filterMap_append, List.map_append, hrange, hreply, hchunks]

/-- What there is of a candidate does not depend on the rest of the run. -/
private theorem Serving.kept {job : Job} {run next : Run} {calls : List Exchange}
    {index chunks : Nat} (h : run.Serving job calls index chunks)
    (hattempts : next.attempts = run.attempts) (houtputs : next.outputs = run.outputs) :
    next.Serving job calls index chunks :=
  ⟨hattempts ▸ h.records, houtputs ▸ h.replies, h.chunks⟩

/-- A candidate that is chosen starts with nothing. -/
private theorem serving_chosen {job : Job} {run : Run} {calls : List Exchange} {index : Nat}
    {c : Candidate} (hc : job.plan.candidates[index]? = some c)
    (hbefore : ∀ call ∈ calls, call.index < index) (houtputs : run.outputs = []) :
    run.Serving job calls index 0 := by
  have hnone : calls.filter (·.index = index) = [] := by
    rw [List.filter_eq_nil_iff]
    intro call hcall
    have := hbefore call hcall
    simp only [decide_eq_true_eq]
    omega
  refine ⟨⟨c, run.attempts, [], hc, (List.append_nil _).symm, ?_⟩, ?_, ?_⟩
  · rw [hnone]
    rfl
  · rw [hnone, houtputs]
    rfl
  · rw [hnone]
    rfl

private theorem chosen_append {job : Job} {calls : List Exchange} {call : Exchange}
    {state next : State} (h : ∀ call ∈ calls, call.index < chosenCount job state)
    (hnext : chosenCount job next = call.index + 1)
    (hsame : chosenCount job state = call.index + 1) :
    ∀ e ∈ calls ++ [call], e.index < chosenCount job next := by
  intro e he
  rcases List.mem_append.mp he with he | he
  · rw [hnext, ← hsame]
    exact h e he
  · rw [List.mem_singleton.mp he, hnext]
    exact Nat.lt_succ_self _

/-- Every move keeps the ledger. -/
theorem Moved.ledger {job : Job} {run next : Run} {calls made : List Exchange}
    (h : Moved job run next made) (hplaced : run.Placed job) (hledger : run.Ledger job calls) :
    next.Ledger job (calls ++ made) := by
  obtain ⟨hchosen, hcost, hserving⟩ := hledger
  cases h with
  | begun hstate hnext hattempts hcost' =>
      rw [List.append_nil]
      refine ⟨fun call hcall => ?_, by rw [hcost', hattempts, hcost], ?_⟩
      · have := hchosen call hcall
        rw [hstate] at this
        exact absurd this (Nat.not_lt_zero _)
      · split at hnext <;> simp only [hnext]
  | skipped hstate hc hprepare hnext ha hattempts hcost' =>
      rw [List.append_nil]
      refine ⟨fun call hcall => ?_, ?_, ?_⟩
      · have := hchosen call hcall
        rw [hstate] at this
        rw [hnext, chosenCount_afterward (List.getElem?_eq_some_iff.mp hc).1]
        exact Nat.lt_succ_of_lt this
      · rw [hcost', hattempts, sum_costs_append_free _ ha rfl, hcost]
      · rw [afterward] at hnext
        split at hnext <;> simp only [hnext]
  | chosen hstate hcalls hnext houtputs hattempts hcost' =>
      rw [hstate] at hchosen
      rw [List.append_nil]
      refine ⟨fun call hcall => ?_, by rw [hcost', hattempts, hcost], ?_⟩
      · rw [hnext]
        exact Nat.lt_succ_of_lt (hchosen call hcall)
      · simp only [hnext]
        exact serving_chosen hcalls.1 hchosen houtputs
  | @replied index chunk attempt c request reply a hstate hcalls hchunk hnext hprompts houtputs ha
      hattempts hcost' =>
      simp only [Placed, hstate] at hplaced
      rw [hstate] at hchosen
      simp only [hstate] at hserving
      have hadvanced : next.Serving job
          (calls ++ [⟨index, attempt, request, some (.ok reply)⟩]) index (chunk + 1) := by
        refine hserving.answered rfl hcalls.1 ha hattempts ?_ ?_
        · rw [houtputs, ← hchunk]
          rfl
        · rw [List.range_succ, ← hchunk]
          rfl
      refine ⟨chosen_append hchosen ?_ rfl, by rw [hcost', hattempts, sum_costs_append, hcost], ?_⟩
      · rw [hnext]
        split <;> rfl
      · split at hnext
        · simp only [hnext]
          exact hadvanced
        · have hlast : next.prompts.length = chunk + 1 := by
            rw [hprompts]
            omega
          simp only [hnext]
          rw [hlast]
          exact hadvanced
  | @failed index chunk attempt c request failure a hstate hcalls hchunk hnext hprompts houtputs ha
      hattempts hcost' =>
      rw [hstate] at hchosen
      simp only [hstate] at hserving
      refine ⟨chosen_append hchosen ?_ rfl, ?_, ?_⟩
      · rw [hnext]
        split
        · rfl
        · exact chosenCount_afterward hcalls.index_lt
      · rw [hcost', hattempts, sum_costs_append_free _ ha rfl, hcost]
      · split at hnext
        · simp only [hnext]
          exact hserving.answered rfl hcalls.1 ha hattempts
            (houtputs.trans (List.append_nil _).symm) (List.append_nil _)
        · rw [afterward] at hnext
          split at hnext <;> simp only [hnext]
  | rested hstate hnext hprompts houtputs hattempts hcost' =>
      rw [List.append_nil]
      rw [hstate] at hchosen
      simp only [hstate] at hserving
      refine ⟨fun call hcall => ?_, by rw [hcost', hattempts, hcost], ?_⟩
      · rw [hnext]
        exact hchosen call hcall
      · simp only [hnext]
        exact hserving.kept hattempts houtputs

/-- A run starts with a ledger without calls. -/
theorem start_ledger (job : Job) (now : Timestamp) : (Run.start job now).Ledger job [] := by
  obtain ⟨hstate, hattempts, hcost⟩ := start_eq job now
  refine ⟨fun call hcall => absurd hcall List.not_mem_nil, ?_, by simp only [hstate]⟩
  have hcosts : (Run.start job now).attempts.map (·.tokenCost) =
      job.plan.filteredOut.map fun _ => 0 :=
    calc (Run.start job now).attempts.map (·.tokenCost)
        = ((Run.start job now).attempts.map Attempt.timeless).map (·.tokenCost) := by
          rw [List.map_map]
          rfl
      _ = job.plan.filteredOut.map fun _ => 0 := by
          rw [hattempts, List.map_map]
          rfl
  rw [hcost, hcosts, Word.sum_map_zero]

end Run

/-- Outputs that are kept in chunk order are joined in this order. -/
theorem mergeOutputs_eq {replies : List (Nat × Backend.Reply)} {chunks : Nat}
    (h : replies.map (·.1) = List.range chunks) :
    Call.mergeOutputs (replies.map fun (chunk, reply) => (chunk, reply.text)) =
      "\n\n".intercalate (replies.map (·.2.text)) := by
  have hasc : ((replies.map fun (chunk, reply) => (chunk, reply.text)).map (·.1)).Pairwise
      (· < ·) := by
    have hrange : (replies.map (·.1)).Pairwise (· < ·) := h ▸ List.pairwise_lt_range
    rwa [List.map_map]
  rw [Call.mergeOutputs_of_ascending (List.Perm.refl _) hasc, List.map_map]
  rfl

/-- What a run of a sound job has that ends with a result. -/
theorem Run.follow_ok {job : Job} (hjob : job.Sound) {now : Timestamp} {moments : List Moment}
    {final : Run} {result : Result}
    (h : (Run.start job now).follow job moments = .stop final (.ok result)) :
    ∃ index c ended, final.Calls job index c ∧ result = final.finish job ended c ∧
      final.Ledger job ((Run.start job now).exchanges job moments) ∧
      final.Serving job ((Run.start job now).exchanges job moments) index
        final.prompts.length := by
  obtain ⟨last, made, m, -, extra, hledger, hstopped, hcalls⟩ :=
    start_follow_stop hjob (start_ledger job now)
      (fun hledger hplaced hmoved => hmoved.ledger hplaced hledger) h
  rw [hcalls]
  cases hstopped with
  | @succeeded index c ended hstate hcandidate =>
      have hserving := hledger.serving
      simp only [hstate] at hserving
      rw [List.append_nil]
      exact ⟨index, c, ended, hcandidate, rfl, hledger, hserving⟩

/-- Whatever the backends answer: a result names a candidate that has a call plan, and the number
of its calls. Of the records of this candidate, which come last, exactly one is a success for each
chunk. The output is made of the replies that these calls brought, in chunk order, and the cost is
that of all records if it is a word. -/
theorem result_faithful (request : Request) (settings : Settings) (haddr : request.Addressable)
    (now : Timestamp) (moments : List Moment) {final : Run} {result : Result}
    (h : (Run.start (request.job settings) now).follow (request.job settings) moments =
      .stop final (.ok result)) :
    ∃ i c plan, (request.job settings).plan.candidates[i]? = some c ∧ c.plan = some plan ∧
      let calls := ((Run.start (request.job settings) now).exchanges (request.job settings)
        moments).filter (·.index = i)
      result.model = c.model ∧ result.chunks = plan.chunkCount ∧ 1 ≤ plan.chunkCount ∧
      (∃ before block, result.attempts = before ++ block ∧
        block.map Attempt.timeless = calls.map (Exchange.record (request.job settings) c) ∧
        (block.filter (·.outcome = .success)).map (·.chunk) =
          (List.range plan.chunkCount).map c.label) ∧
      (calls.filterMap Exchange.reply?).map (·.1) = List.range plan.chunkCount ∧
      result.output = "\n\n".intercalate ((calls.filterMap Exchange.reply?).map (·.2.text)) ∧
      (Word.total (result.attempts.map (·.tokenCost)) < Word.size64 →
        result.tokenCost = Word.total (result.attempts.map (·.tokenCost))) := by
  have hjob := request.job_sound settings haddr
  obtain ⟨i, c, ended, hcalls, rfl, hledger, ⟨c', before, block, hc, hblock, hrecords⟩, hreplies,
    hchunks⟩ := Run.follow_ok hjob h
  obtain rfl : c = c' := hcalls.unique hc
  obtain ⟨plan, hplan, -, hprompts, -⟩ := Run.prepare_eq_ok_iff.mp hcalls.2
  have hcount : final.prompts.length = plan.chunkCount := by rw [hprompts, Call.length_prompts]
  rw [hcount] at hchunks
  refine ⟨i, c, plan, hc, hplan, rfl, ?_, hjob.calls_pos c (List.mem_of_getElem? hc) plan hplan,
    ⟨before, block, hblock, hrecords, ?_⟩, hchunks, ?_, ?_⟩
  · show final.outputs.length = plan.chunkCount
    rw [hreplies, List.length_map, ← List.length_map, hchunks, List.length_range]
  · have htimeless : (block.filter (·.outcome = .success)).map (·.chunk) =
        ((block.map Attempt.timeless).filter (·.outcome = .success)).map (·.chunk) := by
      rw [List.filter_map, List.map_map]
      rfl
    rw [htimeless, hrecords, Exchange.record_success, ← hchunks, List.map_map]
    rfl
  · show Call.mergeOutputs final.outputs = _
    rw [hreplies, mergeOutputs_eq hchunks]
  · intro hsum
    exact hledger.cost.trans (Word.sum_eq hsum)

/-- Moments for `sampleRequest`: the backend is busy once and then answers twice. -/
def sampleMoments : List Moment :=
  [.ok ⟨"", none⟩, .ok ⟨"", none⟩, Backend.transient "busy", .ok ⟨"", none⟩, .ok ⟨"one", none⟩,
    .ok ⟨"two", none⟩, .ok ⟨"", none⟩].map Moment.calm

/-- The result of `sampleRequest` in `sampleMoments`. -/
theorem sampleRequest_result_faithful :
    ∃ final result, (Run.start (sampleRequest.job sampleSettings) ⟨0, 0⟩).follow
        (sampleRequest.job sampleSettings) sampleMoments = .stop final (.ok result) ∧
      result.model = "patient" ∧ result.chunks = 2 ∧ result.output = "one\n\ntwo" := by
  have hrun : ∃ final result, (Run.start (sampleRequest.job sampleSettings) ⟨0, 0⟩).follow
      (sampleRequest.job sampleSettings) sampleMoments = .stop final (.ok result) := by
    rw [sampleRequest_job]
    exact ⟨_, _, rfl⟩
  obtain ⟨final, result, h⟩ := hrun
  obtain ⟨i, c, plan, hc, hplan, hmodel, hchunks, -, -, -, houtput, -⟩ :=
    result_faithful sampleRequest sampleSettings sampleRequest_addressable ⟨0, 0⟩ sampleMoments h
  rw [sampleRequest_job] at hc houtput
  cases i with
  | succ i => simp [samplePlan] at hc
  | zero =>
      cases hc
      cases hplan
      exact ⟨final, result, h, hmodel, hchunks, houtput.trans (by decide +kernel)⟩

end Switchboard.Route
