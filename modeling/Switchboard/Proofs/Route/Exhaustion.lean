import Switchboard.Proofs.Route.Result
import Switchboard.Proofs.Route.Selection

/-!
# When all models are exhausted

A run that ends without a result tells three things of itself: the models it tried, its records,
and the last error. They are kept apart on the way. A model is noted as tried when it is passed over
or chosen, a record is written when it is passed over or called, and the error is replaced when
something goes wrong. At every choice of a model the three agree: the models tried are those up to
here, each of them has records of its own that bring no result, and the error is that of the last
record. While a model is called they need not, since a reply leaves a record and no error.

None of this depends on how often a call is repeated, so no bound on the retries comes in.

## Main results

* `Run.Turned.told` — at every choice of a model the error tells of the last record.
* `Run.Moved.noted` — the models tried are those passed over and those chosen so far.
* `Run.Moved.reported` — every model that was given up has records that bring no result.
* `Run.follow_exhausted` — what a run of a sound job has tried that ends without a result.
* `exhausted_after_all` — all candidates of a request were tried before.
-/

namespace Switchboard.Route

/-- What a record says went wrong: the error, after the name of the model and, if it was called,
the kind of failure. -/
def Attempt.account (a : Attempt) : String :=
  let error := a.error.getD ""
  a.model ++ ": " ++ if a.outcome.wasCalled then a.outcome.name ++ ": " ++ error else error

/-- What the last record says, or nothing if there is none. -/
def lastAccount (attempts : List Attempt) : String :=
  (attempts.getLast?.map Attempt.account).getD ""

theorem lastAccount_append (attempts : List Attempt) (a : Attempt) :
    lastAccount (attempts ++ [a]) = a.account := by
  rw [lastAccount, List.getLast?_append]
  rfl

/-- The account of a record is never empty. -/
theorem Attempt.account_ne_empty (a : Attempt) : a.account.isEmpty = false := by
  have hcolon : ':' ∈ a.account.toList := by
    simp only [account, String.toList_append, List.mem_append]
    exact .inl (.inr (by decide))
  cases hempty : a.account.isEmpty with
  | false => rfl
  | true =>
      rw [String.isEmpty_iff.mp hempty] at hcolon
      cases hcolon

/-- The records of calls of a candidate, of which those of its first chunks succeeded. -/
structure Candidate.Progress (c : Candidate) (block : List Attempt) (done : Nat) : Prop where
  called : ∀ a ∈ block, a.model = c.model ∧ a.outcome.wasCalled = true
  successes : (block.filter (·.outcome = .success)).map (·.chunk) = (List.range done).map c.label

/-- The records of a candidate that brought no result: one that says it was passed over, or those
of calls that did not complete all of its chunks. -/
inductive Candidate.Fruitless (c : Candidate) : List Attempt → Prop where
  | skipped {a : Attempt} (hmodel : a.model = c.model) (houtcome : a.outcome = .skipped) :
      Fruitless c [a]
  | givenUp {plan : Call.Plan} {block : List Attempt} {done : Nat} (hplan : c.plan = some plan)
      (hdone : done < plan.chunkCount) (hne : block ≠ []) (hprogress : c.Progress block done) :
      Fruitless c block

/-- Every candidate leaves a record. -/
theorem Candidate.Fruitless.ne_nil {c : Candidate} {block : List Attempt} (h : c.Fruitless block) :
    block ≠ [] := by
  cases h with
  | skipped => exact List.cons_ne_nil _ _
  | givenUp hplan hdone hne => exact hne

/-- There are no records exactly when there are no candidates. -/
theorem Candidate.Fruitless.flatten_eq_nil_iff {candidates : List Candidate}
    {blocks : List (List Attempt)} (h : List.Forall₂ Candidate.Fruitless candidates blocks) :
    blocks.flatten = [] ↔ candidates = [] := by
  cases h with
  | nil => simp only [List.flatten_nil]
  | cons hblock hblocks => simp [hblock.ne_nil]

/-- A call that is answered adds its record, and a chunk is done if it brought a reply. -/
theorem Candidate.Progress.answered {job : Job} {c : Candidate} {block : List Attempt}
    {call : Exchange} {answer : Backend.Answer} {a : Attempt} {done next : Nat}
    (h : c.Progress block done) (ha : a.timeless = call.record job c)
    (hanswer : call.answer = some answer)
    (hnext : List.range done ++ call.reply?.toList.map (·.1) = List.range next) :
    c.Progress (block ++ [a]) next where
  called := by
    intro b hb
    rcases List.mem_append.mp hb with hb | hb
    · exact h.called b hb
    · obtain rfl := List.mem_singleton.mp hb
      show b.timeless.model = c.model ∧ b.timeless.outcome.wasCalled = true
      rw [ha, Exchange.record, hanswer]
      rcases answer with ⟨⟨kind, message⟩⟩ | reply
      · cases kind <;> exact ⟨rfl, rfl⟩
      · exact ⟨rfl, rfl⟩
  successes := by
    have hrecord : ([a].filter (·.outcome = .success)).map (·.chunk) =
        (call.reply?.toList.map (·.1)).map c.label :=
      calc ([a].filter (·.outcome = .success)).map (·.chunk)
          = (([a].map Attempt.timeless).filter (·.outcome = .success)).map (·.chunk) := by
            rw [List.filter_map, List.map_map]
            rfl
        _ = ([call].filterMap Exchange.reply?).map fun x => c.label x.1 := by
            rw [List.map_singleton, ha]
            exact Exchange.record_success job c [call]
        _ = (call.reply?.toList.map (·.1)).map c.label := by
            rw [List.map_map]
            cases hreply : call.reply? <;> simp [hreply]
    rw [List.filter_append, List.map_append, h.successes, hrecord, ← List.map_append, hnext]

namespace Run

variable {job : Job} {run next : Run} {made : List Exchange}

/-! ## The last error -/

/-- Between two models, the last error is that of the last record. -/
def Told (run : Run) : Prop :=
  match run.state with
  | .pending | .selecting _ | .exhausted => run.lastError = lastAccount run.attempts
  | .calling .. | .retrying .. | .succeeded _ => True

/-- A run whose last error is that of its last record may go anywhere. -/
theorem told_of_eq (h : run.lastError = lastAccount run.attempts) : run.Told := by
  unfold Told
  split
  · exact h
  · exact h
  · exact h
  all_goals trivial

/-- A run that passes over a model tells why. -/
theorem told_skip (now : Timestamp) (run : Run) (model reason : String) :
    (run.skip job now model reason).lastError =
      lastAccount (run.skip job now model reason).attempts :=
  Eq.trans (by rfl) (lastAccount_append run.attempts _).symm

/-- A run that receives a failure tells of it. -/
theorem told_failure (now : Timestamp) (run : Run) (c : Candidate) (chunk attempt : Nat)
    (failure : Failure) :
    (run.receive job now c chunk attempt (.error failure)).lastError =
      lastAccount (run.receive job now c chunk attempt (.error failure)).attempts := by
  refine Eq.trans ?_ (lastAccount_append run.attempts _).symm
  cases failure with
  | mk kind message => cases kind <;> rfl

/-- Every turn keeps the last error in step with the records. -/
theorem Turned.told {m : Moment} (h : Turned job m run (.next next) made) (htold : run.Told) :
    next.Told := by
  cases h with
  | begun hstate =>
      simp only [Told, hstate] at htold
      exact told_of_eq htold
  | @selected index c hstate hc =>
      cases hprepare : prepare job c with
      | error reason =>
          simp only [select, hprepare]
          exact told_of_eq (told_skip m.now _ c.model reason)
      | ok prompts =>
          obtain ⟨hnext, -⟩ := select_of_ok m.now hstate hprepare
          simp only [Told, hnext]
  | @answered index chunk attempt c request hstate hc hrequest =>
      cases hanswer : m.answer with
      | error failure => exact told_of_eq (told_failure m.later _ c chunk attempt failure)
      | ok reply =>
          simp only [receive, fire, note, hstate]
          by_cases hmore : chunk + 1 < run.prompts.length <;>
            simp only [Told, hmore, if_true, if_false, transition]
  | @rested index chunk attempt delayMs c hstate hc =>
      simp only [Told, fire, hstate, transition]

/-! ## The models tried -/

/-- The model that a turn notes as tried. -/
def choosing (job : Job) : State → List String
  | .selecting index => (job.plan.candidates[index]?.map (·.model)).toList
  | _ => []

/-- The models tried are those that were passed over at the start and those chosen so far. -/
def Noted (job : Job) (run : Run) : Prop :=
  run.tried = job.plan.filteredOut ++
    (job.plan.candidates.take (chosenCount job run.state)).map (·.model)

/-- A turn notes the model it chooses and no other. -/
theorem Turned.tried {m : Moment} (h : Turned job m run (.next next) made) :
    next.tried = run.tried ++ choosing job run.state := by
  cases h with
  | begun hstate => simp only [fire, hstate, choosing, List.append_nil]
  | @selected index c hstate hc =>
      simp only [choosing, hstate, hc, Option.map_some, Option.toList_some, select]
      split <;> rfl
  | @answered index chunk attempt c request hstate hc hrequest =>
      simp only [hstate, choosing, List.append_nil]
      cases m.answer <;> rfl
  | rested hstate => simp only [fire, hstate, choosing, List.append_nil]

/-- A move that chooses a candidate leaves one more chosen, and every other move as many. -/
theorem Moved.take_chosen (h : Moved job run next made) :
    (job.plan.candidates.take (chosenCount job next.state)).map (·.model) =
      (job.plan.candidates.take (chosenCount job run.state)).map (·.model) ++
        choosing job run.state := by
  have hchoose {index : Nat} {c : Candidate} (hc : job.plan.candidates[index]? = some c) :
      (job.plan.candidates.take (index + 1)).map (·.model) =
        (job.plan.candidates.take index).map (·.model) ++ [c.model] := by
    rw [List.take_add_one, hc, List.map_append]
    rfl
  cases h with
  | begun hstate hnext =>
      have hzero : chosenCount job next.state = 0 := by
        rw [hnext]
        split
        next hnone => exact hnone
        next => rfl
      rw [hzero, hstate]
      rfl
  | skipped hstate hc hprepare hnext =>
      rw [hnext, chosenCount_afterward (List.getElem?_eq_some_iff.mp hc).1, hstate, hchoose hc]
      simp only [chosenCount, choosing, hc]
      rfl
  | chosen hstate hcalls hnext =>
      rw [hnext, hstate]
      simp only [chosenCount, choosing, hcalls.1]
      exact hchoose hcalls.1
  | @replied index chunk attempt c request reply a hstate hcalls hchunk hnext =>
      have hsame : chosenCount job next.state = index + 1 := by
        rw [hnext]
        split <;> rfl
      rw [hsame, hstate]
      exact (List.append_nil _).symm
  | @failed index chunk attempt c request failure a hstate hcalls hchunk hnext =>
      have hsame : chosenCount job next.state = index + 1 := by
        rw [hnext]
        split
        · rfl
        · exact chosenCount_afterward hcalls.index_lt
      rw [hsame, hstate]
      exact (List.append_nil _).symm
  | rested hstate hnext =>
      rw [hnext, hstate]
      exact (List.append_nil _).symm

/-- Every move keeps the models tried in step with the candidates. -/
theorem Moved.noted {m : Moment} (h : Moved job run next made)
    (hturned : Turned job m run (.next next) made) (hnoted : run.Noted job) : next.Noted job := by
  unfold Noted at hnoted ⊢
  rw [hturned.tried, h.take_chosen, hnoted, List.append_assoc]

/-! ## The records of each model -/

/-- The first candidates have brought no result, and behind the records of the start stand theirs,
one block after the other. -/
def Spent (job : Job) (passed : List Attempt) (run : Run) (count : Nat) : Prop :=
  ∃ blocks, List.Forall₂ Candidate.Fruitless (job.plan.candidates.take count) blocks ∧
    run.attempts = passed ++ blocks.flatten

/-- The candidate at a position is being called, and its first chunks are done. -/
def Working (job : Job) (passed : List Attempt) (run : Run) (index chunk : Nat) : Prop :=
  ∃ c blocks block, job.plan.candidates[index]? = some c ∧
    List.Forall₂ Candidate.Fruitless (job.plan.candidates.take index) blocks ∧
    c.Progress block chunk ∧ run.attempts = passed ++ blocks.flatten ++ block

/-- The records of a run on its way, by candidate. -/
def Reported (job : Job) (passed : List Attempt) (run : Run) : Prop :=
  match run.state with
  | .pending => run.attempts = passed
  | .selecting index => run.Spent job passed index
  | .calling index chunk _ | .retrying index chunk _ _ => run.Working job passed index chunk
  | .succeeded _ => True
  | .exhausted => run.Spent job passed job.plan.candidates.length

/-- One candidate more has brought no result. -/
private theorem reported_afterward {passed : List Attempt} {index : Nat} {c : Candidate}
    {blocks : List (List Attempt)} {block : List Attempt}
    (hc : job.plan.candidates[index]? = some c) (hstate : next.state = afterward job index)
    (hblocks : List.Forall₂ Candidate.Fruitless (job.plan.candidates.take index) blocks)
    (hblock : c.Fruitless block)
    (hattempts : next.attempts = passed ++ blocks.flatten ++ block) :
    next.Reported job passed := by
  have hspent : next.Spent job passed (index + 1) := by
    refine ⟨blocks ++ [block], ?_, ?_⟩
    · rw [List.take_add_one, hc]
      exact List.rel_append hblocks (.cons hblock .nil)
    · rw [hattempts, List.flatten_append, List.flatten_singleton, List.append_assoc]
  have hindex := (List.getElem?_eq_some_iff.mp hc).1
  rw [afterward] at hstate
  split at hstate
  next => simpa only [Reported, hstate] using hspent
  next hlast =>
    have hall : job.plan.candidates.length = index + 1 := by omega
    simpa only [Reported, hstate, hall] using hspent

/-- Every move keeps the records of a run in step with the candidates. -/
theorem Moved.reported {passed : List Attempt} (h : Moved job run next made)
    (hplaced : run.Placed job) (hreported : run.Reported job passed) :
    next.Reported job passed := by
  cases h with
  | begun hstate hnext hattempts =>
      simp only [Reported, hstate] at hreported
      have hspent : next.Spent job passed 0 :=
        ⟨[], .nil, by rw [hattempts, hreported, List.flatten_nil, List.append_nil]⟩
      split at hnext
      next hnone => simpa only [Reported, hnext, hnone] using hspent
      next => simpa only [Reported, hnext] using hspent
  | skipped hstate hc hprepare hnext ha hattempts =>
      simp only [Reported, hstate] at hreported
      obtain ⟨blocks, hblocks, hrecords⟩ := hreported
      refine reported_afterward hc hnext hblocks ?_ (by rw [hattempts, hrecords])
      exact .skipped (congrArg Attempt.model ha) (congrArg Attempt.outcome ha)
  | @chosen index c hstate hcalls hnext houtputs hattempts =>
      simp only [Reported, hstate] at hreported
      obtain ⟨blocks, hblocks, hrecords⟩ := hreported
      simp only [Reported, hnext]
      exact ⟨c, blocks, [], hcalls.1, hblocks, ⟨fun _ h => absurd h List.not_mem_nil, rfl⟩,
        by rw [hattempts, hrecords, List.append_nil]⟩
  | replied hstate hcalls hchunk hnext hprompts houtputs ha hattempts =>
      simp only [Reported, hstate] at hreported
      obtain ⟨c, blocks, block, hc, hblocks, hprogress, hrecords⟩ := hreported
      obtain rfl := hcalls.unique hc
      split at hnext
      next =>
        simp only [Reported, hnext]
        refine ⟨_, blocks, _, hc, hblocks, hprogress.answered ha rfl ?_,
          by rw [hattempts, hrecords, List.append_assoc]⟩
        rw [List.range_succ, ← hchunk]
        rfl
      next => simp only [Reported, hnext]
  | @failed index chunk attempt c request failure a hstate hcalls hchunk hnext hprompts houtputs ha
      hattempts =>
      have hwithin := hplaced
      simp only [Placed, hstate] at hwithin
      simp only [Reported, hstate] at hreported
      obtain ⟨c', blocks, block, hc, hblocks, hprogress, hrecords⟩ := hreported
      obtain rfl := hcalls.unique hc
      have hprogress := hprogress.answered ha rfl (List.append_nil _)
      have hrecords' : next.attempts = passed ++ blocks.flatten ++ (block ++ [a]) := by
        rw [hattempts, hrecords, List.append_assoc]
      split at hnext
      next =>
        simp only [Reported, hnext]
        exact ⟨c, blocks, block ++ [a], hc, hblocks, hprogress, hrecords'⟩
      next =>
        obtain ⟨plan, hplan, -, hprompts, -⟩ := prepare_eq_ok_iff.mp hcalls.2
        have hcount : run.prompts.length = plan.chunkCount := by
          rw [hprompts, Call.length_prompts]
        refine reported_afterward hc hnext hblocks (.givenUp hplan (hcount ▸ hwithin.2) ?_
          hprogress) hrecords'
        exact List.append_ne_nil_of_right_ne_nil _ (List.cons_ne_nil _ _)
  | rested hstate hnext hprompts houtputs hattempts =>
      simp only [Reported, hstate] at hreported
      simp only [Reported, hnext]
      obtain ⟨c, blocks, block, hc, hblocks, hprogress, hrecords⟩ := hreported
      exact ⟨c, blocks, block, hc, hblocks, hprogress, hattempts.trans hrecords⟩

/-! ## Where a run starts -/

/-- What passing over a model keeps holds at the start. -/
private theorem start_induction {P : Run → Prop} {now : Timestamp} (hnone : P { started := now })
    (hpass : ∀ run name, P run →
      P { run.skip job now name (tooSmall job.plan) with tried := run.tried ++ [name] }) :
    P (Run.start job now) :=
  List.foldlRecOn job.plan.filteredOut _ hnone fun run hrun name _ => hpass run name hrun

theorem start_told (job : Job) (now : Timestamp) : (Run.start job now).Told :=
  told_of_eq (start_induction (P := fun run => run.lastError = lastAccount run.attempts) rfl
    fun run name _ => told_skip now run name _)

/-- The models noted as tried at the start are those of the records. -/
theorem start_tried (job : Job) (now : Timestamp) :
    (Run.start job now).tried = (Run.start job now).attempts.map (·.model) :=
  start_induction (P := fun run => run.tried = run.attempts.map (·.model)) rfl
    fun run name hrun => by
      show run.tried ++ [name] = (run.attempts ++ [_]).map Attempt.model
      rw [hrun, List.map_append]
      rfl

/-- The records of the start are those of the models passed over. -/
theorem start_passed (job : Job) (now : Timestamp) :
    (Run.start job now).attempts.map (·.model) = job.plan.filteredOut ∧
      ∀ a ∈ (Run.start job now).attempts, a.outcome = .skipped := by
  obtain ⟨-, hattempts, -⟩ := start_eq job now
  constructor
  · have hmodels := congrArg (List.map Attempt.model) hattempts
    rw [List.map_map, List.map_map] at hmodels
    exact hmodels.trans (List.map_id _)
  · intro a ha
    have hmem : a.timeless ∈ job.plan.filteredOut.map (skipRecord job · (tooSmall job.plan)) :=
      hattempts ▸ List.mem_map_of_mem ha
    obtain ⟨name, -, hname⟩ := List.mem_map.mp hmem
    exact (congrArg Attempt.outcome hname).symm

theorem start_noted (job : Job) (now : Timestamp) : (Run.start job now).Noted job := by
  rw [Noted, (start_eq job now).1, start_tried, (start_passed job now).1]
  exact (List.append_nil _).symm

theorem start_reported (job : Job) (now : Timestamp) :
    (Run.start job now).Reported job (Run.start job now).attempts := by
  simp only [Reported, (start_eq job now).1]

/-! ## How a run ends without a result -/

/-- The error of a run that is told by its last record. -/
theorem exhaustion_eq (h : run.lastError = lastAccount run.attempts) :
    run.exhaustion job = .exhausted job.request.taskId run.tried job.plan.fragments
      ((run.attempts.getLast?.map Attempt.account).getD "no candidate models") run.attempts := by
  rw [exhaustion, h, lastAccount]
  cases run.attempts.getLast? with
  | none => rfl
  | some a => simp only [Option.map_some, Option.getD_some, a.account_ne_empty, Bool.false_eq_true,
      if_false]

/-- What a run tells of itself agrees with the candidates. -/
structure Accounted (job : Job) (passed : List Attempt) (run : Run) : Prop where
  placed : run.Placed job
  told : run.Told
  noted : run.Noted job
  reported : run.Reported job passed

theorem start_accounted (job : Job) (now : Timestamp) :
    (Run.start job now).Accounted job (Run.start job now).attempts :=
  ⟨start_placed job now, start_told job now, start_noted job now, start_reported job now⟩

/-- Every turn keeps what a run tells of itself in step with the candidates. -/
theorem Turned.accounted {m : Moment} {passed : List Attempt} (hjob : job.Sound)
    (h : Turned job m run (.next next) made) (hrun : run.Accounted job passed) :
    next.Accounted job passed :=
  have hmoved := hrun.placed.moved hjob h
  ⟨hmoved.placed hrun.placed, h.told hrun.told, hmoved.noted h hrun.noted,
    hmoved.reported hrun.placed hrun.reported⟩

/-- A run of a sound job that ends without a result has tried all candidates in vain. -/
theorem follow_exhausted (hjob : job.Sound) {now : Timestamp} {moments : List Moment}
    {final : Run} {taskId : String} {tried : List String} {fragments : Nat} {lastError : String}
    {attempts : List Attempt}
    (h : (Run.start job now).follow job moments =
      .stop final (.error (.exhausted taskId tried fragments lastError attempts))) :
    Error.exhausted taskId tried fragments lastError attempts = final.exhaustion job ∧
      final.lastError = lastAccount final.attempts ∧
      final.tried = job.plan.filteredOut ++ job.plan.candidates.map (·.model) ∧
      final.Spent job (Run.start job now).attempts job.plan.candidates.length := by
  obtain ⟨last, made, m, -, extra, hlast, hturned, -⟩ :=
    @follow_stop job (fun run _ => run.Accounted job (Run.start job now).attempts)
      (fun hrun hturned => hturned.accounted hjob hrun) _ _ [] _ _ (start_accounted job now) h
  obtain ⟨hplaced, htold, hnoted, hreported⟩ := hlast
  cases hplaced.stopped hjob hturned with
  | exhausted hstate =>
      simp only [Told, hstate] at htold
      simp only [Noted, hstate, chosenCount, List.take_length] at hnoted
      simp only [Reported, hstate] at hreported
      exact ⟨rfl, htold, hnoted, hreported⟩

end Run

/-- **All models are exhausted only after all were tried.** Whatever the backends answer: when a
run of a planned request ends without a result, it has tried the models passed over and then the
ranked ones, which together are the candidates of the request. Every model that was passed over has
a record that says so. Every ranked one has records of its own as well, behind those and in order:
one that says it was passed over, or those of calls that did not complete all of its chunks. The
last error is the account of the last record. It says instead that there were no models, and there
is no record, exactly when the request has no candidates. -/
theorem exhausted_after_all (request : Request) (settings : Settings)
    (haddr : request.Addressable) (now : Timestamp) (moments : List Moment) {final : Run}
    {taskId : String} {tried : List String} {fragments : Nat} {lastError : String}
    {attempts : List Attempt}
    (h : (Run.start (request.job settings) now).follow (request.job settings) moments =
      .stop final (.error (.exhausted taskId tried fragments lastError attempts))) :
    let plan := (request.job settings).plan
    taskId = request.taskId ∧ fragments = request.package.fragments.length ∧
    tried = plan.filteredOut ++ plan.candidates.map (·.model) ∧
    tried.Perm (request.candidates.map (·.name)) ∧
    (∃ passed blocks, attempts = passed ++ blocks.flatten ∧
      passed.map (·.model) = plan.filteredOut ∧ (∀ a ∈ passed, a.outcome = .skipped) ∧
      List.Forall₂ Candidate.Fruitless plan.candidates blocks) ∧
    (∀ a, attempts.getLast? = some a → lastError = a.account) ∧
    (lastError = "no candidate models" ∧ attempts = [] ↔ request.candidates = []) := by
  intro plan
  obtain ⟨herror, htold, htried, blocks, hblocks, hattempts⟩ :=
    Run.follow_exhausted (request.job_sound settings haddr) h
  rw [Run.exhaustion_eq htold, htried] at herror
  injection herror with htask htried hfragments hlast hrecords
  rw [List.take_length] at hblocks
  obtain ⟨hpassed, hskipped⟩ := Run.start_passed (request.job settings) now
  have hperm : tried.Perm (request.candidates.map (·.name)) :=
    htried ▸ request.plan_models_perm settings.estimator settings.margin
  rw [← hrecords] at hattempts hlast
  refine ⟨htask, hfragments, htried, hperm, ⟨_, blocks, hattempts, hpassed, hskipped, hblocks⟩,
    fun a ha => ?_, ?_⟩
  · rw [hlast, ha]
    rfl
  · have hnone : attempts = [] ↔ request.candidates = [] :=
      calc attempts = []
          ↔ tried = [] := by
            rw [hattempts, htried, List.append_eq_nil_iff, List.append_eq_nil_iff, ← hpassed,
              List.map_eq_nil_iff, List.map_eq_nil_iff,
              Candidate.Fruitless.flatten_eq_nil_iff hblocks]
        _ ↔ request.candidates = [] := by
            rw [← List.length_eq_zero_iff, hperm.length_eq, List.length_map,
              List.length_eq_zero_iff]
    rw [← hnone, and_iff_right_iff_imp]
    intro hnil
    rw [hlast, hnil]
    rfl

/-- Moments for `sampleRequest`: the backend answers for the first chunk and refuses the second. -/
def refusedMoments : List Moment :=
  [.ok ⟨"", none⟩, .ok ⟨"", none⟩, .ok ⟨"one", none⟩, Backend.capability "no",
    .ok ⟨"", none⟩].map Moment.calm

/-- The end of `sampleRequest` in `refusedMoments`, with a chunk done. -/
theorem sampleRequest_exhausted_after_all :
    ∃ final lastError attempts,
      (Run.start (sampleRequest.job sampleSettings) ⟨0, 0⟩).follow
          (sampleRequest.job sampleSettings) refusedMoments =
        .stop final (.error (.exhausted "task" ["small", "patient"] 2 lastError attempts)) ∧
      attempts.map (·.outcome) = [.skipped, .success, .capability] ∧
      lastError = "patient: capability: no" := by
  have hrun : ∃ final lastError attempts,
      (Run.start (sampleRequest.job sampleSettings) ⟨0, 0⟩).follow
          (sampleRequest.job sampleSettings) refusedMoments =
        .stop final (.error (.exhausted "task" ["small", "patient"] 2 lastError attempts)) ∧
      attempts.map (·.outcome) = [.skipped, .success, .capability] ∧
      attempts.getLast?.map Attempt.account = some "patient: capability: no" := by
    rw [sampleRequest_job]
    exact ⟨_, _, _, rfl, rfl, rfl⟩
  obtain ⟨final, lastError, attempts, h, houtcomes, haccount⟩ := hrun
  obtain ⟨-, -, -, -, -, hlast, -⟩ := exhausted_after_all sampleRequest sampleSettings
    sampleRequest_addressable ⟨0, 0⟩ refusedMoments h
  obtain ⟨a, ha, haccount⟩ := Option.map_eq_some_iff.mp haccount
  exact ⟨final, lastError, attempts, h, houtcomes, (hlast a ha).trans haccount⟩

end Switchboard.Route
