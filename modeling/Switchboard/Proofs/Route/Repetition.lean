import Mathlib.Data.List.Perm.Subperm
import Mathlib.Data.List.ProdSigma
import Switchboard.Proofs.Model.Registry
import Switchboard.Proofs.Route.Asking

/-!
# Models that are called again

A run goes through its calls in one direction: from one candidate to a later one, from one chunk to
a later one and from one attempt to the next. A refusal takes it to a later candidate. So a
candidate that has refused a call is not called any more, and a chunk is tried no more often than
the policy says.

All this is said of positions in the plan. A model stands there as often as it was named, and each
of its positions is a candidate of its own. What holds of positions holds of models that were named
once; a model that was named twice is called again after it has refused.

## Main results

* `Run.Moved.orderly` — every move goes forward.
* `Request.count_models_le` — how often a plan has a model.
* `calls_go_forward` — which models are called again, and how often.
* `named_twice_called_again` — a model that has refused and is called again.
-/

namespace Switchboard.Route

open Switchboard.Model (Registry)

/-! ## How often a plan has a model -/

/-- The places of a list change nothing about what stands there. -/
theorem map_zipIdx_fst {α β : Type _} (f : α → β) (list : List α) :
    list.zipIdx.map (fun place => f place.1) = list.map f := by
  have hfst : list.zipIdx.map Prod.fst = list := List.zipIdx_map_fst 0 list
  calc list.zipIdx.map (fun place => f place.1)
      = (list.zipIdx.map Prod.fst).map f := List.map_map.symm
    _ = list.map f := by rw [hfst]

/-- Ranking and planning bring in no model that was not there. -/
theorem Request.count_models_le (request : Request) (estimator : Estimator) (margin : Float)
    (name : String) :
    ((request.plan estimator margin).candidates.map (·.model)).count name ≤
      (request.candidates.map (·.name)).count name := by
  have hmodels : (request.plan estimator margin).candidates.map (·.model) =
      (Model.rank request.candidates request.package.tokensUsed request.tags).map
        (·.profile.name) := by
    simp only [Request.plan, List.map_map]
    exact List.map_congr_left fun ranked _ => Candidate.ofRanked_model ..
  rw [hmodels, Model.rank, ((List.mergeSort_perm _ _).map _).count_eq, List.map_map,
    ← map_zipIdx_fst _ request.candidates]
  exact (List.filter_sublist.map _).count_le name

/-- The positions at which a plan has a model. -/
def Plan.positions (plan : Plan) (name : String) : List Nat :=
  (plan.candidates.zipIdx.filter fun (c, _) => c.model = name).map (·.2)

theorem Plan.mem_positions {plan : Plan} {name : String} {c : Candidate} {i : Nat}
    (hc : plan.candidates[i]? = some c) (hname : c.model = name) : i ∈ plan.positions name := by
  have hfound : (c, i) ∈ plan.candidates.zipIdx := List.mem_zipIdx_iff_getElem?.mpr hc
  exact List.mem_map.mpr ⟨(c, i), List.mem_filter.mpr ⟨hfound, by simpa using hname⟩, rfl⟩

theorem Plan.length_positions (plan : Plan) (name : String) :
    (plan.positions name).length = (plan.candidates.map (·.model)).count name := by
  rw [positions, List.length_map, ← List.countP_eq_length_filter, ← map_zipIdx_fst, List.count,
    List.countP_map]
  rfl

/-! ## Calls go forward -/

/-- The backend will not take the call, now or later. -/
def Exchange.IsRefused (call : Exchange) : Prop :=
  ∃ failure, call.answer = some (.error failure) ∧ failure.kind = .capability

/-- The call comes before an attempt at a chunk of the candidate at a position: it went to an earlier
candidate, or it was not refused and is an earlier attempt or for an earlier chunk. -/
def Exchange.Precedes (call : Exchange) (index chunk attempt : Nat) : Prop :=
  call.index < index ∨ call.index = index ∧ ¬call.IsRefused ∧
    (call.request.chunk < chunk ∨ call.request.chunk = chunk ∧ call.attempt < attempt)

namespace Exchange

variable {call : Exchange} {index chunk attempt : Nat}

theorem Precedes.index_le (h : call.Precedes index chunk attempt) : call.index ≤ index := by
  rcases h with hlt | ⟨heq, -⟩
  · exact Nat.le_of_lt hlt
  · exact Nat.le_of_eq heq

theorem Precedes.next_attempt (h : call.Precedes index chunk attempt) :
    call.Precedes index chunk (attempt + 1) := by
  rcases h with hlt | ⟨heq, htaken, hlt | ⟨hchunk, hattempt⟩⟩
  · exact .inl hlt
  · exact .inr ⟨heq, htaken, .inl hlt⟩
  · exact .inr ⟨heq, htaken, .inr ⟨hchunk, Nat.lt_succ_of_lt hattempt⟩⟩

theorem Precedes.next_chunk (h : call.Precedes index chunk attempt) :
    call.Precedes index (chunk + 1) 1 := by
  rcases h with hlt | ⟨heq, htaken, hlt | ⟨hchunk, -⟩⟩
  · exact .inl hlt
  · exact .inr ⟨heq, htaken, .inl (Nat.lt_succ_of_lt hlt)⟩
  · exact .inr ⟨heq, htaken, .inl (Nat.lt_succ_of_le (Nat.le_of_eq hchunk))⟩

end Exchange

namespace Run

variable {job : Job} {run next : Run} {calls made : List Exchange} {call : Exchange}

/-- The call comes before all those that the run may still make. -/
def IsPast (run : Run) (call : Exchange) : Prop :=
  match run.state with
  | .pending => False
  | .selecting index => call.index < index
  | .calling index chunk attempt => call.Precedes index chunk attempt
  | .retrying index chunk attempt _ => call.Precedes index chunk (attempt + 1)
  | .succeeded _ | .exhausted => True

/-- Each call comes before the next ones, and no attempt is one too many. -/
def Forward (job : Job) (calls : List Exchange) : Prop :=
  (calls.Pairwise fun earlier later =>
    earlier.Precedes later.index later.request.chunk later.attempt) ∧
  ∀ call ∈ calls, 1 ≤ call.attempt ∧ call.attempt ≤ job.settings.policy.maxRetries + 1

/-- The calls of a run on its way go forward, and those to come will go on from there. -/
structure Orderly (job : Job) (run : Run) (calls : List Exchange) : Prop where
  paced : run.Paced job
  forward : Forward job calls
  past : ∀ call ∈ calls, run.IsPast call

/-- The call that a run is about to make goes on from those before. -/
theorem Orderly.forward_append (h : run.Orderly job calls)
    (hstate : run.state = .calling call.index call.request.chunk call.attempt) :
    Forward job (calls ++ [call]) := by
  obtain ⟨hpaced, ⟨hpairwise, hattempts⟩, hpast⟩ := h
  simp only [Paced, hstate] at hpaced
  simp only [IsPast, hstate] at hpast
  refine ⟨List.pairwise_append.mpr ⟨hpairwise, List.pairwise_singleton _ _, ?_⟩,
    List.forall_mem_append.mpr ⟨hattempts, List.forall_mem_singleton.mpr hpaced⟩⟩
  intro earlier hearlier later hlater
  rw [List.mem_singleton] at hlater
  rw [hlater]
  exact hpast earlier hearlier

theorem isPast_of_afterward {index : Nat} (hstate : run.state = afterward job index)
    (hle : call.index ≤ index) : run.IsPast call := by
  rw [afterward] at hstate
  split at hstate <;> simp only [IsPast, hstate]
  exact Nat.lt_succ_of_le hle

/-- A call is past as soon as it is made, and stays so. -/
theorem Moved.isPast (hretries : job.settings.policy.maxRetries + 1 < Word.size32)
    (h : Moved job run next made) (hpaced : run.Paced job) (hpast : ∀ call ∈ calls, run.IsPast call) :
    ∀ call ∈ calls ++ made, next.IsPast call := by
  refine List.forall_mem_append.mpr ?_
  cases h with
  | begun hstate hnext =>
      simp only [IsPast, hstate] at hpast
      exact ⟨fun call hcall => (hpast call hcall).elim, List.forall_mem_nil _⟩
  | skipped hstate hc hprepare hnext =>
      simp only [IsPast, hstate] at hpast
      exact ⟨fun call hcall => isPast_of_afterward hnext (Nat.le_of_lt (hpast call hcall)),
        List.forall_mem_nil _⟩
  | chosen hstate hcalls hnext =>
      simp only [IsPast, hstate] at hpast
      simp only [IsPast, hnext]
      exact ⟨fun call hcall => .inl (hpast call hcall), List.forall_mem_nil _⟩
  | replied hstate hcalls hchunk hnext =>
      simp only [IsPast, hstate] at hpast
      rw [List.forall_mem_singleton]
      split at hnext
      · simp only [IsPast, hnext]
        refine ⟨fun call hcall => (hpast call hcall).next_chunk, .inr ⟨rfl, ?_, .inl ?_⟩⟩
        · rintro ⟨failure, hanswer, -⟩
          cases hanswer
        · exact Nat.lt_succ_of_le (Nat.le_of_eq hchunk)
      · simp only [IsPast, hnext]
        exact ⟨fun _ _ => trivial, trivial⟩
  | failed hstate hcalls hchunk hnext =>
      simp only [IsPast, hstate] at hpast
      rw [List.forall_mem_singleton]
      split at hnext
      next hretry =>
        simp only [IsPast, hnext]
        refine ⟨fun call hcall => (hpast call hcall).next_attempt,
          .inr ⟨rfl, ?_, .inr ⟨hchunk, Nat.lt_succ_self _⟩⟩⟩
        -- what is tried again was a transient failure, so it was no refusal
        rintro ⟨failure, hanswer, hkind⟩
        cases hanswer
        rw [hretry.1] at hkind
        cases hkind
      next =>
        exact ⟨fun call hcall => isPast_of_afterward hnext (hpast call hcall).index_le,
          isPast_of_afterward hnext (Nat.le_refl _)⟩
  | rested hstate hnext =>
      simp only [Paced, hstate] at hpaced
      simp only [IsPast, hstate] at hpast
      rw [Word.add32_eq (by omega)] at hnext
      simp only [IsPast, hnext]
      exact ⟨hpast, List.forall_mem_nil _⟩

/-- Every move goes forward. -/
theorem Moved.orderly (hretries : job.settings.policy.maxRetries + 1 < Word.size32)
    (h : Moved job run next made) (horderly : run.Orderly job calls) :
    next.Orderly job (calls ++ made) where
  paced := h.paced hretries horderly.paced
  past := h.isPast hretries horderly.paced horderly.past
  forward := by
    cases h with
    | replied hstate hcalls hchunk | failed hstate hcalls hchunk =>
        subst hchunk
        exact horderly.forward_append hstate
    | _ =>
        rw [List.append_nil]
        exact horderly.forward

/-- The calls of a journey go forward. -/
theorem start_forward (hjob : job.Sound)
    (hretries : job.settings.policy.maxRetries + 1 < Word.size32) (now : Timestamp)
    (moments : List Moment) : Forward job ((Run.start job now).exchanges job moments) := by
  have hstart : (Run.start job now).Orderly job [] :=
    ⟨start_paced job now, ⟨List.Pairwise.nil, List.forall_mem_nil _⟩, List.forall_mem_nil _⟩
  obtain ⟨last, made, hlast, -, hcalls | ⟨m, hcalls⟩⟩ := start_exchanges hjob hstart
    (fun horderly _ hmoved => hmoved.orderly hretries horderly) moments
  · rw [hcalls]
    exact hlast.forward
  · rw [hcalls]
    rcases (turned job last m).made_cases with hnone | ⟨call, c, hmade, hstate, -, -⟩
    · rw [hnone, List.append_nil]
      exact hlast.forward
    · rw [hmade]
      exact hlast.forward_append hstate

/-- Attempts at one chunk that go forward have different positions or different numbers. -/
theorem Forward.length_le (h : Forward job calls) {positions : List Nat} {chunk : Nat}
    (hindex : ∀ call ∈ calls, call.index ∈ positions)
    (hchunk : ∀ call ∈ calls, call.request.chunk = chunk) :
    calls.length ≤ positions.length * (job.settings.policy.maxRetries + 1) := by
  obtain ⟨hpairwise, hattempts⟩ := h
  -- No pair of a position and a number occurs twice, and there are only so many pairs.
  have hnodup : (calls.map fun call => (call.index, call.attempt)).Nodup := by
    refine List.pairwise_map.mpr (hpairwise.imp_of_mem fun {a b} ha hb hprecedes heq => ?_)
    obtain ⟨hsame, hattempt⟩ := Prod.mk.inj heq
    have hboth : a.request.chunk = b.request.chunk := (hchunk a ha).trans (hchunk b hb).symm
    rcases hprecedes with hlt | ⟨-, -, hlt | ⟨-, hlt⟩⟩
    · exact Nat.ne_of_lt hlt hsame
    · exact Nat.ne_of_lt hlt hboth
    · exact Nat.ne_of_lt hlt hattempt
  have hsubset : (calls.map fun call => (call.index, call.attempt)) ⊆
      positions ×ˢ List.range' 1 (job.settings.policy.maxRetries + 1) := by
    intro key hkey
    obtain ⟨call, hcall, rfl⟩ := List.mem_map.mp hkey
    obtain ⟨hlow, hhigh⟩ := hattempts call hcall
    exact List.mem_product.mpr
      ⟨hindex call hcall, List.mem_range'_1.mpr ⟨hlow, by omega⟩⟩
  have hlength := (List.subperm_of_subset hnodup hsubset).length_le
  rwa [List.length_map, List.length_product, List.length_range'] at hlength

end Run

/-! ## What this means for models -/

/-- A model with one position stands nowhere else. -/
theorem Plan.eq_of_positions {plan : Plan} {name : String} {i j : Nat}
    (hi : i ∈ plan.positions name) (hj : j ∈ plan.positions name)
    (h : (plan.positions name).length ≤ 1) : i = j := by
  match hpositions : plan.positions name, hi, hj, h with
  | [k], hi, hj, _ => rw [List.mem_singleton.mp hi, List.mem_singleton.mp hj]

/-- Whatever models are named for a task, whatever the backends answer and whenever it is cancelled:
a call that was refused is followed by calls to later candidates only, so a model that was named
once is not called again, and for each chunk a model gets at most as many calls as the policy allows
for each time it was named. -/
theorem calls_go_forward {registry : Registry} {names : List String} (request : Request)
    (settings : Settings) (hdistinct : (registry.profiles.map (·.name)).Nodup)
    (hcandidates : registry.candidates names = .ok request.candidates)
    (haddr : request.Addressable) (hretries : settings.policy.maxRetries + 1 < Word.size32)
    (now : Timestamp) (moments : List Moment) :
    let calls := (Run.start (request.job settings) now).exchanges (request.job settings) moments
    (calls.Pairwise fun earlier later => earlier.IsRefused → earlier.index < later.index ∧
      (Registry.timesNamed names earlier.request.profile.name ≤ 1 →
        later.request.profile.name ≠ earlier.request.profile.name)) ∧
    ∀ name chunk, (calls.filter fun call =>
        call.request.profile.name = name ∧ call.request.chunk = chunk).length ≤
      Registry.timesNamed names name * (settings.policy.maxRetries + 1) := by
  intro calls
  have hjob := request.job_sound settings haddr
  have hforward : Run.Forward (request.job settings) calls :=
    Run.start_forward hjob hretries now moments
  have hplace : ∀ call ∈ calls,
      call.index ∈ (request.job settings).plan.positions call.request.profile.name := by
    intro call hcall
    obtain ⟨c, plan, hasked⟩ := Run.start_asked hjob now moments call hcall
    exact Plan.mem_positions hasked.candidate hasked.model.symm
  have hpositions : ∀ name, ((request.job settings).plan.positions name).length ≤
      Registry.timesNamed names name := by
    intro name
    rw [Plan.length_positions]
    exact Nat.le_trans (request.count_models_le _ _ name)
      (Registry.count_candidates_le hdistinct hcandidates name)
  refine ⟨hforward.1.imp_of_mem ?_, fun name chunk => ?_⟩
  · intro earlier later hearlier hlater hprecedes hrefused
    have hlt : earlier.index < later.index := by
      rcases hprecedes with hlt | ⟨-, htaken, -⟩
      · exact hlt
      · exact absurd hrefused htaken
    refine ⟨hlt, fun honce hsame => Nat.ne_of_lt hlt ?_⟩
    exact Plan.eq_of_positions (hplace earlier hearlier) (hsame ▸ hplace later hlater)
      (Nat.le_trans (hpositions _) honce)
  · have hkept : Run.Forward (request.job settings) (calls.filter fun call =>
        call.request.profile.name = name ∧ call.request.chunk = chunk) :=
      ⟨hforward.1.sublist List.filter_sublist,
        fun call hcall => hforward.2 call (List.mem_of_mem_filter hcall)⟩
    have hmine : ∀ call ∈ calls.filter fun call =>
        call.request.profile.name = name ∧ call.request.chunk = chunk,
        call ∈ calls ∧ call.request.profile.name = name ∧ call.request.chunk = chunk := by
      intro call hcall
      simpa using hcall
    have hplaces : ∀ call ∈ calls.filter fun call =>
        call.request.profile.name = name ∧ call.request.chunk = chunk,
        call.index ∈ (request.job settings).plan.positions name := by
      intro call hcall
      obtain ⟨hmem, hname, -⟩ := hmine call hcall
      exact hname ▸ hplace call hmem
    exact Nat.le_trans (hkept.length_le hplaces fun call hcall => (hmine call hcall).2.2)
      (Nat.mul_le_mul_right _ (hpositions name))

/-- The models of `sampleRequest` when none is named, with a backend that is busy once and then
refuses. -/
theorem sampleRequest_calls_go_forward :
    let registry : Registry := ⟨sampleRequest.candidates⟩
    let job := sampleRequest.job sampleSettings
    let moments := [.ok ⟨"", none⟩, .ok ⟨"", none⟩, Backend.transient "busy", .ok ⟨"", none⟩,
      Backend.capability "too long"].map Moment.calm
    (registry.profiles.map (·.name)).Nodup ∧
      registry.candidates [] = .ok sampleRequest.candidates ∧ sampleRequest.Addressable ∧
      sampleSettings.policy.maxRetries + 1 < Word.size32 ∧
      (((Run.start job ⟨0, 0⟩).exchanges job moments).filter fun call =>
        call.request.profile.name = "patient" ∧ call.request.chunk = 0).length ≤ 2 := by
  intro registry job moments
  have hdistinct : (registry.profiles.map (·.name)).Nodup := by decide
  have hcandidates : registry.candidates [] = .ok sampleRequest.candidates := rfl
  have hretries : sampleSettings.policy.maxRetries + 1 < Word.size32 := by decide
  obtain ⟨-, hlimit⟩ := calls_go_forward sampleRequest sampleSettings hdistinct hcandidates
    sampleRequest_addressable hretries ⟨0, 0⟩ moments
  exact ⟨hdistinct, hcandidates, sampleRequest_addressable, hretries, hlimit "patient" 0⟩

/-! ## A model that is named twice -/

/-- The task of `sampleRequest` for a model that was named twice. -/
def twiceRequest : Request :=
  { sampleRequest with candidates := [sampleModel, sampleModel] }

/-- The plan of `twiceRequest`: the same two chunks at each position of the model. -/
def twicePlan : Plan :=
  { samplePlan with
    candidates := samplePlan.candidates ++ samplePlan.candidates, filteredOut := [] }

theorem twiceRequest_job :
    twiceRequest.job sampleSettings = ⟨sampleSettings, twiceRequest, twicePlan⟩ := by
  have hrank : Model.rank twiceRequest.candidates twiceRequest.package.tokensUsed
      twiceRequest.tags =
        [Model.rankOne 60 [] 0 sampleModel, Model.rankOne 60 [] 1 sampleModel] := by
    rw [Model.rank, List.mergeSort_of_pairwise (by decide)]
    decide
  have hplan : twiceRequest.plan sampleSettings.estimator sampleSettings.margin = twicePlan := by
    rw [Request.plan, hrank]
    decide +kernel
  rw [Request.job, hplan]

/-- The model is busy, then it refuses, and it is called once more at its second position: after a
refusal, and once more often than the policy allows. -/
theorem named_twice_called_again :
    let registry : Registry := ⟨[sampleModel]⟩
    let job := twiceRequest.job sampleSettings
    let moments := [.ok ⟨"", none⟩, .ok ⟨"", none⟩, Backend.transient "busy", .ok ⟨"", none⟩,
      Backend.capability "too long", .ok ⟨"", none⟩, .ok ⟨"one", none⟩].map Moment.calm
    let calls := (Run.start job ⟨0, 0⟩).exchanges job moments
    (registry.profiles.map (·.name)).Nodup ∧
      registry.candidates ["patient", "patient"] = .ok twiceRequest.candidates ∧
      (∃ earlier later, [earlier, later].Sublist calls ∧ earlier.IsRefused ∧
        later.request.profile.name = earlier.request.profile.name) ∧
      ¬(calls.filter fun call =>
        call.request.profile.name = "patient" ∧ call.request.chunk = 0).length ≤
          sampleSettings.policy.maxRetries + 1 := by
  intro registry job moments calls
  have hcalls : ∃ first second third, calls = [first, second, third] ∧ second.IsRefused ∧
      ∀ call ∈ [first, second, third],
        call.request.profile.name = "patient" ∧ call.request.chunk = 0 := by
    simp only [calls, job]
    rw [twiceRequest_job]
    refine ⟨_, _, _, rfl, ⟨_, rfl, rfl⟩, ?_⟩
    decide +kernel
  obtain ⟨first, second, third, hcalls, hrefused, hsame⟩ := hcalls
  refine ⟨by decide, rfl, ⟨second, third, ?_, hrefused, ?_⟩, ?_⟩
  · rw [hcalls]
    exact List.sublist_cons_self _ _
  · rw [(hsame third (by simp)).1, (hsame second (by simp)).1]
  · rw [hcalls, List.filter_eq_self.mpr fun call hcall => decide_eq_true (hsame call hcall)]
    exact Nat.not_succ_le_self 2

end Switchboard.Route
