import Switchboard.Route.Run

/-!
# Jobs made from requests

Running a plan may go wrong in ways that planning rules out: a candidate that is no model of the
request, a call plan without calls, more candidates or chunks than a word can count. `Job.Sound`
collects what a run relies on, and `Request.job_sound` shows that a job made from a request has
it. Everything about runs is then shown for sound jobs and never looks at planning again.

A request is taken to be *addressable*: its lists are short enough to lie in the memory of a
machine whose addresses are words.

## Main results

* `Call.length_prompts` — a plan has as many prompts as calls.
* `Call.chunkCount_pos`, `Call.chunkCount_le` — how many calls a plan may have.
* `Request.job_sound` — jobs made from requests are sound.
-/

namespace Switchboard.Call

open Switchboard.Model (Profile)
open Switchboard.Package (Fragment)

/-- A plan has one prompt for each of its calls. -/
theorem length_prompts (description : String) (package : Package) (plan : Plan) :
    (prompts description package plan).length = plan.chunkCount := by
  cases plan with
  | single promptTokens =>
      simp only [prompts, Plan.chunkCount]
      split <;> rfl
  | chunked chunks capacity => simp only [prompts, Plan.chunkCount, List.length_map]

/-- Filling chunks opens at most one for each fragment beside the current one. -/
theorem length_fillChunks_le (capacity : Nat) (current : Chunk) (pieces : List (Fragment × Nat))
    {chunks : List Chunk} (h : fillChunks capacity current pieces = .ok chunks) :
    chunks.length ≤ pieces.length + 1 := by
  fun_induction fillChunks capacity current pieces generalizing chunks with
  | case1 current =>
      injection h with h
      subst h
      split <;> simp
  | case2 current f i rest hlarge => simp at h
  | case3 current f i rest hsmall hfull rejection hrest ih => simp at h
  | case4 current f i rest hsmall hfull filled hrest ih =>
      injection h with h
      subst h
      have := ih hrest
      simp only [List.length_cons]
      omega
  | case5 current f i rest hsmall hroom ih =>
      have := ih h
      simp only [List.length_cons]
      omega

/-- The sending order has every fragment once. -/
theorem length_sendOrder (fragments : List Fragment) :
    (sendOrder fragments).length = fragments.length := by
  have hsplit := List.length_eq_countP_add_countP
    (fun p : Fragment × Nat => decide (p.1.kind = .overview)) (l := fragments.zipIdx)
  simp only [sendOrder, List.length_append, ← List.countP_eq_length_filter]
  rw [List.length_zipIdx] at hsplit
  rw [hsplit]
  congr 1
  apply List.countP_congr
  intro p _
  simp

section Plan

variable {package : Package} {profile : Profile} {descriptionTokens : Nat} {margin : Float}
  {plan : Plan}

/-- How a plan came about: everything in one call that fits, or chunks, of which there is at least
one, filled up to what the description and the header leave of the window. -/
theorem plan_cases (h : Call.plan package profile descriptionTokens margin = .ok plan) :
    (plan = .single (Word.add package.tokensUsed descriptionTokens) ∧
        Word.add package.tokensUsed descriptionTokens ≤ profile.usableWindow margin) ∨
      ∃ chunks capacity, plan = .chunked chunks capacity ∧ chunks ≠ [] ∧ 0 < capacity ∧
        capacity = profile.usableWindow margin - Word.add descriptionTokens headerTokens ∧
        fillChunks capacity {} (sendOrder package.fragments) = .ok chunks := by
  unfold Call.plan at h
  dsimp only at h
  split at h
  · rename_i hfits
    injection h with h
    exact .inl ⟨h.symm, hfits⟩
  · split at h
    · cases h
    · split at h
      · cases h
      · rename_i hroom
        split at h
        · cases h
        · cases h
        · rename_i chunks hne hfill
          injection h with h
          simp only [Bool.or_eq_true, decide_eq_true_eq, not_or] at hroom
          exact .inr ⟨chunks, _, h.symm, fun hnil => hne hnil, Nat.pos_of_ne_zero hroom.1, rfl,
            hfill⟩

/-- A plan makes at least one call. -/
theorem chunkCount_pos (h : Call.plan package profile descriptionTokens margin = .ok plan) :
    0 < plan.chunkCount := by
  rcases plan_cases h with ⟨rfl, -⟩ | ⟨chunks, capacity, rfl, hne, -⟩
  · exact Nat.one_pos
  · exact List.length_pos_iff.mpr hne

/-- A plan makes at most one call more than the package has fragments. -/
theorem chunkCount_le (h : Call.plan package profile descriptionTokens margin = .ok plan) :
    plan.chunkCount ≤ package.fragments.length + 1 := by
  rcases plan_cases h with ⟨rfl, -⟩ | ⟨chunks, capacity, rfl, -, -, -, hfill⟩
  · exact Nat.le_add_left 1 _
  · have := length_fillChunks_le capacity {} _ hfill
    rw [length_sendOrder] at this
    exact this

end Plan

end Switchboard.Call

namespace Switchboard.Route

open Switchboard.Model (Profile)

/-- A request whose lists fit the memory of a machine. -/
structure Request.Addressable (request : Request) : Prop where
  candidates : request.candidates.length < Word.half64
  fragments : request.package.fragments.length < Word.half64

/-- What a run relies on. -/
structure Job.Sound (job : Job) : Prop where
  /-- Every candidate is a model of the request. -/
  known : ∀ c ∈ job.plan.candidates, ∃ p ∈ job.request.candidates, p.name = c.model
  /-- Every call plan makes a call. -/
  calls_pos : ∀ c ∈ job.plan.candidates, ∀ plan, c.plan = some plan → 0 < plan.chunkCount
  /-- The chunks of every call plan can be counted. -/
  calls_lt : ∀ c ∈ job.plan.candidates, ∀ plan, c.plan = some plan →
    plan.chunkCount < Word.size64
  /-- The candidates can be counted. -/
  candidates_lt : job.plan.candidates.length < Word.size64

theorem length_rank_le (candidates : List Profile) (tokens : Nat) (tags : List String) :
    (Model.rank candidates tokens tags).length ≤ candidates.length := by
  rw [Model.rank, List.length_mergeSort, List.length_map]
  exact Nat.le_trans (List.length_filter_le _ _) (Nat.le_of_eq List.length_zipIdx)

/-- A ranked model is one of the given ones. -/
theorem profile_mem_of_mem_rank {candidates : List Profile} {tokens : Nat} {tags : List String}
    {r : Model.Ranked} (hr : r ∈ Model.rank candidates tokens tags) :
    r.profile ∈ candidates := by
  rw [Model.rank, List.mem_mergeSort] at hr
  obtain ⟨⟨p, i⟩, hp, rfl⟩ := List.mem_map.mp hr
  exact (List.mem_zipIdx (List.mem_filter.mp hp).1).2.2 ▸ List.getElem_mem _

@[simp] theorem Candidate.ofRanked_model (package : Package) (tokens : Nat) (margin : Float)
    (ranked : Model.Ranked) :
    (Candidate.ofRanked package tokens margin ranked).model = ranked.profile.name := by
  simp only [Candidate.ofRanked]
  split <;> rfl

/-- A candidate has the call plan that was made for its model, if one could be made. -/
theorem Candidate.ofRanked_plan_eq_some {package : Package} {tokens : Nat} {margin : Float}
    {ranked : Model.Ranked} {plan : Call.Plan}
    (h : (Candidate.ofRanked package tokens margin ranked).plan = some plan) :
    Call.plan package ranked.profile tokens margin = .ok plan := by
  simp only [Candidate.ofRanked] at h
  split at h
  · rename_i made hmade
    rw [hmade, Option.some.inj h]
  · cases h

/-- The candidates of a plan are the ranked models of the request. -/
theorem exists_ranked_of_mem_candidates {request : Request} {estimator : Estimator}
    {margin : Float} {c : Candidate} (hc : c ∈ (request.plan estimator margin).candidates) :
    ∃ ranked : Model.Ranked, ranked.profile ∈ request.candidates ∧
      c = Candidate.ofRanked request.package
        (descriptionTokens estimator request.description) margin ranked := by
  obtain ⟨ranked, hranked, rfl⟩ := List.mem_map.mp hc
  exact ⟨ranked, profile_mem_of_mem_rank hranked, rfl⟩

/-- A job made from a request is sound. -/
theorem Request.job_sound {request : Request} (settings : Settings)
    (haddr : request.Addressable) : (request.job settings).Sound where
  known := by
    intro c hc
    obtain ⟨ranked, hmem, rfl⟩ := exists_ranked_of_mem_candidates hc
    exact ⟨ranked.profile, hmem, (Candidate.ofRanked_model ..).symm⟩
  calls_pos := by
    intro c hc plan hplan
    obtain ⟨ranked, -, rfl⟩ := exists_ranked_of_mem_candidates hc
    exact Call.chunkCount_pos (Candidate.ofRanked_plan_eq_some hplan)
  calls_lt := by
    intro c hc plan hplan
    obtain ⟨ranked, -, rfl⟩ := exists_ranked_of_mem_candidates hc
    have hle := Call.chunkCount_le (Candidate.ofRanked_plan_eq_some hplan)
    have hlt := haddr.fragments
    simp only [Word.half64, Word.size64] at hlt ⊢
    omega
  candidates_lt := by
    have hle := length_rank_le request.candidates request.package.tokensUsed request.tags
    have hlt := haddr.candidates
    simp only [Request.job, Request.plan, List.length_map]
    simp only [Word.half64, Word.size64] at hlt ⊢
    omega

/-! ## A small job -/

/-- A model that takes the fragments of `sampleRequest` one by one. -/
def sampleModel : Profile :=
  { name := "patient", provider := "echo", maxContextTokens := 60, supportsChunking := true }

/-- A request for two models, of which the first is too small. -/
def sampleRequest : Request where
  taskId := "task"
  description := "d"
  package := {
    fragments := [{ text := "a", tokens := 30 }, { text := "b", tokens := 30 }], tokensUsed := 60 }
  candidates := [{ name := "small", provider := "echo", maxContextTokens := 9 }, sampleModel]

/-- One retry, and a backend for the models of `sampleRequest`. -/
def sampleSettings : Settings where
  policy := { maxRetries := 1 }
  providers := ["echo"]

/-- The plan of `sampleRequest`: two chunks for the one model that can take it. -/
def samplePlan : Plan where
  taskId := "task"
  packageTokens := 60
  descriptionTokens := 5
  fragments := 2
  candidates := [{
    model := "patient", provider := "echo"
    plan := some (.chunked [⟨0, [0], 30⟩, ⟨1, [1], 30⟩] 41), promptTokens := 86 }]
  filteredOut := ["small"]

/-- The only model that can take a package is ranked alone. -/
theorem rank_of_filter_eq_singleton {candidates : List Profile} {tokens i : Nat}
    {tags : List String} {p : Profile}
    (h : (candidates.zipIdx.filter fun (p, _) => p.canTake tokens) = [(p, i)]) :
    Model.rank candidates tokens tags = [Model.rankOne tokens tags i p] := by
  rw [Model.rank, h, List.map_singleton, List.mergeSort_singleton]

theorem sampleRequest_job :
    sampleRequest.job sampleSettings = ⟨sampleSettings, sampleRequest, samplePlan⟩ := by
  have hrank : Model.rank sampleRequest.candidates sampleRequest.package.tokensUsed
      sampleRequest.tags = [Model.rankOne 60 [] 1 sampleModel] :=
    rank_of_filter_eq_singleton (by decide)
  have hplan : sampleRequest.plan sampleSettings.estimator sampleSettings.margin = samplePlan := by
    rw [Request.plan, hrank]
    decide +kernel
  rw [Request.job, hplan]

theorem sampleRequest_addressable : sampleRequest.Addressable := ⟨by decide, by decide⟩

end Switchboard.Route
