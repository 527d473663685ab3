import Switchboard.Proofs.Call.Window

/-!
# Chunks keep the order of a package

Chunks send the overview before everything else. In an assembled package it comes first anyway: it
alone has rank zero, and fragments stand in the order of their ranks. So the sending order is the
package order, and the prompts of a chunked plan send the fragments one after the other, each in
one prompt.

A plan is chunked only when a single call has no room. What has no room there would not fit one
chunk either, since the description and a header are charged to it as well.

## Main results

* `Package.overviews_first`, `sendOrder_assemble` — the sending order of an assembled package.
* `two_le_length_chunks` — a chunked plan has at least two chunks.
* `intercalate_flatten` — texts joined in groups and then joined again.
* `chunks_keep_order` — the chunks of an assembled package.
-/

namespace Switchboard.Package

open Switchboard.Index (Document)

/-! ## Overviews -/

/-- Among the candidates of a package, overviews alone have rank zero. -/
theorem overview_iff_rank_eq_zero {estimator : Estimator} {ctx : RuleContext} {doc : Document}
    {f : Fragment} (h : f ∈ candidates estimator ctx doc) : f.kind = .overview ↔ f.rank = 0 := by
  rcases List.mem_append.mp h with hoverview | hmodule
  · split at hoverview
    · rw [List.mem_singleton.mp hoverview]
      exact ⟨fun _ => rfl, fun _ => rfl⟩
    · exact absurd hoverview List.not_mem_nil
  · obtain ⟨m, -, rfl⟩ := List.mem_map.mp hmodule
    have hrank : 0 < (ctx.rank m).1 := by
      rcases ctx.rank_firstRule m with ⟨before, first, after, -, -, -, hrank, -⟩ | ⟨-, hrank, -⟩
        <;> omega
    constructor
    · intro hkind
      cases hkind
    · intro hzero
      exact absurd (show (ctx.rank m).1 = 0 from hzero) (Nat.ne_of_gt hrank)

section Assembly

variable (estimator : Estimator) (scenario : Scenario) (doc : Document) (request : Request)

/-- Fragments stand in the order of their ranks. -/
theorem assemble_ascending :
    (assemble estimator scenario doc request).fragments.Pairwise fun a b => a.rank ≤ b.rank := by
  have hsub : (taken (assemblyRulings estimator scenario doc request)).Sublist
      ((assemblyRulings estimator scenario doc request).map (·.1)) :=
    List.filter_sublist.map _
  rw [assemblyRulings, rulings_fst] at hsub
  rw [assemble_fragments]
  exact (StableSort.pairwise_mergeSort Fragment.rank _).sublist hsub

/-- In an assembled package no fragment stands before an overview but another one. -/
theorem overviews_first :
    (assemble estimator scenario doc request).fragments.Pairwise
      fun a b => b.kind = .overview → a.kind = .overview := by
  have hcandidate : ∀ f ∈ (assemble estimator scenario doc request).fragments,
      f.kind = .overview ↔ f.rank = 0 := by
    intro f hf
    exact overview_iff_rank_eq_zero
      (mem_candidates_of_mem_fragments estimator scenario doc request hf)
  refine (assemble_ascending estimator scenario doc request).imp_of_mem ?_
  intro a b ha hb hle hkind
  have hzero := (hcandidate b hb).mp hkind
  exact (hcandidate a ha).mpr (by omega)

end Assembly

end Switchboard.Package

namespace Switchboard.Call

open Switchboard.Index (Document)
open Switchboard.Model (Profile)
open Switchboard.Package (Fragment cost assemble)
open Switchboard.Route (descriptionTokens)

/-! ## The sending order -/

/-- Moving to the front what stands in front already moves nothing. -/
theorem filter_append_filter_of_pairwise {α : Type} {p : α → Bool} {items : List α}
    (h : items.Pairwise fun a b => p b = true → p a = true) :
    items.filter p ++ items.filter (!p ·) = items := by
  induction items with
  | nil => rfl
  | cons a rest ih =>
      obtain ⟨hhead, hrest⟩ := List.pairwise_cons.mp h
      cases ha : p a with
      | true =>
          rw [List.filter_cons_of_pos ha, List.filter_cons_of_neg (by simp [ha]),
            List.cons_append, ih hrest]
      | false =>
          have hnone : ∀ b ∈ rest, p b = false := by
            intro b hb
            by_contra hpb
            exact Bool.false_ne_true (ha.symm.trans (hhead b hb (by simpa using hpb)))
          rw [List.filter_eq_nil_iff.mpr (by simpa [ha] using hnone), List.nil_append,
            List.filter_eq_self.mpr (by simpa [ha] using hnone)]

/-- Fragments whose overviews stand in front are sent in their order. -/
theorem sendOrder_of_overviews_first {fragments : List Fragment}
    (h : fragments.Pairwise fun a b => b.kind = .overview → a.kind = .overview) :
    sendOrder fragments = fragments.zipIdx := by
  have hplaced : fragments.zipIdx.Pairwise fun a b =>
      decide (b.1.kind = .overview) = true → decide (a.1.kind = .overview) = true := by
    rw [← List.zipIdx_map_fst 0 fragments, List.pairwise_map] at h
    simpa only [decide_eq_true_eq] using h
  have hnot : (fun piece : Fragment × Nat => decide (piece.1.kind ≠ .overview)) =
      fun piece => !decide (piece.1.kind = .overview) := by
    funext piece
    exact decide_not
  show fragments.zipIdx.filter (fun piece => decide (piece.1.kind = .overview)) ++
    fragments.zipIdx.filter (fun piece => decide (piece.1.kind ≠ .overview)) = _
  rw [hnot]
  exact filter_append_filter_of_pairwise hplaced

/-- An assembled package is sent in its order. -/
theorem sendOrder_assemble (estimator : Estimator) (scenario : Scenario) (doc : Document)
    (request : Package.Request) :
    sendOrder (assemble estimator scenario doc request).fragments =
      (assemble estimator scenario doc request).fragments.zipIdx :=
  sendOrder_of_overviews_first (Package.overviews_first estimator scenario doc request)

/-! ## Groups and their chunks -/

theorem chunksFrom_eq_map (index : Nat) (groups : List (List (Fragment × Nat))) :
    chunksFrom index groups =
      (groups.zipIdx index).map fun (group, k) => Chunk.ofGroup k group := by
  induction groups generalizing index with
  | nil => rfl
  | cons group groups ih => rw [chunksFrom, ih, List.zipIdx_cons, List.map_cons]

/-- The chunks of groups name the positions of all their fragments. -/
theorem flatMap_fragments_chunksFrom (index : Nat) (groups : List (List (Fragment × Nat))) :
    (chunksFrom index groups).flatMap (·.fragments) = groups.flatten.map (·.2) := by
  induction groups generalizing index with
  | nil => rfl
  | cons group groups ih =>
      rw [chunksFrom, List.flatMap_cons, ih, List.flatten_cons, List.map_append]
      rfl

section Plan

variable {package : Package} {profile : Profile} {tokens : Nat} {margin : Float}
  {chunks : List Chunk} {capacity : Nat}

/-- A plan is chunked only when a single call has no room. -/
theorem lt_of_plan_chunked
    (h : Call.plan package profile tokens margin = .ok (.chunked chunks capacity)) :
    profile.usableWindow margin < Word.add package.tokensUsed tokens := by
  by_contra hfits
  unfold Call.plan at h
  dsimp only at h
  rw [if_pos (Nat.le_of_not_lt hfits)] at h
  cases h

/-- A chunked plan has at least two chunks, if the package counts the tokens of its fragments. -/
theorem two_le_length_chunks (hused : package.tokensUsed = cost package.fragments)
    (hsum : cost package.fragments < Word.size64) (htokens : tokens + headerTokens < Word.size64)
    (h : Call.plan package profile tokens margin = .ok (.chunked chunks capacity)) :
    2 ≤ chunks.length := by
  have hlarge := lt_of_plan_chunked h
  obtain ⟨groups, hcut, rfl⟩ := plan_chunked_cut hsum h
  rcases plan_cases h with ⟨heq, -⟩ | ⟨filled, room, heq, hne, hroom, hcapacity, -⟩
  · cases heq
  injection heq with hchunks heq
  subst hchunks heq
  rw [Word.add_eq htokens] at hcapacity
  rw [length_chunksFrom]
  match groups, hcut with
  | [], _ => exact absurd rfl hne
  | [group], hcut =>
      -- A single group holds the whole package, which had no room even without a header.
      have hwhole : weight group = cost package.fragments := by
        rw [← weight_sendOrder, ← hcut.flatten, List.flatten_singleton]
      have hfits := hcut.fits group (List.mem_singleton_self group)
      have hadd : Word.add package.tokensUsed tokens ≤ package.tokensUsed + tokens :=
        Nat.mod_le _ _
      omega
  | _ :: _ :: _, _ => exact Nat.le_add_left 2 _

end Plan

/-! ## Texts -/

/-- Texts that are joined in groups and joined again are joined. -/
theorem intercalate_flatten (separator : String) {groups : List (List String)}
    (h : ∀ group ∈ groups, group ≠ []) :
    separator.intercalate (groups.map separator.intercalate) =
      separator.intercalate groups.flatten := by
  induction groups with
  | nil => rfl
  | cons group groups ih =>
      obtain ⟨hgroup, hgroups⟩ := List.forall_mem_cons.mp h
      cases groups with
      | nil =>
          rw [List.map_singleton, String.intercalate_singleton, List.flatten_singleton]
      | cons next groups =>
          have hjoined : (next :: groups).map separator.intercalate ≠ [] :=
            List.cons_ne_nil _ _
          have hrest : (next :: groups).flatten ≠ [] :=
            List.append_ne_nil_of_left_ne_nil (hgroups next List.mem_cons_self) _
          rw [List.map_cons, List.flatten_cons, String.intercalate_cons_of_ne_nil hjoined,
            ih hgroups, String.intercalate_append_of_ne_nil hgroup hrest]

/-- The texts of fragments with a blank line between them. -/
def joinedTexts (fragments : List Fragment) : String :=
  "\n\n".intercalate (fragments.map (·.text))

/-- What stands before the fragments of a chunk. -/
def partHeading (description : String) (index count : Nat) : String :=
  s!"# Task\n{description}\n\n# Context (part {index + 1} of {count})\n"

/-- The prompts of a cut send its groups. -/
theorem prompts_chunksFrom {package : Package} {capacity : Nat}
    {groups : List (List (Fragment × Nat))}
    (hcut : Cut capacity (sendOrder package.fragments) groups) (description : String) :
    prompts description package (.chunked (chunksFrom 0 groups) capacity) =
      (groups.map (·.map (·.1))).zipIdx.map fun (group, k) =>
        partHeading description k groups.length ++ joinedTexts group := by
  rw [prompts, length_chunksFrom, chunksFrom_eq_map, List.map_map, List.zipIdx_map, List.map_map]
  refine List.map_congr_left fun piece hpiece => ?_
  obtain ⟨group, k⟩ := piece
  show partHeading description k groups.length ++ (Chunk.ofGroup k group).body package = _
  rw [body_ofGroup hcut (List.fst_mem_of_mem_zipIdx hpiece)]
  rfl

/-- A description that fits the memory of a machine leaves room to count the header. -/
theorem descriptionTokens_header_lt (e : Estimator) {description : String}
    (h : description.length < Word.half64) :
    descriptionTokens e description + headerTokens < Word.size64 := by
  have hheading : (heading description).length = description.length + 19 := by
    simp only [heading, toString, String.length_append]
    have h1 : "# Task\n".length = 7 := rfl
    have h2 : "\n\n# Context\n".length = 12 := rfl
    omega
  have htokens : descriptionTokens e description ≤ (heading description).length :=
    e.ofLength_le_iff.mpr (Nat.le_mul_of_pos_right _ e.pos)
  simp only [Word.half64, Word.size64, headerTokens] at *
  omega

/-- **Chunks keep the order of a package.** Where the plan of an assembled package is chunked, its
chunks name every fragment once and in order, and there are at least two of them. So the package is
cut into groups none of which is empty: its text is the texts of the groups one after the other, and
each group is sent in a prompt of its own. The budget is a word, and so are the tokens of the
description, whoever estimates them, together with those of the header. -/
theorem chunks_keep_order (e : Estimator) (scenario : Scenario) (doc : Document)
    (request : Package.Request) (description : String) (tokens : Nat) (profile : Profile)
    (margin : Float) (hbudget : scenario.budget < Word.size64)
    (htokens : tokens + headerTokens < Word.size64) {chunks : List Chunk} {capacity : Nat}
    (hplan : Call.plan (assemble e scenario doc request) profile tokens margin =
      .ok (.chunked chunks capacity)) :
    let package := assemble e scenario doc request
    chunks.flatMap (·.fragments) = List.range package.fragments.length ∧
      2 ≤ chunks.length ∧
      ∃ groups : List (List Fragment),
        groups.flatten = package.fragments ∧ groups.length = chunks.length ∧
        (∀ group ∈ groups, group ≠ []) ∧
        package.render = "\n\n".intercalate (groups.map joinedTexts) ∧
        prompts description package (.chunked chunks capacity) =
          groups.zipIdx.map fun (group, k) =>
            partHeading description k groups.length ++ joinedTexts group := by
  intro package
  have hcost : cost package.fragments < Word.size64 := by
    have hgreedy := Package.assemblyRulings_greedy e scenario doc request
    have hle := hgreedy.cost_le (Nat.zero_le _)
    rw [← Package.assemble_fragments, Nat.zero_add] at hle
    exact Nat.lt_of_le_of_lt hle hbudget
  have htwo := two_le_length_chunks rfl hcost htokens hplan
  obtain ⟨pieces, hcut, rfl⟩ := plan_chunked_cut hcost hplan
  have hflatten : pieces.flatten = package.fragments.zipIdx :=
    hcut.flatten.trans (sendOrder_assemble e scenario doc request)
  have hgroups : (pieces.map (·.map (·.1))).flatten = package.fragments := by
    rw [← List.map_flatten, hflatten, List.zipIdx_map_fst]
  have hnonempty : ∀ group ∈ pieces.map (·.map (·.1)), group ≠ [] := by
    intro group hgroup
    obtain ⟨piece, hpiece, rfl⟩ := List.mem_map.mp hgroup
    exact fun hnil => hcut.nonempty piece hpiece (List.map_eq_nil_iff.mp hnil)
  refine ⟨?_, htwo, pieces.map (·.map (·.1)), hgroups, ?_, hnonempty, ?_, ?_⟩
  · rw [flatMap_fragments_chunksFrom, hflatten, List.zipIdx_map_snd, List.range_eq_range']
  · rw [List.length_map, length_chunksFrom]
  · have htexts : ∀ texts ∈ (pieces.map (·.map (·.1))).map (·.map (·.text)), texts ≠ [] := by
      intro texts hmem
      obtain ⟨group, hgroup, rfl⟩ := List.mem_map.mp hmem
      exact fun hnil => hnonempty group hgroup (List.map_eq_nil_iff.mp hnil)
    have hrender := intercalate_flatten "\n\n" htexts
    rw [← List.map_flatten, hgroups, List.map_map] at hrender
    exact hrender.symm
  · rw [List.length_map]
    exact prompts_chunksFrom hcut description

/-- An overview and three modules, the last of them critical. -/
def mixedDocument : Document where
  schemaVersion := 1
  metadata := { projectName := "mix" }
  modules := [
    { path := "ab.rs", language := "rust" }, { path := "cd.rs", language := "rust" },
    { path := "ef.rs", language := "rust", tags := ["critical"] }]

/-- A scenario that takes all of them. -/
def mixedScenario : Scenario := ⟨"mixed", 100, [.critical, .remaining], none, [], [], true⟩

/-- A model that has no room for them at once. -/
def smallModel : Profile := { name := "small", maxContextTokens := 42, supportsChunking := true }

/-- The overview goes alone and the modules follow together, the critical one first. -/
theorem mixedDocument_chunks_keep_order :
    ∃ chunks capacity,
      Call.plan (assemble .standard mixedScenario mixedDocument {}) smallModel
        (descriptionTokens .standard "x") standardMargin = .ok (.chunked chunks capacity) ∧
      chunks.flatMap (·.fragments) =
        List.range (assemble .standard mixedScenario mixedDocument {}).fragments.length ∧
      2 ≤ chunks.length := by
  have hplan : Call.plan (assemble .standard mixedScenario mixedDocument {}) smallModel
      (descriptionTokens .standard "x") standardMargin =
        .ok (.chunked [⟨0, [0], 22⟩, ⟨1, [1, 2, 3], 18⟩] 24) := by
    unfold assemble
    dsimp only
    rw [Package.sortByRank_candidates]
    decide +kernel
  obtain ⟨horder, htwo, -⟩ := chunks_keep_order .standard mixedScenario mixedDocument {} "x"
    (descriptionTokens .standard "x") smallModel standardMargin (by decide)
    (descriptionTokens_header_lt .standard (by decide)) hplan
  exact ⟨_, _, hplan, horder, htwo⟩

end Switchboard.Call
