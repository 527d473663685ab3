import Mathlib.Data.List.Basic
import Switchboard.Proofs.Call.Chunks
import Switchboard.Package.Assembly

/-!
# Prompts and windows

A plan charges a prompt for its heading and its fragments, each rounded up to whole tokens, and a
chunk for a fixed number of tokens beside them. What is charged fits the usable window. The prompt
itself holds characters that nobody charges for: the blank lines between its fragments and, in a
chunk, the note that tells its part. This glue is paid from what rounding leaves over and from the
tokens set aside for a chunk; where these do not suffice, the prompt outgrows its window.

## Main results

* `Estimator.ofLength_le_iff`, `Estimator.ofLength_add_le` — what an estimate says of a length.
* `assemble_priced` — the fragments of an assembled package cost what their texts do.
* `prompt_fits_iff` — what a prompt is charged for, and when it fits the window it is planned for.
* `glued_prompt_outgrows_window` — a prompt that does not.
-/

namespace Switchboard.Estimator

variable (e : Estimator)

/-- A length is estimated at no more than some tokens exactly when these have room for it. -/
theorem ofLength_le_iff {length tokens : Nat} :
    e.ofLength length ≤ tokens ↔ length ≤ tokens * e.charsPerToken := by
  have hpos := e.pos
  rw [ofLength, Nat.div_le_iff_le_mul_add_pred hpos, Nat.mul_comm]
  omega

/-- A length has room in the tokens it is estimated at. -/
theorem le_ofLength_mul (length : Nat) : length ≤ e.ofLength length * e.charsPerToken :=
  e.ofLength_le_iff.mp (Nat.le_refl _)

theorem ofLength_mono {short long : Nat} (h : short ≤ long) :
    e.ofLength short ≤ e.ofLength long :=
  e.ofLength_le_iff.mpr (Nat.le_trans h (e.le_ofLength_mul long))

/-- Estimating two lengths one by one is never less than estimating them together. -/
theorem ofLength_add_le (first second : Nat) :
    e.ofLength (first + second) ≤ e.ofLength first + e.ofLength second := by
  rw [ofLength_le_iff, Nat.add_mul]
  exact Nat.add_le_add (e.le_ofLength_mul first) (e.le_ofLength_mul second)

end Switchboard.Estimator

namespace Switchboard.Package

open Switchboard.Index (Document)

/-! ## Prices of fragments -/

/-- The characters of the texts of fragments. -/
def textLength (fragments : List Fragment) : Nat :=
  Word.total (fragments.map (·.text.length))

@[simp] theorem textLength_cons (f : Fragment) (fragments : List Fragment) :
    textLength (f :: fragments) = f.text.length + textLength fragments := rfl

/-- A fragment with a text that costs what the estimator says. -/
structure Fragment.Priced (estimator : Estimator) (f : Fragment) : Prop where
  tokens : f.tokens = estimator.estimate f.text
  text : 0 < f.text.length

/-- The text of a module is not empty: it opens with a heading. -/
theorem length_render_pos (m : Index.Module) : 0 < m.render.length := by
  unfold Index.Module.render
  simp only [String.length_append]
  have : (toString "## ").length = 3 := rfl
  omega

/-- Nor is an overview. -/
theorem length_renderOverview_pos (doc : Document) : 0 < doc.renderOverview.length := by
  unfold Index.Document.renderOverview
  simp only [String.length_append]
  have : (toString "# Project ").length = 10 := rfl
  omega

/-- Every candidate of a package is priced. -/
theorem candidates_priced {estimator : Estimator} {ctx : RuleContext} {doc : Document}
    {f : Fragment} (h : f ∈ candidates estimator ctx doc) : f.Priced estimator := by
  rw [candidates, List.mem_append] at h
  rcases h with h | h
  · split at h
    · rw [List.mem_singleton] at h
      subst h
      exact ⟨rfl, length_renderOverview_pos doc⟩
    · cases h
  · obtain ⟨m, -, rfl⟩ := List.mem_map.mp h
    exact ⟨rfl, length_render_pos m⟩

/-- The fragments of an assembled package are priced. -/
theorem assemble_priced {estimator : Estimator} {scenario : Scenario} {doc : Document}
    {request : Request} {f : Fragment}
    (h : f ∈ (assemble estimator scenario doc request).fragments) : f.Priced estimator :=
  candidates_priced (mem_candidates_of_mem_fragments estimator scenario doc request h)

/-- Priced fragments cost at least what their texts cost together. -/
theorem ofLength_textLength_le {estimator : Estimator} {fragments : List Fragment}
    (h : ∀ f ∈ fragments, f.Priced estimator) :
    estimator.ofLength (textLength fragments) ≤ cost fragments := by
  induction fragments with
  | nil => exact (Estimator.ofLength_le_iff _).mpr (Nat.zero_le _)
  | cons f fragments ih =>
      rw [List.forall_mem_cons] at h
      rw [textLength_cons, cost_cons, h.1.tokens]
      exact Nat.le_trans (estimator.ofLength_add_le _ _) (Nat.add_le_add_left (ih h.2) _)

end Switchboard.Package

namespace Switchboard.Call

open Switchboard.Index (Document)
open Switchboard.Model (Profile)
open Switchboard.Package (Fragment cost textLength assemble assemble_priced)
open Switchboard.Route (descriptionTokens)

/-! ## Layouts -/

/-- What stands before the fragments of a prompt, the note of its part apart. -/
def heading (description : String) : String := s!"# Task\n{description}\n\n# Context\n"

/-- The note that tells the part of a package that a chunk sends. -/
def partNote (index count : Nat) : String := s!" (part {index + 1} of {count})"

/-- The characters of the blank lines between fragments. -/
def joints (fragments : List Fragment) : Nat := 2 * (fragments.length - 1)

/-- What a prompt is made of beside its heading. -/
structure Layout where
  fragments : List Fragment
  /-- The characters that are neither of the heading nor of a fragment. -/
  glue : Nat
  /-- The tokens set aside for them. -/
  allowance : Nat

/-- The layouts of the prompts of a plan. -/
def Plan.layouts (package : Package) : Plan → List Layout
  | .single _ => [⟨package.fragments, joints package.fragments, 0⟩]
  | .chunked chunks _ => chunks.map fun chunk =>
      let fragments := chunk.fragments.filterMap (package.fragments[·]?)
      ⟨fragments, (partNote chunk.index chunks.length).length + joints fragments, headerTokens⟩

theorem length_intercalate (separator : String) (texts : List String) :
    (separator.intercalate texts).length =
      Word.total (texts.map String.length) + separator.length * (texts.length - 1) := by
  induction texts with
  | nil => simp
  | cons text texts ih =>
      cases texts with
      | nil => simp
      | cons next texts =>
          rw [String.intercalate_cons_cons, String.length_append, String.length_append, ih]
          simp only [List.map_cons, Word.total_cons, List.length_cons, Nat.add_sub_cancel]
          rw [Nat.mul_add]
          omega

/-- Fragments joined by blank lines. -/
theorem length_joined (fragments : List Fragment) :
    ("\n\n".intercalate (fragments.map (·.text))).length =
      textLength fragments + joints fragments := by
  rw [length_intercalate, List.map_map, List.length_map]
  rfl

/-- The length of a prompt in a single call. -/
theorem length_single (description context : String) :
    (s!"# Task\n{description}\n\n# Context\n{context}").length =
      (heading description).length + context.length := by
  simp only [heading, toString, String.length_append]

/-- The length of the prompt of a chunk. -/
theorem length_part (description body : String) (index count : Nat) :
    (s!"# Task\n{description}\n\n# Context (part {index + 1} of {count})\n" ++ body).length =
      (heading description).length + body.length + (partNote index count).length := by
  simp only [heading, partNote, String.length_append]
  have h1 : (toString "# Task\n").length = 7 := rfl
  have h2 : (toString "\n\n# Context (part ").length = 18 := rfl
  have h3 : (toString " of ").length = 4 := rfl
  have h4 : (toString ")\n").length = 2 := rfl
  have h5 : (toString "\n\n# Context\n").length = 12 := rfl
  have h6 : (toString " (part ").length = 7 := rfl
  have h7 : (toString ")").length = 1 := rfl
  omega

/-- The shorter prompt of a package without text. -/
theorem length_bare_le (description : String) :
    (s!"# Task\n{description}").length ≤ (heading description).length := by
  simp only [heading, String.length_append]
  omega

/-- How a prompt agrees with its layout, when a number of tokens is usable: the charges fit, and the
prompt is as long as its parts. -/
structure Layout.Describes (e : Estimator) (description prompt : String) (usable : Nat)
    (layout : Layout) : Prop where
  charges : e.estimate (heading description) + cost layout.fragments + layout.allowance ≤ usable
  priced : ∀ f ∈ layout.fragments, f.Priced e
  length_le : prompt.length ≤
    (heading description).length + textLength layout.fragments + layout.glue
  length_eq : layout.fragments ≠ [] → prompt.length =
    (heading description).length + textLength layout.fragments + layout.glue

/-- A prompt exceeds its window at most by the glue that the allowance does not cover. -/
theorem Layout.Describes.estimate_le {e : Estimator} {description prompt : String} {usable : Nat}
    {layout : Layout} (h : layout.Describes e description prompt usable) :
    e.estimate prompt + layout.allowance ≤ usable + e.ofLength layout.glue := by
  have hlength : e.estimate prompt ≤
      e.estimate (heading description) + cost layout.fragments + e.ofLength layout.glue := by
    calc e.estimate prompt
        ≤ e.ofLength ((heading description).length + textLength layout.fragments + layout.glue) :=
          e.ofLength_mono h.length_le
      _ ≤ e.ofLength ((heading description).length + textLength layout.fragments) +
            e.ofLength layout.glue := e.ofLength_add_le _ _
      _ ≤ e.ofLength (heading description).length + e.ofLength (textLength layout.fragments) +
            e.ofLength layout.glue := Nat.add_le_add_right (e.ofLength_add_le _ _) _
      _ ≤ e.estimate (heading description) + cost layout.fragments + e.ofLength layout.glue :=
          Nat.add_le_add_right
            (Nat.add_le_add_left (Package.ofLength_textLength_le h.priced) _) _
  have := h.charges
  omega

section Plan

variable {e : Estimator} {package : Package} {profile : Profile} {margin : Float}
  {description prompt : String} {k : Nat}

/-- The prompt of a single call is laid out as a whole package. -/
theorem single_describes (hpriced : ∀ f ∈ package.fragments, f.Priced e)
    (hcharges : e.estimate (heading description) + cost package.fragments ≤
      profile.usableWindow margin) {tokens : Nat}
    (hprompt : (prompts description package (.single tokens))[k]? = some prompt) :
    ∃ layout, ((Plan.single tokens).layouts package)[k]? = some layout ∧
      layout.Describes e description prompt (profile.usableWindow margin) := by
  have hrender : package.render.length =
      textLength package.fragments + joints package.fragments := length_joined _
  have hempty : package.render.isEmpty = true → package.fragments = [] := by
    intro h
    rw [String.isEmpty_iff] at h
    rw [h, String.length_empty] at hrender
    cases hfragments : package.fragments with
    | nil => rfl
    | cons f fragments =>
        have hpos := (hpriced f (hfragments ▸ List.mem_cons_self)).text
        rw [hfragments, Package.textLength_cons] at hrender
        omega
  have hzero : k = 0 := by
    have hlt := (List.getElem?_eq_some_iff.mp hprompt).1
    rw [length_prompts] at hlt
    exact Nat.lt_one_iff.mp hlt
  subst hzero
  refine ⟨_, rfl, ⟨hcharges, hpriced, ?_, ?_⟩⟩
  all_goals
    dsimp only
    unfold prompts at hprompt
    dsimp only at hprompt
    split at hprompt
    all_goals
      rename_i hcontext
      rw [List.getElem?_cons_zero] at hprompt
      injection hprompt with hprompt
      subst hprompt
  · have := length_bare_le description
    omega
  · rw [length_single, hrender]
    omega
  · intro hne
    exact absurd (hempty hcontext) hne
  · intro _
    rw [length_single, hrender]
    omega

/-- The fragments that a chunk names are those of its group. -/
theorem fragments_ofGroup {capacity : Nat} {groups : List (List (Fragment × Nat))}
    (hcut : Cut capacity (sendOrder package.fragments) groups) {group : List (Fragment × Nat)}
    (hgroup : group ∈ groups) :
    (Chunk.ofGroup k group).fragments.filterMap (package.fragments[·]?) = group.map (·.1) := by
  rw [Chunk.ofGroup, List.filterMap_map, List.filterMap_eq_map_iff_forall_eq_some]
  intro piece hpiece
  exact hcut.getElem?_of_mem hgroup hpiece

/-- So the body of a chunk has their texts. -/
theorem body_ofGroup {capacity : Nat} {groups : List (List (Fragment × Nat))}
    (hcut : Cut capacity (sendOrder package.fragments) groups) {group : List (Fragment × Nat)}
    (hgroup : group ∈ groups) :
    (Chunk.ofGroup k group).body package =
      "\n\n".intercalate ((group.map (·.1)).map (·.text)) := by
  rw [Chunk.body, Chunk.ofGroup, List.map_map, List.map_map]
  congr 1
  apply List.map_congr_left
  intro piece hpiece
  show (package.fragments[piece.2]?.map (·.text)).getD "" = piece.1.text
  rw [hcut.getElem?_of_mem hgroup hpiece]
  rfl

/-- The prompt of a chunk is laid out as its group. -/
theorem part_describes (hpriced : ∀ f ∈ package.fragments, f.Priced e) {capacity : Nat}
    (hcapacity : e.estimate (heading description) + headerTokens + capacity ≤
      profile.usableWindow margin) {groups : List (List (Fragment × Nat))}
    (hcut : Cut capacity (sendOrder package.fragments) groups)
    (hprompt : (prompts description package (.chunked (chunksFrom 0 groups) capacity))[k]? =
      some prompt) :
    ∃ layout, ((Plan.chunked (chunksFrom 0 groups) capacity).layouts package)[k]? = some layout ∧
      layout.Describes e description prompt (profile.usableWindow margin) := by
  unfold prompts at hprompt
  unfold Plan.layouts
  dsimp only at hprompt ⊢
  rw [List.getElem?_map, getElem?_chunksFrom, Nat.zero_add, Option.map_map,
    Option.map_eq_some_iff] at hprompt
  obtain ⟨group, hgroup, rfl⟩ := hprompt
  have hmem : group ∈ groups := List.mem_of_getElem? hgroup
  rw [List.getElem?_map, getElem?_chunksFrom, Nat.zero_add, Option.map_map, hgroup]
  refine ⟨_, rfl, ?_⟩
  have hlength := length_part description ((Chunk.ofGroup k group).body package) k groups.length
  rw [body_ofGroup hcut hmem, length_joined] at hlength
  dsimp only [Function.comp_apply]
  rw [fragments_ofGroup hcut hmem, body_ofGroup hcut hmem, length_chunksFrom]
  have heq : (s!"# Task\n{description}\n\n# Context (part {k + 1} of {groups.length})\n" ++
      "\n\n".intercalate ((group.map (·.1)).map (·.text))).length =
      (heading description).length + textLength (group.map (·.1)) +
        ((partNote k groups.length).length + joints (group.map (·.1))) := by
    omega
  constructor
  · have hfits : cost (group.map (·.1)) ≤ capacity := hcut.fits group hmem
    dsimp only
    omega
  · intro f hf
    obtain ⟨⟨f, i⟩, hpiece, rfl⟩ := List.mem_map.mp hf
    exact hpriced f (List.mem_of_getElem? (hcut.getElem?_of_mem hmem hpiece))
  · exact Nat.le_of_eq heq
  · intro _
    exact heq

/-- Every prompt of a plan has a layout, whatever the package. -/
theorem prompts_describe (hpriced : ∀ f ∈ package.fragments, f.Priced e)
    (hused : package.tokensUsed = cost package.fragments)
    (hsum : package.tokensUsed + e.estimate (heading description) + headerTokens < Word.size64)
    {plan : Plan}
    (hplan : Call.plan package profile (e.estimate (heading description)) margin = .ok plan)
    (hprompt : (prompts description package plan)[k]? = some prompt) :
    ∃ layout, (plan.layouts package)[k]? = some layout ∧
      layout.Describes e description prompt (profile.usableWindow margin) := by
  rcases plan_cases hplan with ⟨rfl, hfits⟩ | ⟨chunks, capacity, rfl, -, hpos, hcapacity, -⟩
  · rw [Word.add_eq (by omega)] at hfits
    exact single_describes hpriced (by omega) hprompt
  · rw [Word.add_eq (by omega)] at hcapacity
    obtain ⟨groups, hcut, rfl⟩ := plan_chunked_cut (by omega) hplan
    exact part_describes hpriced (by omega) hcut hprompt

end Plan

/-- What the prompts of a planned call are charged for and when they fit: what is charged for a
prompt fits the usable window; the prompt fits exactly when the window has room for all its
characters; it exceeds the window at most by the glue that the allowance does not cover, and fits
when it covers all of it. -/
theorem prompt_fits_iff (e : Estimator) (scenario : Scenario) (doc : Document)
    (request : Package.Request) (description : String) (profile : Profile) (margin : Float)
    (hsum : (assemble e scenario doc request).tokensUsed + descriptionTokens e description +
      headerTokens < Word.size64) {plan : Plan}
    (hplan : Call.plan (assemble e scenario doc request) profile (descriptionTokens e description)
      margin = .ok plan) (k : Nat) {prompt : String}
    (hprompt : (prompts description (assemble e scenario doc request) plan)[k]? = some prompt) :
    ∃ layout, (plan.layouts (assemble e scenario doc request))[k]? = some layout ∧
      descriptionTokens e description + cost layout.fragments + layout.allowance ≤
        profile.usableWindow margin ∧
      (layout.fragments ≠ [] →
        (e.estimate prompt ≤ profile.usableWindow margin ↔
          (heading description).length + textLength layout.fragments + layout.glue ≤
            profile.usableWindow margin * e.charsPerToken)) ∧
      e.estimate prompt + layout.allowance ≤
        profile.usableWindow margin + e.ofLength layout.glue ∧
      (e.ofLength layout.glue ≤ layout.allowance →
        e.estimate prompt ≤ profile.usableWindow margin) := by
  obtain ⟨layout, hlayout, hdescribes⟩ :=
    prompts_describe (fun f hf => assemble_priced hf) rfl hsum hplan hprompt
  have hover := hdescribes.estimate_le
  refine ⟨layout, hlayout, hdescribes.charges, ?_, hover, ?_⟩
  · intro hne
    rw [← hdescribes.length_eq hne]
    exact e.ofLength_le_iff
  · intro hcovered
    omega

/-! ## Glue that nothing covers -/

/-- Three modules whose texts fill whole tokens, so that rounding leaves nothing over. -/
def tightDocument : Document where
  modules := [
    { path := "ab.rs", language := "rust" }, { path := "cd.rs", language := "rust" },
    { path := "ef.rs", language := "rust" }]

/-- A scenario that takes all of them. -/
def tightScenario : Scenario := ⟨"tight", 100, [.remaining], none, [], [], false⟩

/-- A model with room for exactly what is charged. -/
def tightModel : Profile := { name := "tight", maxContextTokens := 26 }

/-- The package of the three modules. -/
def tightPackage : Package := assemble .standard tightScenario tightDocument {}

theorem tightPackage_eq : tightPackage = {
    scenario := "tight"
    fragments := ["ab.rs", "cd.rs", "ef.rs"].map fun path =>
      { source := path, text := s!"## {path} (rust, 0 lines)", tokens := 6, rank := 1,
        rule := some .remaining }
    tokensUsed := 18
    budget := 100
    queryMatched := true } := by
  unfold tightPackage assemble
  dsimp only
  rw [Package.sortByRank_candidates]
  decide +kernel

theorem plan_tightPackage :
    Call.plan tightPackage tightModel (descriptionTokens .standard "x") standardMargin =
      .ok (.single 23) := by
  rw [tightPackage_eq]
  decide +kernel

theorem sum_tightPackage :
    tightPackage.tokensUsed + descriptionTokens .standard "x" + headerTokens < Word.size64 := by
  rw [tightPackage_eq]
  decide +kernel

/-- The only prompt of the package. -/
def tightPrompt : String :=
  "# Task\nx\n\n# Context\n## ab.rs (rust, 0 lines)\n\n## cd.rs (rust, 0 lines)\n\n" ++
    "## ef.rs (rust, 0 lines)"

theorem prompts_tightPackage : prompts "x" tightPackage (.single 23) = [tightPrompt] := by
  rw [tightPackage_eq]
  decide +kernel

theorem tightPrompt_fits_iff :
    ∃ layout, ((Plan.single 23).layouts tightPackage)[0]? = some layout ∧
      Estimator.standard.estimate tightPrompt + layout.allowance ≤
        tightModel.usableWindow standardMargin + Estimator.standard.ofLength layout.glue := by
  obtain ⟨layout, hlayout, -, -, hover, -⟩ :=
    prompt_fits_iff .standard tightScenario tightDocument {} "x" tightModel standardMargin
      sum_tightPackage plan_tightPackage 0 (by rw [← tightPackage, prompts_tightPackage]; rfl)
  exact ⟨layout, hlayout, hover⟩

/-- The blank lines between three fragments that are charged for to the last character make the
prompt of a planned call larger than the window it was planned for. -/
theorem glued_prompt_outgrows_window :
    ∃ plan prompt,
      Call.plan tightPackage tightModel (descriptionTokens .standard "x") standardMargin =
        .ok plan ∧
      prompt ∈ prompts "x" tightPackage plan ∧
      tightModel.usableWindow standardMargin < Estimator.standard.estimate prompt := by
  refine ⟨.single 23, tightPrompt, plan_tightPackage, ?_, by decide +kernel⟩
  rw [prompts_tightPackage]
  exact List.mem_singleton.mpr rfl

end Switchboard.Call
