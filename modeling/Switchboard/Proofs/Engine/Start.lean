import Switchboard.Engine
import Switchboard.Proofs.Config.Models

/-!
# Starting an engine

A configuration is checked when it is loaded, and an engine is started from it later. What the check
has looked at cannot fail any more: the indexer, the scenarios and the models. It does not look at
the patterns of the source tree. So an engine starts just if all of these are well formed, and
otherwise one that is not is reported only then.

## Main results

* `Tree.compile_isOk`, `Tree.compile_eq_error` — a source tree and its patterns.
* `start_of_validate` — when an engine starts from a checked configuration, and why not.
-/

namespace Switchboard

/-! ## Patterns -/

namespace Glob

/-- Whether a pattern can be parsed. -/
def isWellFormed (pattern : String) : Bool := (parse pattern).isOk

variable {pattern : String} {patterns : List String} {refusal : Refusal}

/-- Patterns are parsed just if each of them can be. -/
theorem parseAll_isOk (patterns : List String) :
    (parseAll patterns).isOk = patterns.all isWellFormed := by
  induction patterns with
  | nil => rfl
  | cons first rest ih =>
      rw [parseAll, List.all_cons, isWellFormed, ← ih]
      cases parse first with
      | error refusal => rfl
      | ok p => cases parseAll rest <;> rfl

/-- The pattern that is named is the one that is refused. -/
theorem parse_of_parseAll (h : parseAll patterns = .error (pattern, refusal)) :
    pattern ∈ patterns ∧ parse pattern = .error refusal := by
  induction patterns with
  | nil => cases h
  | cons first rest ih =>
      rw [parseAll] at h
      cases hfirst : parse first with
      | error refusal' =>
          rw [hfirst] at h
          cases h
          exact ⟨List.mem_cons_self, hfirst⟩
      | ok p =>
          rw [hfirst] at h
          cases hrest : parseAll rest with
          | error refused =>
              rw [hrest] at h
              cases h
              exact (ih hrest).imp_left (List.mem_cons_of_mem _)
          | ok set =>
              rw [hrest] at h
              cases h

end Glob

namespace Source

variable {root : String} {patterns includeGlobs excludeGlobs : List String} {report : Report}

theorem compileGlobs_isOk (patterns : List String) :
    (compileGlobs patterns).isOk = patterns.all Glob.isWellFormed := by
  rw [← Glob.parseAll_isOk, compileGlobs]
  cases Glob.parseAll patterns <;> rfl

theorem compileGlobs_eq_error (h : compileGlobs patterns = .error report) :
    ∃ pattern ∈ patterns, ∃ refusal, Glob.parse pattern = .error refusal ∧
      report = .ofMessage (refusal.message pattern) := by
  rw [compileGlobs] at h
  cases hparsed : Glob.parseAll patterns with
  | ok set =>
      rw [hparsed] at h
      cases h
  | error refused =>
      obtain ⟨pattern, refusal⟩ := refused
      rw [hparsed] at h
      obtain ⟨hmem, hrefused⟩ := Glob.parse_of_parseAll hparsed
      exact ⟨pattern, hmem, refusal, hrefused, (Except.error.inj h).symm⟩

/-- The patterns for the directories that are never part of a tree are well formed. -/
theorem isWellFormed_standardExcludes : standardExcludes.all Glob.isWellFormed = true := by
  decide +kernel

/-- A tree can be made just if all its patterns are well formed. -/
theorem Tree.compile_isOk (root : String) (includeGlobs excludeGlobs : List String) :
    (Tree.compile root includeGlobs excludeGlobs).isOk =
      (includeGlobs ++ excludeGlobs).all Glob.isWellFormed := by
  have hincluded := compileGlobs_isOk includeGlobs
  have hexcluded := compileGlobs_isOk (standardExcludes ++ excludeGlobs)
  rw [List.all_append, isWellFormed_standardExcludes, Bool.true_and] at hexcluded
  rw [List.all_append, ← hincluded, ← hexcluded, Tree.compile]
  cases compileGlobs includeGlobs with
  | error report => rfl
  | ok included => cases compileGlobs (standardExcludes ++ excludeGlobs) <;> rfl

/-- What is reported of a tree that cannot be made: one of its patterns, and why it is refused. -/
theorem Tree.compile_eq_error (h : Tree.compile root includeGlobs excludeGlobs = .error report) :
    ∃ pattern ∈ includeGlobs ++ excludeGlobs, ∃ refusal, Glob.parse pattern = .error refusal ∧
      report = .ofMessage (refusal.message pattern) := by
  rw [Tree.compile] at h
  cases hincluded : compileGlobs includeGlobs with
  | error report' =>
      rw [hincluded] at h
      cases h
      obtain ⟨pattern, hmem, hrefused⟩ := compileGlobs_eq_error hincluded
      exact ⟨pattern, List.mem_append_left _ hmem, hrefused⟩
  | ok included =>
      rw [hincluded] at h
      cases hexcluded : compileGlobs (standardExcludes ++ excludeGlobs) with
      | ok excluded =>
          rw [hexcluded] at h
          cases h
      | error report' =>
          rw [hexcluded] at h
          cases h
          obtain ⟨pattern, hmem, refusal, hrefused, hreport⟩ := compileGlobs_eq_error hexcluded
          refine ⟨pattern, ?_, refusal, hrefused, hreport⟩
          obtain hstandard | hown := List.mem_append.mp hmem
          · have hwell := List.all_eq_true.mp isWellFormed_standardExcludes pattern hstandard
            rw [Glob.isWellFormed, hrefused] at hwell
            cases hwell
          · exact List.mem_append_right _ hown

end Source

/-! ## Checked configurations -/

namespace Config

variable {c : Config}

/-- The scenarios of a checked configuration compile, and the default one is among them. -/
theorem registry_of_validate (h : validate c = .ok ()) :
    ∃ registry, c.registry = .ok registry ∧
      ∃ scenario, registry.get c.assembly.defaultScenario = .ok scenario := by
  simp only [validate, check_bind_eq_ok] at h
  obtain ⟨-, hscenarios, -⟩ := h
  rw [checkScenarios] at hscenarios
  cases hregistry : c.registry with
  | error error =>
      rw [hregistry] at hscenarios
      cases hscenarios
  | ok registry =>
      simp only [hregistry] at hscenarios
      refine ⟨registry, rfl, ?_⟩
      cases hdefault : registry.get c.assembly.defaultScenario with
      | error error =>
          rw [hdefault] at hscenarios
          cases hscenarios
      | ok scenario => exact ⟨scenario, rfl⟩

/-- The indexer of a checked configuration scans the files, or asks a command. -/
theorem indexer_of_validate (h : validate c = .ok ()) :
    c.indexer.kind = "builtin" ∨
      c.indexer.kind = "command" ∧ c.indexer.command.isEmpty = false := by
  simp only [validate, check_bind_eq_ok] at h
  obtain ⟨-, -, hindexer, -⟩ := h
  rw [checkIndexer] at hindexer
  split at hindexer
  · next hkind => exact .inl hkind
  · next hkind =>
      split at hindexer
      · cases hindexer
      · next hcommand => exact .inr ⟨hkind, Bool.eq_false_iff.mpr hcommand⟩
  · cases hindexer

/-- Every model of a checked configuration has one of the providers that are served without further
configuration. -/
theorem builtin_of_validate (h : validate c = .ok ()) :
    ∀ m ∈ c.models, m.provider ∈ Backend.builtinProviders := fun m hm =>
  builtin_of_known ((checkModels_eq_ok.mp (checkModels_of_validate h)).2 m hm).2.provider

end Config

/-! ## Engines -/

namespace Engine

variable {c : Config} {taskId : Nat → String} {world : World}

/-- The indexer of a checked configuration can be made. -/
theorem indexerOf_of_validate (h : Config.validate c = .ok ())
    (environment : List (String × String)) : ∃ indexer, indexerOf c environment = .ok indexer := by
  rw [indexerOf]
  obtain hkind | ⟨hkind, hcommand⟩ := Config.indexer_of_validate h
  · rw [hkind]
    exact ⟨_, rfl⟩
  · have hmade : ∃ indexer, Source.Indexer.ofCommand c.indexer.command
        (1000 * c.indexer.timeoutSecs) environment = .ok indexer := by
      rw [Source.Indexer.ofCommand, hcommand]
      exact ⟨_, rfl⟩
    rw [hkind]
    exact hmade

/-- An engine whose log can be opened starts just if its parts can be put together. -/
theorem startWith_eq (hlog : (openLog world.disk c.router.logPath).2 = .ok ())
    (indexer : Source.Indexer) :
    (startWith c indexer taskId world).2 = assembleParts c indexer taskId world.disk := by
  rw [startWith]
  cases assembleParts c indexer taskId world.disk with
  | error report => rfl
  | ok engine =>
      simp only [hlog]
      rfl

/-- Of a checked configuration only the source tree is left to be made. -/
theorem start_eq_map (h : Config.validate c = .ok ())
    (hlog : (openLog world.disk c.router.logPath).2 = .ok ()) :
    ∃ f : Source.Tree → Engine, (start c taskId world).2 =
      (Source.Tree.compile c.cache.sourceRoot c.cache.includeGlobs c.cache.excludeGlobs).map f := by
  obtain ⟨indexer, hindexer⟩ := indexerOf_of_validate h world.environment
  obtain ⟨scenarios, hscenarios, -⟩ := Config.registry_of_validate h
  refine ⟨fun tree => { config := c, indexer, scenarios, models := ⟨c.models⟩, taskId,
                        cache := Cache.ofTree tree c.cache.path world.disk }, ?_⟩
  rw [start, hindexer]
  show (startWith c indexer taskId world).2 = _
  rw [startWith_eq hlog, assembleParts, hscenarios, Cache.openAt]
  cases Source.Tree.compile c.cache.sourceRoot c.cache.includeGlobs c.cache.excludeGlobs <;> rfl

/-- From a configuration that passes the check, and whose log can be opened, everything can be made
but perhaps the source tree: the indexer, all scenarios with the default one, and a backend for each
model. The engine starts just if all patterns of the source tree are well formed; if not, one that
is refused is reported. -/
theorem start_of_validate (c : Config) (taskId : Nat → String) (world : World)
    (hvalid : Config.validate c = .ok ())
    (hlog : (openLog world.disk c.router.logPath).2 = .ok ()) :
    (∃ indexer, indexerOf c world.environment = .ok indexer) ∧
      (∃ registry, c.registry = .ok registry ∧
        ∃ scenario, registry.get c.assembly.defaultScenario = .ok scenario) ∧
      (∀ m ∈ c.models, m.provider ∈ Backend.builtinProviders) ∧
      (start c taskId world).2.isOk =
        (c.cache.includeGlobs ++ c.cache.excludeGlobs).all Glob.isWellFormed ∧
      ∀ report, (start c taskId world).2 = .error report →
        ∃ pattern ∈ c.cache.includeGlobs ++ c.cache.excludeGlobs, ∃ refusal,
          Glob.parse pattern = .error refusal ∧ report = .ofMessage (refusal.message pattern) := by
  obtain ⟨f, hstart⟩ : ∃ f : Source.Tree → Engine, (start c taskId world).2 = _ :=
    start_eq_map hvalid hlog
  refine ⟨indexerOf_of_validate hvalid _, Config.registry_of_validate hvalid,
    Config.builtin_of_validate hvalid, ?_, fun report hreport => ?_⟩
  · rw [hstart, ← Source.Tree.compile_isOk c.cache.sourceRoot]
    cases Source.Tree.compile c.cache.sourceRoot c.cache.includeGlobs c.cache.excludeGlobs <;> rfl
  · rw [hstart] at hreport
    cases htree : Source.Tree.compile c.cache.sourceRoot c.cache.includeGlobs
        c.cache.excludeGlobs with
    | error refused =>
        rw [htree] at hreport
        cases hreport
        exact Source.Tree.compile_eq_error htree
    | ok tree =>
        rw [htree] at hreport
        cases hreport

/-! ### A configuration that is checked and does not start -/

/-- A configuration with the given patterns, a command as its indexer, a model of each provider, a
scenario of its own and a log. -/
def sampleConfig (includeGlobs : List String) : Config where
  cache := { path := "/cache/index.json", sourceRoot := "/src", includeGlobs }
  indexer := { kind := "command", command := ["index"] }
  assembly := { defaultScenario := "review" }
  scenarios := [("review", { budgetTokens := 900, priorityRules := ["critical"] })]
  router := { logPath := some "/logs/attempts.jsonl" }
  models := [
    { name := "a", provider := "echo", maxContextTokens := 8000 },
    { name := "b", provider := "command", maxContextTokens := 8000, command := some ["model"] },
    { name := "c", provider := "openai", maxContextTokens := 8000 }]

/-- Nothing but a clock. -/
def emptyWorld : World := { disk := {}, now := ⟨0, 0⟩ }

theorem sampleConfig_starts :
    (start (sampleConfig ["**/*.rs"]) (fun _ => "t") emptyWorld).2.isOk = true := by
  obtain ⟨-, -, -, hstarts, -⟩ :=
    start_of_validate (sampleConfig ["**/*.rs"]) (fun _ => "t") emptyWorld
      (by decide +kernel) (by decide +kernel)
  rw [hstarts]
  decide +kernel

/-- The configuration passes the check and its log can be opened, but one of its patterns opens a
class that it does not close. -/
theorem sampleConfig_refused :
    Config.validate (sampleConfig ["["]) = .ok () ∧
      (openLog emptyWorld.disk (sampleConfig ["["]).router.logPath).2 = .ok () ∧
      (start (sampleConfig ["["]) (fun _ => "t") emptyWorld).2.isOk = false := by
  decide +kernel

end Engine

end Switchboard
