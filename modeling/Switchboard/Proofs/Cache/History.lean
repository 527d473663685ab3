import Switchboard.Proofs.Cache.Lookup
import Switchboard.Proofs.Cache.Persistence

/-!
# Histories of a cache

A cache that is used by one party at a time has a history of acts: the disk is edited, a new index
is asked for, a lookup is made, and the cache is opened again from its file. Every act starts and
ends with the build lock released.

## Main results

* `unlocked_perform` — between two acts nobody holds the build lock.
* `Settled.perform` — in a history whose records can be persisted, the file holds the record that
  the cache holds.
-/

namespace Switchboard.Cache

open Switchboard.Source (Fingerprint Indexer Tree)

/-- What is done with a cache, one act after the other. -/
inductive Act where
  /-- The disk is changed from outside. -/
  | edit (disk : Disk)
  /-- A new index is asked for. -/
  | invalidate
  /-- A lookup is made. -/
  | look (indexer : Indexer) (now : Timestamp)
  /-- The process ends, and another one opens the cache. -/
  | reopen

namespace Act

/-- What an act leaves behind. -/
def perform (site : Site) : Act → Site
  | .edit disk => { site with disk }
  | .invalidate => { site with cache := site.cache.invalidate }
  | .look indexer now => (getOrBuild indexer now site).1
  | .reopen => { site with cache := ofTree site.cache.tree site.cache.path site.disk }

/-- What is answered to an act. -/
def answer? (site : Site) : Act → Option (Except Report Found)
  | .look indexer now => some (getOrBuild indexer now site).2
  | _ => none

end Act

/-- What a history leaves behind. -/
def perform (site : Site) (acts : List Act) : Site :=
  acts.foldl Act.perform site

/-- The answers of a history, in order. -/
def answers : Site → List Act → List (Except Report Found)
  | _, [] => []
  | site, act :: acts => (act.answer? site).toList ++ answers (act.perform site) acts

/-- Whether every act of a history satisfies `P` where it takes place. -/
def Along (P : Site → Act → Prop) : Site → List Act → Prop
  | _, [] => True
  | site, act :: acts => P site act ∧ Along P (act.perform site) acts

/-- The site of a cache that is opened. -/
def Site.opened (tree : Tree) (path : String) (disk : Disk) : Site :=
  ⟨disk, ofTree tree path disk⟩

namespace Site

variable (tree : Tree) (path : String) (disk : Disk)

@[simp] theorem opened_disk : (opened tree path disk).disk = disk := rfl

@[simp] theorem opened_tree : (opened tree path disk).cache.tree = tree := rfl

@[simp] theorem opened_path : (opened tree path disk).cache.path = path := rfl

@[simp] theorem opened_record : (opened tree path disk).cache.record = (load disk path).1 := rfl

@[simp] theorem opened_invalidated : (opened tree path disk).cache.invalidated = false := rfl

@[simp] theorem opened_locked : (opened tree path disk).cache.locked = false := rfl

@[simp] theorem opened_builds : (opened tree path disk).cache.builds = 0 := rfl

end Site

/-- Whether the record was valid. -/
def isHit : Except Report Found → Bool
  | .ok ⟨_, .hit⟩ => true
  | _ => false

/-- Whether a new record was made. -/
def isRenewal : Except Report Found → Bool
  | .ok ⟨_, .built⟩ | .ok ⟨_, .rebuilt⟩ => true
  | _ => false

section History

variable {tree : Tree} {path : String} {disk : Disk} {site last : Site} {act : Act}
  {acts : List Act} {indexer : Indexer} {now : Timestamp} {answer : Except Report Found}

/-! ## Answers -/

@[simp] theorem isHit_hit (r : Record) : isHit (.ok ⟨r, .hit⟩) = true := rfl

@[simp] theorem isRenewal_hit (r : Record) : isRenewal (.ok ⟨r, .hit⟩) = false := rfl

@[simp] theorem isHit_renewal (r : Record) (record : Option Record) :
    isHit (.ok ⟨r, renewal record⟩) = false := by
  cases record <;> rfl

@[simp] theorem isRenewal_renewal (r : Record) (record : Option Record) :
    isRenewal (.ok ⟨r, renewal record⟩) = true := by
  cases record <;> rfl

@[simp] theorem isHit_fallback (record : Option Record) (reason : String) :
    isHit (fallback record reason) = false := by
  cases record <;> rfl

@[simp] theorem isRenewal_fallback (record : Option Record) (reason : String) :
    isRenewal (fallback record reason) = false := by
  cases record <;> rfl

/-! ## One history after the other -/

theorem perform_append (site : Site) (acts later : List Act) :
    perform site (acts ++ later) = perform (perform site acts) later :=
  List.foldl_append

theorem mem_answers_cons : answer ∈ answers site (act :: acts) ↔
    answer ∈ act.answer? site ∨ answer ∈ answers (act.perform site) acts := by
  simp [answers]

theorem answers_append (site : Site) (acts later : List Act) :
    answers site (acts ++ later) = answers site acts ++ answers (perform site acts) later := by
  induction acts generalizing site with
  | nil => rfl
  | cons act acts ih =>
      show _ ++ answers (act.perform site) (acts ++ later) = _
      rw [ih, ← List.append_assoc]
      rfl

/-! ## What every act keeps -/

theorem Served.cache_keeps (h : Served indexer now site last answer) :
    last.cache.tree = site.cache.tree ∧ last.cache.path = site.cache.path ∧
      (site.cache.locked = false → last.cache.locked = false) := by
  cases h <;> simp [Site.renewed, Site.failed]

/-- An act ends with the build lock released. -/
theorem Act.unlocked_perform (h : site.cache.locked = false) :
    (act.perform site).cache.locked = false := by
  cases act with
  | edit disk => exact h
  | invalidate => exact h
  | look indexer now => exact (served_getOrBuild indexer now h).cache_keeps.2.2 h
  | reopen => rfl

/-- A history ends with the build lock released. -/
theorem unlocked_perform_of (h : site.cache.locked = false) :
    (perform site acts).cache.locked = false := by
  induction acts generalizing site with
  | nil => exact h
  | cons act acts ih => exact ih (Act.unlocked_perform h)

/-- Between two acts nobody holds the build lock. -/
theorem unlocked_perform (tree : Tree) (path : String) (disk : Disk) (acts : List Act) :
    (perform (.opened tree path disk) acts).cache.locked = false :=
  unlocked_perform_of rfl

/-- A history leaves the tree of a cache alone. -/
theorem tree_perform (h : site.cache.locked = false) :
    (perform site acts).cache.tree = site.cache.tree := by
  induction acts generalizing site with
  | nil => rfl
  | cons act acts ih =>
      have hact : (act.perform site).cache.tree = site.cache.tree := by
        cases act with
        | edit disk => rfl
        | invalidate => rfl
        | look indexer now => exact (served_getOrBuild indexer now h).cache_keeps.1
        | reopen => rfl
      exact (ih (Act.unlocked_perform h)).trans hact

/-! ## What an honest history keeps -/

/-- Whether an act is honest about the record file: edits leave it alone, and a new record can be
persisted and loaded again. -/
def Act.IsHonest (site : Site) : Act → Prop
  | .edit disk =>
      disk.current = site.disk.current ∧
        disk.readText site.cache.path = site.disk.readText site.cache.path
  | .look indexer now =>
      ∀ found, (getOrBuild indexer now site).2 = .ok found → isRenewal (.ok found) = true →
        found.record.isLoadable = true ∧
          (persist site.disk site.cache.path found.record).2 = .ok ()
  | .invalidate | .reopen => True

/-- The file holds the record that the cache holds. -/
structure Settled (tree : Tree) (path : String) (current : Place) (site : Site) : Prop where
  tree : site.cache.tree = tree
  path : site.cache.path = path
  current : site.disk.current = current
  unlocked : site.cache.locked = false
  loaded : (load site.disk site.cache.path).1 = site.cache.record

theorem settled_opened (tree : Tree) (path : String) (disk : Disk) :
    Settled tree path disk.current (.opened tree path disk) :=
  ⟨rfl, rfl, rfl, rfl, rfl⟩

theorem Settled.served {current : Place} (h : Settled tree path current site)
    (hhonest : Act.IsHonest site (.look indexer now)) :
    Settled tree path current (getOrBuild indexer now site).1 := by
  have hserved := served_getOrBuild indexer now h.unlocked
  rw [Act.IsHonest] at hhonest
  generalize getOrBuild indexer now site = outcome at hserved hhonest ⊢
  obtain ⟨last, answer⟩ := outcome
  cases hserved with
  | unmeasured => exact h
  | hit => exact h
  | failed => exact ⟨h.tree, h.path, h.current, rfl, h.loaded⟩
  | renewed measure invalid index made =>
      obtain ⟨hloadable, hpersist⟩ := hhonest _ rfl (isRenewal_renewal _ _)
      refine ⟨h.tree, h.path, (current_persist _ _ _).trans h.current, rfl, ?_⟩
      exact congrArg Prod.fst (load_persist hloadable hpersist)

theorem Settled.step {current : Place} (h : Settled tree path current site)
    (hhonest : act.IsHonest site) : Settled tree path current (act.perform site) := by
  cases act with
  | edit disk =>
      obtain ⟨hcurrent, htext⟩ := hhonest
      refine ⟨h.tree, h.path, hcurrent.trans h.current, h.unlocked, ?_⟩
      exact (congrArg Prod.fst (load_congr htext)).trans h.loaded
  | invalidate => exact ⟨h.tree, h.path, h.current, h.unlocked, h.loaded⟩
  | look indexer now => exact h.served hhonest
  | reopen => exact ⟨h.tree, h.path, h.current, rfl, rfl⟩

/-- In an honest history the file holds the record that the cache holds. -/
theorem Settled.perform {current : Place} (h : Settled tree path current site)
    (hhonest : Along Act.IsHonest site acts) : Settled tree path current (perform site acts) := by
  induction acts generalizing site with
  | nil => exact h
  | cons act acts ih => exact ih (h.step hhonest.1) hhonest.2

end History

end Switchboard.Cache
