import Switchboard.Config.Validation
import Switchboard.Proofs.Cache.Freshness
import Switchboard.Proofs.Disk.Sibling
import Switchboard.Proofs.Source.Decoding
import Switchboard.Proofs.Source.Hidden

/-!
# Where a cache may be kept

The configuration names the file of the record, the root of the source tree and the patterns of the
tree one by one, and nothing keeps the file out of the tree. Where the file is, and the one that is
written first, decides whether persisting is noticed: a tree that selects neither has the same
fingerprint before and after, so what was just indexed is served again. A tree that selects the
record has another file as soon as the record is persisted.

A record below a hidden directory is never selected, whatever the patterns are. This is so as long
as the tree is walked without following links, which is how all source trees are walked here.

## Main results

* `standsApart_of_goesHidden` — a record that is kept in a hidden directory.
* `persist_unnoticed` — which locations leave a fingerprint as it is.
* `persist_noticed` — a configuration is accepted whose record belongs to its own tree.
-/

namespace Switchboard

/-- The directory of the longer path is that of the other path, or below it. -/
theorem Disk.dropLast_placeFrom_append {suffix : String} (hslash : '/' ∉ suffix.toList)
    (hlong : 2 < suffix.length) (current : Place) (path : String) :
    (placeFrom current path).dropLast <+: (placeFrom current (path ++ suffix)).dropLast := by
  obtain ⟨above, last, happend, hpath⟩ := placeFrom_append hslash hlong current path
  rw [happend, List.dropLast_concat]
  obtain hpath | hpath := hpath
  · rw [hpath]
    exact List.dropLast_prefix above
  rw [hpath, enter]
  split
  · exact List.dropLast_prefix above
  split
  · exact (List.dropLast_prefix _).trans (List.dropLast_prefix above)
  · rw [List.dropLast_concat]

namespace Cache

open Switchboard.Data
open Switchboard.Source (File Fingerprint Indexer Tree)

variable {tree : Tree} {path : String} {current root : Place}

/-! ## Hidden records -/

/-- If the record is below a hidden directory, so is the file that is written first. -/
theorem isHidden_temporaryPlace {parts : List String}
    (hbelow : Disk.below? root (Disk.placeFrom current path) = some parts)
    (hhidden : Tree.goesHidden parts = true) :
    Tree.isHidden root (temporaryPlace current path) = true := by
  obtain ⟨name, hname, hmem⟩ := List.any_eq_true.mp hhidden
  have hparts : parts ≠ [] := by
    rintro rfl
    cases hmem
  have hdirectory := @Disk.dropLast_placeFrom_append ".tmp" (by decide) (by decide)
    current path
  rw [← Disk.below?_eq_some.mp hbelow, List.dropLast_append_of_ne_nil hparts] at hdirectory
  obtain ⟨more, hmore⟩ := hdirectory
  have hne : Disk.placeFrom current (path ++ ".tmp") ≠ [] := by
    intro hnil
    rw [hnil] at hmore
    simp only [List.dropLast_nil, List.append_eq_nil_iff] at hmore
    rw [hmore.1.2] at hmem
    cases hmem
  have hplace : Disk.below? root (temporaryPlace current path) =
      some (parts.dropLast ++ more ++ [(Disk.placeFrom current (path ++ ".tmp")).getLast hne]) := by
    refine Disk.below?_eq_some.mpr ?_
    rw [← List.append_assoc, ← List.append_assoc, hmore]
    exact List.dropLast_append_getLast hne
  rw [Tree.isHidden, hplace]
  refine List.any_eq_true.mpr ⟨name, hname, ?_⟩
  rw [List.dropLast_concat]
  exact List.contains_iff_mem.mpr (List.mem_append_left _ (List.contains_iff_mem.mp hmem))

section Compiled

variable {sourceRoot : String} {includeGlobs excludeGlobs : List String}

/-- A tree stands apart from a record that is hidden together with the file that is written
first. -/
theorem standsApart_of_isHidden
    (h : Tree.compile sourceRoot includeGlobs excludeGlobs = .ok tree)
    (hthere :
      Tree.isHidden (Disk.placeFrom current sourceRoot) (Disk.placeFrom current path) = true)
    (hhere : Tree.isHidden (Disk.placeFrom current sourceRoot) (temporaryPlace current path) =
      true) : standsApart tree path current = true := by
  rw [standsApart_iff, (Tree.compile_eq_ok.mp h).1]
  exact ⟨Tree.owns_of_isHidden h hthere, Tree.owns_of_isHidden h hhere, Tree.ne_of_isHidden hhere⟩

/-- A tree stands apart from a record below one of its hidden directories. -/
theorem standsApart_of_goesHidden {parts : List String}
    (h : Tree.compile sourceRoot includeGlobs excludeGlobs = .ok tree)
    (hbelow : Disk.below? (Disk.placeFrom current sourceRoot) (Disk.placeFrom current path) =
      some parts) (hhidden : Tree.goesHidden parts = true) :
    standsApart tree path current = true := by
  refine standsApart_of_isHidden h ?_ (isHidden_temporaryPlace hbelow hhidden)
  rw [Tree.isHidden, hbelow]
  exact hhidden

end Compiled

/-! ## What a tree sees of persisting -/

section Seen

variable {disk : Disk} {r : Record}

/-- A record that was persisted is a file of the tree exactly if the tree selects its path. -/
theorem mem_files_persist {files : List File} {parts : List String}
    (hok : (persist disk path r).2 = .ok ())
    (hfiles : tree.files (persist disk path r).1 = .ok files)
    (hbelow : Disk.below? (Disk.placeFrom disk.current tree.root)
      (Disk.placeFrom disk.current path) = some parts) :
    ⟨"/".intercalate parts, r.content⟩ ∈ files ↔ tree.selects ("/".intercalate parts) = true := by
  obtain ⟨root, hroot, -, rfl⟩ := Tree.files_eq_ok.mp hfiles
  have hsteps := hok ▸ persisting_persist disk path r
  obtain rfl : root = Disk.placeFrom disk.current tree.root :=
    hsteps.extends.current ▸ Disk.resolve_eq_place hroot
  rw [Tree.mem_select, and_iff_right]
  have hmem : (Disk.placeFrom disk.current path, r.content) ∈ (persist disk path r).1.files := by
    cases hsteps with
    | published _ _ moved _ =>
        rw [moved, Disk.moved, Disk.putFile]
        exact List.mem_append_right _ List.mem_cons_self
  refine List.mem_filterMap.mpr ⟨_, hmem, ?_⟩
  simp only [hbelow, Option.map_some]

end Seen

/-- What a cache that is opened consists of. -/
theorem openAt_eq_ok {root : String} {includeGlobs excludeGlobs : List String} {disk : Disk}
    {cache : Cache} :
    openAt path root includeGlobs excludeGlobs disk = .ok cache ↔
      ∃ tree, Tree.compile root includeGlobs excludeGlobs = .ok tree ∧
        ofTree tree path disk = cache := by
  rw [openAt]
  cases Tree.compile root includeGlobs excludeGlobs <;> simp [Except.map]

/-- For every configuration that does not follow links and whose patterns compile, and every disk
with the same current directory: files outside of the root or below one of its hidden directories
never belong to the tree; a record that is kept below a hidden directory, and the file that is
written first, stand apart from the tree; if they stand apart, persisting any record leaves the
fingerprint as it is, and every record that was served without being stale is served again if
nothing is changed; and a record that was persisted is a file of the tree exactly if the tree
selects its path. A walk that follows links may come from below the root to any place, so nothing
is said of it. -/
theorem persist_unnoticed {c : Config} {start : Disk} {cache : Cache} :
    c.cache.followSymlinks = false →
    openAt c.cache.path c.cache.sourceRoot c.cache.includeGlobs c.cache.excludeGlobs start =
      .ok cache →
    let root := Disk.placeFrom start.current c.cache.sourceRoot
    let there := Disk.placeFrom start.current c.cache.path
    (∀ place, Tree.isHidden root place = true → cache.tree.owns root place = false) ∧
    (∀ parts, Disk.below? root there = some parts → Tree.goesHidden parts = true →
      standsApart cache.tree cache.path start.current = true) ∧
    (standsApart cache.tree cache.path start.current = true →
      (∀ disk fingerprint r, disk.current = start.current →
        cache.tree.fingerprint disk = .ok fingerprint →
        cache.tree.fingerprint (persist disk cache.path r).1 = .ok fingerprint) ∧
      (∀ site indexer now r origin, site.cache.tree = cache.tree → site.cache.path = cache.path →
        site.cache.locked = false → site.disk.current = start.current →
        (getOrBuild indexer now site).2 = .ok ⟨r, origin⟩ → origin.isStale = false →
        ∀ indexer' now', getOrBuild indexer' now' (getOrBuild indexer now site).1 =
          ((getOrBuild indexer now site).1, .ok ⟨r, .hit⟩))) ∧
    (∀ disk r files parts, disk.current = start.current →
      (persist disk cache.path r).2 = .ok () →
      cache.tree.files (persist disk cache.path r).1 = .ok files →
      Disk.below? root there = some parts →
      (⟨"/".intercalate parts, r.content⟩ ∈ files ↔
        cache.tree.selects ("/".intercalate parts) = true)) := by
  intro _ hopen root there
  obtain ⟨tree, hcompile, rfl⟩ := openAt_eq_ok.mp hopen
  have htree : tree.root = c.cache.sourceRoot := (Tree.compile_eq_ok.mp hcompile).1
  refine ⟨fun place hplace => Tree.owns_of_isHidden hcompile hplace, fun parts hbelow hhidden => ?_,
    fun hapart => ⟨fun disk fingerprint r hcurrent hmeasure => ?_, ?_⟩,
    fun disk r files parts hcurrent hok hfiles hbelow => ?_⟩
  · exact standsApart_of_goesHidden hcompile hbelow hhidden
  · exact fingerprint_persist r (hcurrent ▸ hapart) hmeasure
  · intro site indexer now r origin hsite hfile hlocked hcurrent hanswer horigin indexer' now'
    rw [← hsite, ← hfile, ← hcurrent] at hapart
    exact (fresh_of_served hlocked hapart hanswer horigin).getOrBuild_eq indexer' now'
  · refine mem_files_persist hok hfiles ?_
    rw [hcurrent]
    exact htree ▸ hbelow

/-! ### Two configurations -/

/-- A tree of all files is empty on a disk without files. -/
theorem files_eq_nil {disk : Disk} {root : Place} (hresolve : disk.resolve tree.root = .ok root)
    (htaken : disk.isTaken root = true) (hfiles : disk.files = []) : tree.files disk = .ok [] := by
  refine Tree.files_eq_ok.mpr ⟨root, hresolve, htaken, ?_⟩
  simp [Tree.select, Disk.filesBelow, hfiles]

/-- The record is kept below the root of a tree of all files, in the directory of the router. -/
def kept : Config where
  cache := { path := "/p/.relay/index.json", sourceRoot := "/p", includeGlobs := ["**"] }

/-- A disk with the root of the tree. -/
def rooted : Disk := { directories := [["p"]] }

/-- The first lookup makes the record and the directory it is kept in, and the next one is served
from the record. -/
theorem kept_unnoticed :
    kept.cache.followSymlinks = false ∧
    ∃ cache, openAt kept.cache.path kept.cache.sourceRoot kept.cache.includeGlobs
        kept.cache.excludeGlobs rooted = .ok cache ∧
      (getOrBuild blank ⟨0, 0⟩ ⟨rooted, cache⟩).2 = .ok ⟨blankRecord [], .built⟩ ∧
      ∀ indexer now, (getOrBuild indexer now (getOrBuild blank ⟨0, 0⟩ ⟨rooted, cache⟩).1).2 =
        .ok ⟨blankRecord [], .hit⟩ := by
  have hcompiles : (Tree.compile "/p" ["**"] []).toOption.isSome = true := by
    decide +kernel
  cases hcompile : Tree.compile "/p" ["**"] [] with
  | error report =>
      rw [hcompile] at hcompiles
      cases hcompiles
  | ok tree =>
      have hopen : openAt kept.cache.path kept.cache.sourceRoot kept.cache.includeGlobs
          kept.cache.excludeGlobs rooted = .ok (ofTree tree kept.cache.path rooted) :=
        openAt_eq_ok.mpr ⟨tree, hcompile, rfl⟩
      obtain ⟨-, hhidden, hapart, -⟩ := @persist_unnoticed kept rooted _ rfl hopen
      have hroot : tree.root = "/p" := (Tree.compile_eq_ok.mp hcompile).1
      have hfiles : tree.files rooted = .ok [] :=
        @files_eq_nil tree rooted ["p"] (by rw [hroot]; rfl) rfl rfl
      have hanswer : (getOrBuild blank ⟨0, 0⟩ (.opened tree kept.cache.path rooted)).2 =
          .ok ⟨blankRecord [], .built⟩ := by
        rw [getOrBuild_blank rfl hfiles rfl]
        rfl
      refine ⟨rfl, _, hopen, hanswer, fun indexer now => ?_⟩
      have hstands := hhidden [".relay", "index.json"] rfl (by decide)
      exact congrArg Prod.snd ((hapart hstands).2 (.opened tree kept.cache.path rooted) blank ⟨0, 0⟩
        _ .built rfl rfl rfl rfl hanswer rfl indexer now)

/-- A tree that holds the whole disk consists of the record if it selects it. -/
theorem files_published_of_selects {name : String} (r : Record) (hroot : tree.root = "/")
    (hname : tree.selects name = true) :
    tree.files (published name r) = .ok [⟨name, r.content⟩] := by
  refine Tree.files_eq_ok.mpr ⟨[], by rw [hroot]; rfl, rfl, ?_⟩
  simp [Tree.select, Disk.filesBelow, published, Disk.below?, hname]

theorem persist_empty (r : Record) : persist {} "/a" r = (published "a" r, .ok ()) := rfl

/-- The record is kept among the files of the tree, and no links are followed. -/
def clashing : Config where
  cache := { path := "/a", sourceRoot := "/", includeGlobs := ["**"] }

/-- A configuration is accepted whose record belongs to its own tree: after the first lookup has
persisted its record on an empty disk, the record is a file of the tree. -/
theorem persist_noticed :
    Config.validate clashing = .ok () ∧
    ∃ cache, openAt clashing.cache.path clashing.cache.sourceRoot clashing.cache.includeGlobs
        clashing.cache.excludeGlobs {} = .ok cache ∧
      (getOrBuild blank ⟨0, 0⟩ ⟨{}, cache⟩).2 = .ok ⟨blankRecord [], .built⟩ ∧
      cache.tree.files {} = .ok [] ∧
      cache.tree.files (getOrBuild blank ⟨0, 0⟩ ⟨{}, cache⟩).1.disk =
        .ok [⟨"a", (blankRecord []).content⟩] ∧
      cache.tree.fingerprint (getOrBuild blank ⟨0, 0⟩ ⟨{}, cache⟩).1.disk ≠
        cache.tree.fingerprint {} := by
  have hselects : (Tree.compile "/" ["**"] []).toOption.any (·.selects "a") = true := by
    decide +kernel
  cases hcompile : Tree.compile "/" ["**"] [] with
  | error report =>
      rw [hcompile] at hselects
      cases hselects
  | ok tree =>
      rw [hcompile] at hselects
      have hroot : tree.root = "/" := (Tree.compile_eq_ok.mp hcompile).1
      have hfiles : tree.files {} = .ok [] :=
        @files_eq_nil tree {} [] (by rw [hroot]; rfl) rfl rfl
      have hlookup : getOrBuild blank ⟨0, 0⟩ (.opened tree "/a" {}) =
          ((Site.opened tree "/a" {}).renewed (blankRecord []), .ok ⟨blankRecord [], .built⟩) :=
        getOrBuild_blank rfl hfiles rfl
      have hdisk : (getOrBuild blank ⟨0, 0⟩ (.opened tree "/a" {})).1.disk =
          published "a" (blankRecord []) := by
        rw [hlookup, Site.renewed, Site.opened_path, Site.opened_disk, persist_empty]
      have hrecord : tree.files (getOrBuild blank ⟨0, 0⟩ (.opened tree "/a" {})).1.disk =
          .ok [⟨"a", (blankRecord []).content⟩] := by
        rw [hdisk]
        exact files_published_of_selects _ hroot hselects
      refine ⟨rfl, _, openAt_eq_ok.mpr ⟨tree, hcompile, rfl⟩, congrArg Prod.snd hlookup, hfiles,
        hrecord, ?_⟩
      -- The paths of the files are part of the fingerprint.
      show tree.fingerprint (getOrBuild blank ⟨0, 0⟩ (.opened tree "/a" {})).1.disk ≠
        tree.fingerprint {}
      rw [Tree.fingerprint, Tree.fingerprint, hrecord, hfiles]
      intro hsame
      exact absurd (congrArg Source.Fingerprint.inputs (Except.ok.inj hsame)) (by decide)

end Cache

end Switchboard
