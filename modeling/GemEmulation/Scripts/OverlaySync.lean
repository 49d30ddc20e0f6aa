import GemEmulation.Foundations.Dict
import GemEmulation.Scripts.Shell

/-!
# Overlay synchronization

The cron script that mirrors the network files of a bucket into the host's
network directory.  Its first loop removes the overlay files that the bucket no
longer has, its second adds and updates, and both set one flag.
-/

namespace GemEmulation.Scripts.OverlaySync

open Foundations

variable {Content : Type}

structure File (Content : Type) where
  content : Content
  /-- In seconds. -/
  modified : Nat
  mode : Nat
  owner : String
  deriving DecidableEq, Repr

abbrev Directory (Content : Type) := Dict String (File Content)

/-- The files of the bucket; no object's name holds a line feed. -/
structure Bucket (Content : Type) where
  files : Dict String Content
  oneLine : ∀ name ∈ files.entries.map Prod.fst, '\n' ∉ name.toList

structure Progress (Content : Type) where
  target : Directory Content
  changed : Bool

def contents (directory : Directory Content) (name : String) : Option Content :=
  (directory.get? name).map File.content

def isVx (name : String) : Bool := "10-vx-".toList.isPrefixOf name.toList

def isSec (name : String) : Bool := "10-sec-".toList.isPrefixOf name.toList

/-- `*`, which leaves out the names that start with a dot. -/
def isVisible (name : String) : Bool := decide (name.toList.head? ≠ some '.')

def filename (name : String) : String := Shell.substitution name

/-- `find "$file" -mmin +5`. -/
def isOld (now : Nat) (file : File Content) : Bool := decide (file.modified + 5 * 60 < now)

/-- Whether the first loop removes a local file. -/
def isStale (staging : Dict String Content) (now : Nat) (name : String) :
    Option (File Content) → Bool
  | none => false
  | some file => (staging.get? (filename name)).isNone && isOld now file

def removeStep (staging : Dict String Content) (now : Nat) (progress : Progress Content)
    (name : String) : Progress Content :=
  if isStale staging now name (progress.target.get? name) then
    ⟨progress.target.erase name, true⟩
  else progress

def addStep [DecidableEq Content] (staging : Dict String Content) (now : Nat)
    (progress : Progress Content) (name : String) : Progress Content :=
  match staging.get? name with
  | none => progress
  | some content =>
      if contents progress.target (filename name) = some content then progress
      else ⟨progress.target.set (filename name) ⟨content, now, 0o644, "root:root"⟩, true⟩

def overlayNames (target : Directory Content) : List String :=
  let names := target.entries.map Prod.fst
  names.filter isVx ++ names.filter isSec

def stagedNames (staging : Dict String Content) : List String :=
  (staging.entries.map Prod.fst).filter isVisible

/-- A run, with what `rsync` has staged when it succeeds: the directory afterwards, and whether
networkd restarts. -/
def run [DecidableEq Content] (rsynced : Option (Bucket Content)) (now : Nat)
    (target : Directory Content) : Directory Content × Bool :=
  match rsynced with
  | none => (target, false)
  | some bucket =>
      let removed := (overlayNames target).foldl (removeStep bucket.files now) ⟨target, false⟩
      let added := (stagedNames bucket.files).foldl (addStep bucket.files now) removed
      (added.target, added.changed)

theorem Bucket.filename_eq (bucket : Bucket Content) {name : String} {content : Content}
    (listed : bucket.files.get? name = some content) : filename name = name :=
  Shell.substitution_oneLine (bucket.oneLine name (List.mem_map.mpr
    ⟨_, (bucket.files.mem_entries_iff name content).mpr listed, rfl⟩))

theorem mem_names_iff {Value : Type} (dict : Dict String Value) (name : String) :
    name ∈ dict.entries.map Prod.fst ↔ dict.get? name ≠ none := by
  rw [List.mem_map, Option.ne_none_iff_exists']
  constructor
  · rintro ⟨⟨found, value⟩, listed, rfl⟩
    exact ⟨value, (dict.mem_entries_iff found value).mp listed⟩
  · rintro ⟨value, found⟩
    exact ⟨(name, value), (dict.mem_entries_iff name value).mpr found, rfl⟩

def IsOverlay (name : String) : Prop := isVx name = true ∨ isSec name = true

theorem mem_overlayNames_iff (target : Directory Content) (name : String) :
    name ∈ overlayNames target ↔ target.get? name ≠ none ∧ IsOverlay name := by
  simp only [overlayNames, List.mem_append, List.mem_filter, mem_names_iff, IsOverlay]
  exact and_or_left.symm

theorem mem_stagedNames_iff (staging : Dict String Content) (name : String) :
    name ∈ stagedNames staging ↔ staging.get? name ≠ none ∧ isVisible name = true := by
  rw [stagedNames, List.mem_filter, mem_names_iff]

theorem IsOverlay.visible {name : String} (overlay : IsOverlay name) : isVisible name = true := by
  rw [isVisible, decide_eq_true_eq]
  intro hidden
  rcases overlay with vx | sec
  · obtain ⟨rest, same⟩ := List.isPrefixOf_iff_prefix.mp vx
    rw [← same] at hidden
    exact absurd hidden (by simp)
  · obtain ⟨rest, same⟩ := List.isPrefixOf_iff_prefix.mp sec
    rw [← same] at hidden
    exact absurd hidden (by simp)

section Removals

variable {staging : Dict String Content} {now : Nat}

theorem removeStep_get? (progress : Progress Content) (name other : String) :
    (removeStep staging now progress name).target.get? other =
      if other = name ∧ isStale staging now other (progress.target.get? other) = true then none
      else progress.target.get? other := by
  by_cases same : other = name
  · subst same
    by_cases stale : isStale staging now other (progress.target.get? other) = true
    · simp [removeStep, stale]
    · simp [removeStep, stale]
  · by_cases stale : isStale staging now name (progress.target.get? name) = true
    · simp [removeStep, stale, same]
    · simp [removeStep, stale, same]

theorem removals_get? (names : List String) (progress : Progress Content) (name : String) :
    (names.foldl (removeStep staging now) progress).target.get? name =
      if name ∈ names ∧ isStale staging now name (progress.target.get? name) = true then none
      else progress.target.get? name := by
  induction names generalizing progress with
  | nil => simp
  | cons first rest inductionHypothesis =>
      rw [List.foldl_cons, inductionHypothesis, removeStep_get?]
      by_cases same : name = first
      · subst same
        by_cases stale : isStale staging now name (progress.target.get? name) = true
        · simp [stale]
        · simp [stale]
      · simp [same]

theorem removals_changed (names : List String) (progress : Progress Content) :
    (names.foldl (removeStep staging now) progress).changed = true ↔
      progress.changed = true ∨
        ∃ name ∈ names, isStale staging now name (progress.target.get? name) = true := by
  induction names generalizing progress with
  | nil => simp
  | cons first rest inductionHypothesis =>
      rw [List.foldl_cons, inductionHypothesis, List.exists_mem_cons_iff]
      by_cases stale : isStale staging now first (progress.target.get? first) = true
      · simp [removeStep, stale]
      · simp [removeStep, stale]

theorem removals_eq_self (names : List String) (progress : Progress Content)
    (fresh : ∀ name ∈ names, isStale staging now name (progress.target.get? name) = false) :
    names.foldl (removeStep staging now) progress = progress := by
  induction names with
  | nil => rfl
  | cons first rest inductionHypothesis =>
      rw [List.forall_mem_cons] at fresh
      rw [List.foldl_cons, removeStep, fresh.1]
      exact inductionHypothesis fresh.2

end Removals

section Additions

variable [DecidableEq Content] {bucket : Bucket Content} {now : Nat}

/-- Whether the second loop copies a file. -/
def Outdated (bucket : Bucket Content) (target : Directory Content) (name : String) : Prop :=
  bucket.files.get? name ≠ none ∧ contents target name ≠ bucket.files.get? name

theorem addStep_of_not_outdated {progress : Progress Content} {name : String}
    (current : ¬ Outdated bucket progress.target name) :
    addStep bucket.files now progress name = progress := by
  rw [addStep]
  split
  next => rfl
  next content staged =>
    rw [Outdated, staged, not_and, not_not] at current
    rw [bucket.filename_eq staged, if_pos (current (Option.some_ne_none content))]

theorem addStep_of_outdated (now : Nat) {progress : Progress Content} {name : String}
    (outdated : Outdated bucket progress.target name) :
    ∃ content, bucket.files.get? name = some content ∧
      addStep bucket.files now progress name =
        ⟨progress.target.set name ⟨content, now, 0o644, "root:root"⟩, true⟩ := by
  obtain ⟨staged, different⟩ := outdated
  obtain ⟨content, found⟩ := Option.ne_none_iff_exists'.mp staged
  refine ⟨content, found, ?_⟩
  rw [found] at different
  simp only [addStep, found, bucket.filename_eq found, different, if_false]

theorem addStep_contents (progress : Progress Content) (name other : String) :
    contents (addStep bucket.files now progress name).target other =
      if other = name ∧ bucket.files.get? other ≠ none then bucket.files.get? other
      else contents progress.target other := by
  by_cases outdated : Outdated bucket progress.target name
  · obtain ⟨content, found, added⟩ := addStep_of_outdated now outdated
    rw [added]
    by_cases same : other = name
    · simp [contents, same, found]
    · simp [contents, same]
  · rw [addStep_of_not_outdated outdated]
    by_cases same : other = name
    · subst same
      rw [Outdated, not_and, not_not] at outdated
      by_cases staged : bucket.files.get? other = none
      · simp [staged]
      · simp [staged, outdated staged]
    · simp [same]

theorem additions_contents (names : List String) (progress : Progress Content) (name : String) :
    contents (names.foldl (addStep bucket.files now) progress).target name =
      if name ∈ names ∧ bucket.files.get? name ≠ none then bucket.files.get? name
      else contents progress.target name := by
  induction names generalizing progress with
  | nil => simp
  | cons first rest inductionHypothesis =>
      rw [List.foldl_cons, inductionHypothesis, addStep_contents]
      by_cases same : name = first
      · subst same
        by_cases staged : bucket.files.get? name = none
        · simp [staged]
        · simp [staged]
      · simp [same]

theorem additions_changed (names : List String) (progress : Progress Content) :
    (names.foldl (addStep bucket.files now) progress).changed = true ↔
      progress.changed = true ∨ ∃ name ∈ names, Outdated bucket progress.target name := by
  induction names generalizing progress with
  | nil => simp
  | cons first rest inductionHypothesis =>
      rw [List.foldl_cons, inductionHypothesis, List.exists_mem_cons_iff]
      by_cases outdated : Outdated bucket progress.target first
      · obtain ⟨content, -, added⟩ := addStep_of_outdated now outdated
        simp [added, outdated]
      · simp [addStep_of_not_outdated outdated, outdated]

theorem additions_eq_self (names : List String) (progress : Progress Content)
    (current : ∀ name ∈ names, ¬ Outdated bucket progress.target name) :
    names.foldl (addStep bucket.files now) progress = progress := by
  induction names with
  | nil => rfl
  | cons first rest inductionHypothesis =>
      rw [List.forall_mem_cons] at current
      rw [List.foldl_cons, addStep_of_not_outdated current.1]
      exact inductionHypothesis current.2

end Additions

section Run

variable [DecidableEq Content] {bucket : Bucket Content} {now : Nat} {target : Directory Content}

def Removed (bucket : Bucket Content) (now : Nat) (target : Directory Content) (name : String) :
    Prop :=
  name ∈ overlayNames target ∧ isStale bucket.files now name (target.get? name) = true

def Staged (bucket : Bucket Content) (name : String) : Prop :=
  isVisible name = true ∧ bucket.files.get? name ≠ none

omit [DecidableEq Content] in
theorem Removed.not_listed {name : String} (removed : Removed bucket now target name) :
    bucket.files.get? name = none := by
  by_contra listed
  obtain ⟨content, found⟩ := Option.ne_none_iff_exists'.mp listed
  have stale := removed.2
  cases present : target.get? name with
  | none => simp [present, isStale] at stale
  | some file => simp [present, isStale, bucket.filename_eq found, found] at stale

omit [DecidableEq Content] in
theorem removals_contents (name : String) :
    (Removed bucket now target name →
      contents ((overlayNames target).foldl (removeStep bucket.files now) ⟨target, false⟩).target
        name = none) ∧
      (¬ Removed bucket now target name →
        contents ((overlayNames target).foldl (removeStep bucket.files now) ⟨target, false⟩).target
          name = contents target name) := by
  constructor
  · intro removed
    rw [contents, removals_get?]
    exact congrArg (Option.map File.content) (if_pos removed)
  · intro remains
    rw [contents, removals_get?]
    exact congrArg (Option.map File.content) (if_neg remains)

theorem run_staged {name : String} (staged : Staged bucket name) :
    contents (run (some bucket) now target).1 name = bucket.files.get? name := by
  have listed := (mem_stagedNames_iff bucket.files name).mpr staged.symm
  rw [run, additions_contents, if_pos ⟨listed, staged.2⟩]

theorem run_unstaged {name : String} (unstaged : ¬ Staged bucket name) :
    contents (run (some bucket) now target).1 name =
      contents ((overlayNames target).foldl (removeStep bucket.files now) ⟨target, false⟩).target
        name := by
  rw [run, additions_contents, if_neg]
  rintro ⟨listed, -⟩
  exact unstaged ((mem_stagedNames_iff bucket.files name).mp listed).symm

theorem run_removed {name : String} (removed : Removed bucket now target name) :
    contents (run (some bucket) now target).1 name = none := by
  rw [run_unstaged fun staged => staged.2 removed.not_listed, (removals_contents name).1 removed]

theorem run_other {name : String} (unstaged : ¬ Staged bucket name)
    (remains : ¬ Removed bucket now target name) :
    contents (run (some bucket) now target).1 name = contents target name := by
  rw [run_unstaged unstaged, (removals_contents name).2 remains]

omit [DecidableEq Content] in
theorem contents_eq_none {directory : Directory Content} {name : String} :
    contents directory name = none ↔ directory.get? name = none :=
  Option.map_eq_none_iff

theorem run_keeps {name : String} (present : target.get? name ≠ none)
    (remains : ¬ Removed bucket now target name) :
    (run (some bucket) now target).1.get? name ≠ none := by
  rw [ne_eq, ← contents_eq_none] at present ⊢
  by_cases staged : Staged bucket name
  · rw [run_staged staged]
    exact staged.2
  · rwa [run_other staged remains]

/-- A run restarts networkd when it changes the contents of the directory. -/
theorem run_restarts :
    (run (some bucket) now target).2 = true ↔
      contents (run (some bucket) now target).1 ≠ contents target := by
  have flag : (run (some bucket) now target).2 = true ↔
      (∃ name, Removed bucket now target name) ∨
        ∃ name, Staged bucket name ∧ contents target name ≠ bucket.files.get? name := by
    rw [run, additions_changed, removals_changed]
    simp only [Bool.false_eq_true, false_or]
    refine or_congr Iff.rfl ⟨?_, ?_⟩
    · rintro ⟨name, listed, staged, different⟩
      have visible := (mem_stagedNames_iff bucket.files name).mp listed
      rw [(removals_contents name).2 fun removed => staged removed.not_listed] at different
      exact ⟨name, visible.symm, different⟩
    · rintro ⟨name, staged, different⟩
      refine ⟨name, (mem_stagedNames_iff bucket.files name).mpr staged.symm, staged.2, ?_⟩
      rwa [(removals_contents name).2 fun removed => staged.2 removed.not_listed]
  rw [flag, Function.ne_iff]
  constructor
  · rintro (⟨name, removed⟩ | ⟨name, staged, different⟩)
    · refine ⟨name, ?_⟩
      rw [run_removed removed]
      exact fun absent => ((mem_overlayNames_iff target name).mp removed.1).1
        (contents_eq_none.mp absent.symm)
    · refine ⟨name, ?_⟩
      rw [run_staged staged]
      exact Ne.symm different
  · rintro ⟨name, different⟩
    by_cases staged : Staged bucket name
    · rw [run_staged staged] at different
      exact .inr ⟨name, staged, Ne.symm different⟩
    · by_cases removed : Removed bucket now target name
      · exact .inl ⟨name, removed⟩
      · exact absurd (run_other staged removed) different

theorem run_eq_self
    (mirrored : ∀ name, IsOverlay name → contents target name = bucket.files.get? name)
    (current : ∀ name, Staged bucket name → contents target name = bucket.files.get? name) :
    run (some bucket) now target = (target, false) := by
  have noneRemoved : ∀ name ∈ overlayNames target,
      isStale bucket.files now name (target.get? name) = false := by
    intro name listed
    obtain ⟨present, overlay⟩ := (mem_overlayNames_iff target name).mp listed
    rw [Bool.eq_false_iff]
    intro stale
    have unlisted := Removed.not_listed ⟨listed, stale⟩
    rw [← mirrored name overlay, contents_eq_none] at unlisted
    exact present unlisted
  have noneOutdated : ∀ name ∈ stagedNames bucket.files, ¬ Outdated bucket target name := by
    rintro name listed ⟨-, different⟩
    exact different (current name ((mem_stagedNames_iff bucket.files name).mp listed).symm)
  rw [run, removals_eq_self _ ⟨target, false⟩ noneRemoved, additions_eq_self _ _ noneOutdated]

/-- A run leaves the overlay files of the bucket, removes no other file, restarts networkd on a
change alone, and is settled after it. -/
structure Mirrors (bucket : Bucket Content) (now : Nat) (target : Directory Content) : Prop where
  mirrored : ∀ name, IsOverlay name →
    contents (run (some bucket) now target).1 name = bucket.files.get? name
  others : ∀ name, ¬ IsOverlay name → target.get? name ≠ none →
    (run (some bucket) now target).1.get? name ≠ none
  restarts : (run (some bucket) now target).2 = true ↔
    contents (run (some bucket) now target).1 ≠ contents target
  settled : ∀ later, run (some bucket) later (run (some bucket) now target).1 =
    ((run (some bucket) now target).1, false)

/-- No run removes a file younger than the guard. -/
def KeepsRecent (Content : Type) [DecidableEq Content] : Prop :=
  ∀ (rsynced : Option (Bucket Content)) now target name file, target.get? name = some file →
    isOld now file = false → (run rsynced now target).1.get? name ≠ none

theorem run_keepsRecent : KeepsRecent Content := by
  intro rsynced now target name file found recent
  have present : target.get? name ≠ none := by simp [found]
  cases rsynced with
  | none => exact present
  | some bucket =>
      apply run_keeps present
      intro removed
      have stale := removed.2
      simp [found, isStale, recent] at stale

/-- No overlay file that the bucket lacks has the name of one of its files before line feeds. -/
def NamesApart (bucket : Bucket Content) (target : Directory Content) : Prop :=
  ∀ name, IsOverlay name → target.get? name ≠ none →
    bucket.files.get? (filename name) ≠ none → bucket.files.get? name ≠ none

/-- Where all overlay files are old, a run mirrors the bucket exactly when no overlay file hides
behind the line feeds that end its name. -/
theorem sync_mirrors_iff
    (old : ∀ name file, IsOverlay name → target.get? name = some file → isOld now file = true) :
    (Mirrors bucket now target ∧ KeepsRecent Content) ↔ NamesApart bucket target := by
  constructor
  · rintro ⟨mirrors, -⟩ name overlay present listed unlisted
    have remains : ¬ Removed bucket now target name := by
      rintro ⟨-, stale⟩
      cases found : target.get? name with
      | none => exact present found
      | some file => simp [found, isStale, listed] at stale
    have kept := run_keeps present remains
    rw [ne_eq, ← contents_eq_none, mirrors.mirrored name overlay] at kept
    exact kept unlisted
  · intro apart
    have mirrored : ∀ name, IsOverlay name →
        contents (run (some bucket) now target).1 name = bucket.files.get? name := by
      intro name overlay
      by_cases listed : bucket.files.get? name = none
      · rw [listed]
        by_cases present : target.get? name = none
        · rw [run_other (fun staged => staged.2 listed), contents_eq_none, present]
          rintro ⟨-, stale⟩
          simp [present, isStale] at stale
        · obtain ⟨file, found⟩ := Option.ne_none_iff_exists'.mp present
          have hidden : bucket.files.get? (filename name) = none := by
            by_contra behind
            exact apart name overlay present behind listed
          refine run_removed ⟨(mem_overlayNames_iff target name).mpr ⟨present, overlay⟩, ?_⟩
          simp [found, isStale, hidden, old name file overlay found]
      · exact run_staged ⟨overlay.visible, listed⟩
    refine ⟨⟨mirrored, fun name other present => ?_, run_restarts, fun later => ?_⟩,
      run_keepsRecent⟩
    · apply run_keeps present
      intro removed
      exact other ((mem_overlayNames_iff target name).mp removed.1).2
    · exact run_eq_self mirrored fun name staged => run_staged staged

end Run

def vxBucket : Bucket String := ⟨.singleton "10-vx-a" "[NetDev]", by decide⟩

def hiddenTarget : Directory String :=
  .singleton "10-vx-a\n" ⟨"[NetDev]", 0, 0o644, "root:root"⟩

theorem hiddenTarget_old (name : String) (file : File String)
    (found : hiddenTarget.get? name = some file) : isOld 600 file = true := by
  rw [hiddenTarget, Dict.singleton, Dict.get?_set, Dict.get?_empty] at found
  split at found
  next =>
    cases found
    rfl
  next => cases found

theorem hiddenFile_kept :
    (∀ name file, IsOverlay name → hiddenTarget.get? name = some file → isOld 600 file = true) ∧
      ¬ (Mirrors vxBucket 600 hiddenTarget ∧ KeepsRecent String) := by
  refine ⟨fun name file _ => hiddenTarget_old name file, ?_⟩
  rintro ⟨mirrors, -⟩
  have gone := mirrors.mirrored "10-vx-a\n" (.inl (by decide))
  exact absurd gone (by decide)

theorem sync_mirrors_hidden :
    (Mirrors vxBucket 600 hiddenTarget ∧ KeepsRecent String) ↔
      NamesApart vxBucket hiddenTarget :=
  sync_mirrors_iff fun name file _ => hiddenTarget_old name file

end GemEmulation.Scripts.OverlaySync
