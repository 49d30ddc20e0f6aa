import GemEmulation.Policies.WorkloadLimitations
import GemEmulation.Foundations.Paths

/-!
# The host paths of Pods

Which host paths the workload limitations accept, and when those lie in the
allowed directories.  The check compares texts, not directories.
-/

namespace GemEmulation.Policies.WorkloadLimitations

open Foundations Foundations.Query Foundations.Paths

/-- A value at the path of a `hostPath` volume. -/
def HostPathOf (pod value : Json) : Prop :=
  ∃ volumes, pod.path ["spec", "volumes"] = some volumes ∧
    ∃ volume ∈ volumes.each, volume.path ["hostPath", "path"] = some value

/-- No violation is about the path. -/
def AcceptsPath (input : Input) (path : String) : Prop :=
  ¬ Yields (violation input) (hostPathMessage (.string path))

/-- The path starts, as a text, with an allowed directory. -/
def StartsAllowed (directories : List String) (path : String) : Prop :=
  ∃ directory ∈ directories, directory.toList <+: path.toList

def Confined (directories : List String) (path : String) : Prop :=
  ∃ directory ∈ directories, Within directory path

theorem hostPathMessage_injective {first second : String}
    (same : hostPathMessage (.string first) = hostPathMessage (.string second)) :
    first = second := by
  rw [← String.toList_inj]
  simpa [hostPathMessage, formatValue] using congrArg String.toList same

section Pod

variable {input : Input} {pod : Json} {directories : List String}
  (notExempt : isExempt input = undefined)
  (reviewing : input.review.path ["object"] = some pod)
  (isPod : pod.path ["kind"] = some (.string "Pod"))

section Allowed

variable (allowedPaths : input.parameters.path ["allowedHostPaths"] =
  some (.array (directories.map .string)))
include allowedPaths

theorem yields_hostpathAllowed (path : String) :
    (∃ value, Yields (hostpathAllowed input (.string path)) value) ↔
      StartsAllowed directories path := by
  have settled := settled_hostpathAllowed input (.string path)
  rw [hostpathAllowed] at settled ⊢
  rw [exists_yields_complete, and_iff_right settled]
  simp [yields_andThen, settled_andThen, allowedPaths, Json.each, startswith, StartsAllowed,
    List.isPrefixOf_iff_prefix]

end Allowed

theorem yields_hostPath (hostPath : Json) :
    Yields (violation input) (hostPathMessage hostPath) ↔
      Settled (violation input) ∧ Yields (hostPathCheck input) (hostPathMessage hostPath) := by
  rw [violation, yields_union]
  refine and_congr_right fun _ => ⟨?_, fun yields => ⟨_, List.mem_cons_self, yields⟩⟩
  rintro ⟨check, listed, yields⟩
  have start : ∀ text : String, (hostPathMessage hostPath = text) →
      text.toList.head? = some 'H' := by
    rintro text rfl
    simp [hostPathMessage]
  simp only [List.mem_cons, List.not_mem_nil, or_false] at listed
  rcases listed with rfl | rfl | rfl | rfl | rfl | rfl
  · exact yields
  · simp only [hostNetworkCheck, yields_andThen, yields_pure] at yields
    obtain ⟨-, object, -, -, network, -, -, done, -, message⟩ := yields
    exact absurd (start _ message) (by decide)
  · simp only [privilegedCheck, yields_andThen, yields_pure] at yields
    obtain ⟨-, object, -, -, containers, -, -, container, -, -, flag, -, -, done, -, message⟩ :=
      yields
    exact absurd (start _ message) (by decide)
  · simp only [priorityCheck, yields_andThen, yields_pure] at yields
    obtain ⟨-, object, -, -, priority, -, -, done, -, message⟩ := yields
    exact absurd (start _ message) (by simp)
  · simp only [nodePortCheck, yields_andThen, yields_pure] at yields
    obtain ⟨-, object, -, -, type, -, -, done, -, message⟩ := yields
    exact absurd (start _ message) (by decide)
  · simp only [externalIPsCheck, yields_andThen, yields_pure] at yields
    obtain ⟨-, object, -, -, ips, -, -, number, -, -, done, -, message⟩ := yields
    exact absurd (start _ message) (by decide)

include notExempt reviewing isPod

theorem yields_hostPathCheck (message : String) :
    Yields (hostPathCheck input) message ↔
      ∃ value, HostPathOf pod value ∧
        (¬ ∃ allowed, Yields (hostpathAllowed input value) allowed) ∧
          message = hostPathMessage value := by
  have settled : Settled (hostPathCheck input) := by
    simp [hostPathCheck, settled_andThen, settled_reviewed notExempt, settled_hostpathAllowed]
  rw [hostPathCheck, yields_andThen, ← hostPathCheck, and_iff_right settled]
  simp only [yields_pod notExempt reviewing isPod, exists_eq_left, yields_andThen, settled_andThen,
    settled_ref, settled_elements, settled_fails, settled_hostpathAllowed, settled_pure,
    yields_ref, yields_elements, yields_fails, yields_pure, implies_true, true_and, and_true,
    exists_const, HostPathOf, hostPathMessage, not_exists]
  constructor
  · rintro ⟨volumes, found, volume, listed, value, present, undefined, rfl⟩
    exact ⟨value, ⟨volumes, found, volume, listed, present⟩, undefined, rfl⟩
  · rintro ⟨value, ⟨volumes, found, volume, listed, present⟩, undefined, rfl⟩
    exact ⟨volumes, found, volume, listed, value, present, undefined, rfl⟩

variable (allowedPaths : input.parameters.path ["allowedHostPaths"] =
    some (.array (directories.map .string)))
  (texts : ∀ value, HostPathOf pod value → ∃ path, value = .string path)
include allowedPaths texts

/-- A path of the Pod is accepted when the evaluation is a conflict or a directory starts it. -/
theorem acceptsPath_iff {path : String} (mounted : HostPathOf pod (.string path)) :
    AcceptsPath input path ↔
      (agree (containerLists pod) = true → StartsAllowed directories path) := by
  rw [AcceptsPath, yields_hostPath, settled_violation notExempt,
    settled_privilegedCheck notExempt reviewing isPod,
    yields_hostPathCheck notExempt reviewing isPod, not_and]
  apply forall_congr'
  intro _
  rw [← yields_hostpathAllowed allowedPaths path]
  constructor
  · intro unreported
    by_contra undefined
    exact unreported ⟨_, mounted, undefined, rfl⟩
  · rintro defined ⟨value, isHostPath, undefined, message⟩
    obtain ⟨other, rfl⟩ := texts value isHostPath
    rw [← hostPathMessage_injective message] at undefined
    exact undefined defined

/-- The accepted host paths lie in the allowed directories exactly when those do that start with
one as a text, or all where the evaluation is a conflict. -/
theorem hostPaths_confined_iff :
    (∀ path, HostPathOf pod (.string path) → AcceptsPath input path → Confined directories path) ↔
      ∀ path, HostPathOf pod (.string path) →
        (agree (containerLists pod) = true → StartsAllowed directories path) →
          Confined directories path := by
  refine forall_congr' fun path => forall_congr' fun mounted => ?_
  rw [acceptsPath_iff notExempt reviewing isPod allowedPaths texts mounted]

end Pod

def allowedHostPaths : List String :=
  ["/dev/hugepages", "/dev/infiniband", "/dev/vfio", "/dev/char", "/sys/devices"]

def siblingPod : Json :=
  .object [
    ("kind", .string "Pod"),
    ("spec", .object [
      ("containers", .array [.object [("name", .string "app")]]),
      ("volumes", .array [.object [
        ("name", .string "keys"),
        ("hostPath", .object [("path", .string "/dev/vfio-keys")])]])])]

def siblingInput : Input where
  review := .object [
    ("userInfo", .object [
      ("username", .string "developer"),
      ("groups", .array [.string "system:authenticated"])]),
    ("object", siblingPod)]
  parameters := .object [
    ("excludedUsers", .array [.string "system:masters"]),
    ("excludedUserPrefixes", .array [.string "system:kube-"]),
    ("allowedHostPaths", .array (allowedHostPaths.map .string))]

theorem siblingPod_texts (value : Json) (mounted : HostPathOf siblingPod value) :
    ∃ path, value = .string path := by
  obtain ⟨volumes, found, volume, listed, present⟩ := mounted
  cases found
  rw [Json.each, List.mem_singleton] at listed
  subst listed
  cases present
  exact ⟨_, rfl⟩

theorem siblingPath_accepted :
    isExempt siblingInput = undefined ∧
      siblingInput.review.path ["object"] = some siblingPod ∧
      siblingPod.path ["kind"] = some (.string "Pod") ∧
      (∀ directory ∈ allowedHostPaths, IsAbsolute directory) ∧
      siblingInput.parameters.path ["allowedHostPaths"] =
        some (.array (allowedHostPaths.map .string)) ∧
      ¬ ∀ path, HostPathOf siblingPod (.string path) → AcceptsPath siblingInput path →
        Confined allowedHostPaths path := by
  refine ⟨rfl, rfl, rfl, by decide, rfl, fun confined => ?_⟩
  have mounted : HostPathOf siblingPod (.string "/dev/vfio-keys") :=
    ⟨_, rfl, _, List.mem_cons_self, rfl⟩
  have evaluated : violation siblingInput = .ok [] := rfl
  have accepted : AcceptsPath siblingInput "/dev/vfio-keys" := by
    rw [AcceptsPath, evaluated, yields_ok]
    exact List.not_mem_nil
  have outside : ∀ directory ∈ allowedHostPaths, ¬ Within directory "/dev/vfio-keys" := by decide
  obtain ⟨directory, allowed, within⟩ := confined _ mounted accepted
  exact outside directory allowed within

theorem hostPaths_confined_sibling :
    (∀ path, HostPathOf siblingPod (.string path) → AcceptsPath siblingInput path →
        Confined allowedHostPaths path) ↔
      ∀ path, HostPathOf siblingPod (.string path) →
        (agree (containerLists siblingPod) = true → StartsAllowed allowedHostPaths path) →
          Confined allowedHostPaths path :=
  hostPaths_confined_iff rfl rfl rfl rfl siblingPod_texts

end GemEmulation.Policies.WorkloadLimitations
