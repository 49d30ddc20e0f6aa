import GemEmulation.Foundations.Rego

/-!
# The workload limitations policy

The Rego module `gdcworkloadlimitations` of the Gatekeeper constraint template.
An evaluation error leaves the admission request without any violation.
-/

namespace GemEmulation.Policies

open Foundations Foundations.Query

structure Input where
  review : Json
  parameters : Json

namespace WorkloadLimitations

def isTrue : Json := .bool true

def isExempt (input : Input) : Query Json :=
  complete [
    do
      let user ← ref (input.review.path ["userInfo", "username"])
      let exemptUsers ← ref (input.parameters.path ["excludedUsers"])
      let exemptUser ← elements exemptUsers
      holds (user.same exemptUser)
      pure isTrue,
    do
      let user ← ref (input.review.path ["userInfo", "username"])
      let exemptPrefixes ← ref (input.parameters.path ["excludedUserPrefixes"])
      let exemptPrefix ← elements exemptPrefixes
      startswith user exemptPrefix
      pure isTrue,
    do
      let groups ← ref (input.review.path ["userInfo", "groups"])
      let group ← elements groups
      let exemptGroups ← ref (input.parameters.path ["excludedUsers"])
      let exemptGroup ← elements exemptGroups
      holds (group.same exemptGroup)
      pure isTrue]

/-- The object under review, of the given kind and for a user without exemption. -/
def reviewed (kind : String) (input : Input) : Query Json := do
  fails (isExempt input)
  let object ← ref (input.review.path ["object"])
  let found ← ref (object.path ["kind"])
  holds (found.same (.string kind))
  pure object

def hostpathAllowed (input : Input) (path : Json) : Query Json :=
  complete [do
    let allowedPaths ← ref (input.parameters.path ["allowedHostPaths"])
    let allowed ← elements allowedPaths
    startswith path allowed
    pure isTrue]

def hostPathMessage (hostPath : Json) : String :=
  "HostPath " ++ formatValue hostPath ++ " is not allowed."

def hostPathCheck (input : Input) : Query String := do
  let object ← reviewed "Pod" input
  let volumes ← ref (object.path ["spec", "volumes"])
  let volume ← elements volumes
  let hostPath ← ref (volume.path ["hostPath", "path"])
  fails (hostpathAllowed input hostPath)
  pure (hostPathMessage hostPath)

def hostNetworkCheck (input : Input) : Query String := do
  let object ← reviewed "Pod" input
  let hostNetwork ← ref (object.path ["spec", "hostNetwork"])
  holds (hostNetwork.same (.bool true))
  pure "hostNetwork is not allowed"

def podContainers (pod : Json) : Query Json :=
  complete [
    ref (pod.path ["spec", "containers"]),
    ref (pod.path ["spec", "initContainers"]),
    ref (pod.path ["spec", "ephemeralContainers"])]

def privilegedCheck (input : Input) : Query String := do
  let object ← reviewed "Pod" input
  let containers ← podContainers object
  let container ← elements containers
  let privileged ← ref (container.path ["securityContext", "privileged"])
  holds (privileged.same (.bool true))
  pure "Privileged containers are not allowed"

def priorityCheck (input : Input) : Query String := do
  let object ← reviewed "Pod" input
  let priority ← ref (object.path ["spec", "priority"])
  holds (atLeast 500000000 priority)
  pure ("Pod priority " ++ formatValue priority ++ " must be less than 500000000")

def nodePortCheck (input : Input) : Query String := do
  let object ← reviewed "Service" input
  let type ← ref (object.path ["spec", "type"])
  holds (type.same (.string "NodePort"))
  pure "Service type NodePort is not allowed"

def externalIPsCheck (input : Input) : Query String := do
  let object ← reviewed "Service" input
  let ips ← ref (object.path ["spec", "externalIPs"])
  let number ← count ips
  holds (decide (number > 0))
  pure "Service externalIPs are not allowed"

/-- The partial set `violation`, by its messages. -/
def violation (input : Input) : Query String :=
  union [hostPathCheck input, hostNetworkCheck input, privilegedCheck input,
    priorityCheck input, nodePortCheck input, externalIPsCheck input]

theorem settled_hostpathAllowed (input : Input) (path : Json) :
    Settled (hostpathAllowed input path) := by
  refine @settled_complete _ isTrue ?_ ?_ rfl
  · simp [settled_andThen]
  · simp [yields_andThen]

section Reviewed

variable {input : Input} (notExempt : isExempt input = undefined)
include notExempt

theorem settled_notExempt : Settled (fails (isExempt input)) := by
  rw [notExempt]
  exact ⟨_, rfl⟩

theorem yields_notExempt (done : Unit) : Yields (fails (isExempt input)) done := by
  rw [notExempt]
  exact (yields_ok [()] done).mpr List.mem_cons_self

theorem settled_reviewed (kind : String) : Settled (reviewed kind input) := by
  simp [reviewed, settled_andThen, settled_notExempt notExempt]

theorem yields_reviewed (kind : String) (object : Json) :
    Yields (reviewed kind input) object ↔
      input.review.path ["object"] = some object ∧
        object.path ["kind"] = some (.string kind) := by
  simp only [reviewed, yields_andThen, settled_andThen, settled_notExempt notExempt,
    yields_notExempt notExempt, settled_ref, settled_holds, settled_pure, yields_ref, yields_holds,
    yields_pure, Json.same_string, implies_true, true_and, and_self, exists_const]
  constructor
  · rintro ⟨found, present, kindFound, kindPresent, rfl, rfl⟩
    exact ⟨present, kindPresent⟩
  · rintro ⟨present, kindPresent⟩
    exact ⟨object, present, _, kindPresent, rfl, rfl⟩

/-- Nothing but the containers of a Pod can make the evaluation a conflict. -/
theorem settled_violation : Settled (violation input) ↔ Settled (privilegedCheck input) := by
  have object := settled_reviewed notExempt
  have paths := settled_hostpathAllowed input
  simp [violation, settled_union, hostPathCheck, hostNetworkCheck, priorityCheck, nodePortCheck,
    externalIPsCheck, settled_andThen, object, paths]

theorem yields_privileged :
    Yields (violation input) "Privileged containers are not allowed" ↔
      Yields (privilegedCheck input) "Privileged containers are not allowed" := by
  rw [violation, yields_union]
  constructor
  · rintro ⟨-, check, listed, yields⟩
    simp only [List.mem_cons, List.not_mem_nil, or_false] at listed
    rcases listed with rfl | rfl | rfl | rfl | rfl | rfl
    · simp only [hostPathCheck, yields_andThen, yields_pure] at yields
      obtain ⟨-, object, -, -, volumes, -, -, volume, -, -, hostPath, -, -, done, -, message⟩ :=
        yields
      exact absurd (congrArg String.toList message) (by simp [hostPathMessage])
    · simp [hostNetworkCheck, yields_andThen] at yields
    · exact yields
    · simp only [priorityCheck, yields_andThen, yields_pure] at yields
      obtain ⟨-, object, -, -, priority, -, -, done, -, message⟩ := yields
      exact absurd (congrArg String.toList message) (by simp)
    · simp [nodePortCheck, yields_andThen] at yields
    · simp [externalIPsCheck, yields_andThen] at yields
  · intro yields
    exact ⟨(settled_violation notExempt).mpr yields.settled, _, by simp, yields⟩

end Reviewed

def containerLists (pod : Json) : List Json :=
  [["spec", "containers"], ["spec", "initContainers"], ["spec", "ephemeralContainers"]].filterMap
    fun names => pod.path names

def RunsPrivileged (pod : Json) : Prop :=
  ∃ containers ∈ containerLists pod, ∃ container ∈ containers.each,
    container.path ["securityContext", "privileged"] = some (.bool true)

theorem privileged_respected (container other : Json) (equal : container.same other = true) :
    container.path ["securityContext", "privileged"] = some (.bool true) ↔
      other.path ["securityContext", "privileged"] = some (.bool true) := by
  have values := Json.same_path equal ["securityContext", "privileged"]
  constructor
  · intro privileged
    obtain ⟨value, found, matched⟩ := Json.related_left values privileged
    cases value with
    | bool flag =>
        simp only [Json.same, decide_eq_true_eq] at matched
        rw [found, matched]
    | _ => simp [Json.same] at matched
  · intro privileged
    obtain ⟨value, found, matched⟩ := Json.related_right values privileged
    rw [found, (Json.same_bool value true).mp matched]

theorem podContainers_eq (pod : Json) :
    podContainers pod =
      if agree (containerLists pod) then .ok ((containerLists pod).take 1)
      else .error .conflict := by
  apply complete_of_union
  simp only [containerLists, union, ref, undefined, List.filterMap_cons]
  cases pod.path ["spec", "containers"] <;> cases pod.path ["spec", "initContainers"] <;>
    cases pod.path ["spec", "ephemeralContainers"] <;> rfl

/-- When the lists agree, the first has a privileged container if any has. -/
theorem runsPrivileged_iff {pod : Json} (agreeing : agree (containerLists pod) = true) :
    RunsPrivileged pod ↔
      ∃ containers ∈ (containerLists pod).take 1, ∃ container ∈ containers.each,
        container.path ["securityContext", "privileged"] = some (.bool true) := by
  rw [RunsPrivileged]
  cases lists : containerLists pod with
  | nil => simp
  | cons first rest =>
      rw [lists, agree, List.all_eq_true] at agreeing
      simp only [List.take_succ_cons, List.take_zero, List.mem_singleton, exists_eq_left]
      constructor
      · rintro ⟨containers, listed, privileged⟩
        rcases List.mem_cons.mp listed with rfl | later
        · exact privileged
        · exact (Json.same_each (agreeing containers later) privileged_respected).mpr privileged
      · exact fun privileged => ⟨first, List.mem_cons_self, privileged⟩

section Pod

variable {input : Input} {pod : Json} (notExempt : isExempt input = undefined)
  (reviewing : input.review.path ["object"] = some pod)
  (isPod : pod.path ["kind"] = some (.string "Pod"))
include notExempt reviewing isPod

theorem yields_pod (object : Json) : Yields (reviewed "Pod" input) object ↔ object = pod := by
  rw [yields_reviewed notExempt, reviewing]
  constructor
  · rintro ⟨equality, -⟩
    cases equality
    rfl
  · rintro rfl
    exact ⟨rfl, isPod⟩

theorem settled_privilegedCheck :
    Settled (privilegedCheck input) ↔ agree (containerLists pod) = true := by
  simp only [privilegedCheck, settled_andThen, settled_reviewed notExempt,
    yields_pod notExempt reviewing isPod, forall_eq, podContainers_eq, settled_elements,
    settled_ref, settled_holds, settled_pure, implies_true, and_true, true_and]
  by_cases agreeing : agree (containerLists pod) = true
  · simp [agreeing]
  · simp [agreeing]

theorem yields_privilegedCheck :
    Yields (privilegedCheck input) "Privileged containers are not allowed" ↔
      agree (containerLists pod) = true ∧ RunsPrivileged pod := by
  by_cases agreeing : agree (containerLists pod) = true
  · have settled := (settled_privilegedCheck notExempt reviewing isPod).mpr agreeing
    have lists : podContainers pod = .ok ((containerLists pod).take 1) := by
      rw [podContainers_eq, if_pos agreeing]
    rw [runsPrivileged_iff agreeing, privilegedCheck, yields_andThen, ← privilegedCheck]
    simp only [settled, agreeing, true_and, yields_pod notExempt reviewing isPod,
      exists_eq_left, yields_andThen, settled_andThen, lists, yields_ok, settled_ok,
      yields_elements, settled_elements, yields_ref, settled_ref, yields_holds,
      settled_holds, settled_pure, yields_pure, Json.same_bool, implies_true, and_true,
      exists_const]
    constructor
    · rintro ⟨containers, listed, container, member, value, found, rfl⟩
      exact ⟨containers, listed, container, member, found⟩
    · rintro ⟨containers, listed, container, member, found⟩
      exact ⟨containers, listed, container, member, _, found, rfl⟩
  · have unsettled := mt (settled_privilegedCheck notExempt reviewing isPod).mp agreeing
    exact ⟨fun yields => absurd yields.settled unsettled, fun both => absurd both.1 agreeing⟩

/-- The check is exact when the lists agree or no container is privileged, and
only then. -/
theorem privileged_rejected_iff :
    (Yields (violation input) "Privileged containers are not allowed" ↔ RunsPrivileged pod) ↔
      agree (containerLists pod) = true ∨ ¬ RunsPrivileged pod := by
  rw [yields_privileged notExempt, yields_privilegedCheck notExempt reviewing isPod]
  tauto

end Pod

def initContainerPod : Json :=
  .object [
    ("kind", .string "Pod"),
    ("spec", .object [
      ("containers", .array [.object [("name", .string "app")]]),
      ("initContainers", .array [.object [
        ("name", .string "setup"),
        ("securityContext", .object [("privileged", .bool true)])]])])]

/-- A user creates the Pod under a constraint with an exempt group and prefix. -/
def initContainerInput : Input where
  review := .object [
    ("userInfo", .object [
      ("username", .string "developer"),
      ("groups", .array [.string "system:authenticated"])]),
    ("object", initContainerPod)]
  parameters := .object [
    ("excludedUsers", .array [.string "system:masters"]),
    ("excludedUserPrefixes", .array [.string "system:kube-"]),
    ("allowedHostPaths", .array [.string "/dev/hugepages"])]

theorem initContainer_accepted :
    isExempt initContainerInput = undefined ∧
      initContainerInput.review.path ["object"] = some initContainerPod ∧
      initContainerPod.path ["kind"] = some (.string "Pod") ∧
      RunsPrivileged initContainerPod ∧
      ¬ Yields (violation initContainerInput) "Privileged containers are not allowed" := by
  refine ⟨rfl, rfl, rfl, ?_, ?_⟩
  · exact ⟨_, List.mem_cons_of_mem _ List.mem_cons_self, _, List.mem_cons_self, rfl⟩
  · have ended : violation initContainerInput = .error .conflict := rfl
    rw [ended]
    exact yields_error _ _

theorem privileged_rejected_single :
    (Yields (violation initContainerInput) "Privileged containers are not allowed" ↔
        RunsPrivileged initContainerPod) ↔
      agree (containerLists initContainerPod) = true ∨ ¬ RunsPrivileged initContainerPod :=
  privileged_rejected_iff rfl rfl rfl

end WorkloadLimitations

end GemEmulation.Policies
