import GemEmulation.Api.Networks

/-!
# Endpoints that answer whatever kubectl prints

Which outputs of `kubectl` make an endpoint raise: an access to something that
is no dictionary, or a number that is too large, before an exception that the
endpoint catches.
-/

namespace GemEmulation.Api.K8s

open Foundations Python

def labelsOf (item : Datum) : Datum := (metadataOf item).field "labels" emptyDict

def statusOf (item : Datum) : Datum := item.field "status" emptyDict

def conditionsOf (item : Datum) : Datum := (statusOf item).field "conditions" emptyList

def addressesOf (item : Datum) : Datum := (statusOf item).field "addresses" emptyList

def saysReady (cond : Datum) : Bool :=
  (cond.field "type" .none).isText "Ready" && (cond.field "status" .none).isText "True"

def saysInternal (addr : Datum) : Bool := (addr.field "type" .none).isText "InternalIP"

def SearchBreaks (ends : Datum → Bool) (elements : List Datum) : Prop :=
  ∃ front item back, elements = front ++ item :: back ∧
    (∀ before ∈ front, before.IsDict ∧ ends before = false) ∧ ¬ item.IsDict

def internalIPOf (item : Datum) : Datum :=
  foundIP ((addressesOf item).elements.find? saysInternal)
where
  /-- The address of an internal address. -/
  foundIP : Option Datum → Datum
    | some addr => addr.field "address" emptyText
    | none => emptyText

def NodeBreaks (item : Datum) : Prop :=
  ¬ item.IsDict ∨ ¬ (metadataOf item).IsDict ∨
    ((labelsOf item).IsIterable ∧ (¬ (statusOf item).IsDict ∨
      ((conditionsOf item).IsIterable ∧
        (SearchBreaks saysReady (conditionsOf item).elements ∨
          ((addressesOf item).IsIterable ∧
            SearchBreaks saysInternal (addressesOf item).elements)))))

structure NodeFits (item : Datum) : Prop where
  isDict : item.IsDict
  metadata : (metadataOf item).IsDict
  labels : (labelsOf item).IsIterable
  status : (statusOf item).IsDict
  conditions : (conditionsOf item).IsIterable ∧
    ¬ SearchBreaks saysReady (conditionsOf item).elements
  addresses : (addressesOf item).IsIterable ∧
    ¬ SearchBreaks saysInternal (addressesOf item).elements
  name : IsText (nameOf item)
  ip : IsText ((internalIPOf item).orElse (.str "10.200.54.2"))

section Search

variable {ends : Datum → Bool}

theorem not_searchBreaks_nil : ¬ SearchBreaks ends [] := by
  rintro ⟨front, item, back, split, -⟩
  simp at split

theorem searchBreaks_cons (head : Datum) (rest : List Datum) :
    SearchBreaks ends (head :: rest) ↔
      ¬ head.IsDict ∨ (ends head = false ∧ SearchBreaks ends rest) := by
  constructor
  · rintro ⟨front, item, back, split, before, notDict⟩
    cases front with
    | nil =>
        cases split
        exact .inl notDict
    | cons first front =>
        cases split
        rw [List.forall_mem_cons] at before
        exact .inr ⟨before.1.2, front, item, back, rfl, before.2, notDict⟩
  · intro breaks
    by_cases isDict : head.IsDict
    · obtain ⟨passed, front, item, back, rfl, before, notDict⟩ :=
        breaks.resolve_left (not_not_intro isDict)
      refine ⟨head :: front, item, back, rfl, ?_, notDict⟩
      rw [List.forall_mem_cons]
      exact ⟨⟨isDict, passed⟩, before⟩
    · exact ⟨[], head, rest, rfl, by simp, isDict⟩

theorem isDict_of_find? {elements : List Datum} {found : Datum}
    (unbroken : ¬ SearchBreaks ends elements) (isFound : elements.find? ends = some found) :
    found.IsDict := by
  induction elements with
  | nil => cases isFound
  | cons head rest inductionHypothesis =>
      rw [searchBreaks_cons, not_or, not_not] at unbroken
      cases ended : ends head with
      | true =>
          rw [List.find?_cons_of_pos ended] at isFound
          cases isFound
          exact unbroken.1
      | false =>
          rw [List.find?_cons_of_neg (by simp [ended])] at isFound
          exact inductionHypothesis (fun breaks => unbroken.2 ⟨ended, breaks⟩) isFound

structure TestsDicts (test : Datum → Except Exception Bool) (ends : Datum → Bool) : Prop where
  isOk : ∀ datum, datum.IsDict → test datum = .ok (ends datum)
  raises : ∀ datum, ¬ datum.IsDict → test datum = .error .attributeError

variable {test : Datum → Except Exception Bool} (tests : TestsDicts test ends)

include tests

theorem search_cases (elements : List Datum) :
    (SearchBreaks ends elements ∧ search test elements = .error .attributeError) ∨
      (¬ SearchBreaks ends elements ∧ search test elements = .ok (elements.find? ends)) := by
  induction elements with
  | nil => exact .inr ⟨not_searchBreaks_nil, rfl⟩
  | cons head rest inductionHypothesis =>
      rw [searchBreaks_cons]
      by_cases isDict : head.IsDict
      · rw [search, tests.isOk head isDict]
        cases ended : ends head with
        | true =>
            rw [List.find?_cons_of_pos ended]
            exact .inr ⟨by simp [isDict], rfl⟩
        | false =>
            rw [List.find?_cons_of_neg (by simp [ended])]
            simp only [isDict, not_true, false_or, true_and]
            exact inductionHypothesis
      · refine .inl ⟨.inl isDict, ?_⟩
        rw [search, tests.raises head isDict]
        rfl

variable {Result : Type} {elements : List Datum} {next : Option Datum → Except Exception Result}

theorem escapes_search_bind : Escapes caught (search test elements >>= next) ↔
    SearchBreaks ends elements ∨ Escapes caught (next (elements.find? ends)) := by
  rcases search_cases tests elements with ⟨breaks, raises⟩ | ⟨unbroken, isOk⟩
  · rw [raises]
    exact iff_of_true ⟨_, rfl, rfl⟩ (.inl breaks)
  · rw [isOk]
    exact (or_iff_right unbroken).symm

theorem returns_search_bind : Returns (search test elements >>= next) ↔
    ¬ SearchBreaks ends elements ∧ Returns (next (elements.find? ends)) := by
  rcases search_cases tests elements with ⟨breaks, raises⟩ | ⟨unbroken, isOk⟩
  · rw [raises]
    exact iff_of_false (not_returns_error _) fun both => both.1 breaks
  · rw [isOk]
    exact (and_iff_right unbroken).symm

end Search

theorem isReady_tests : TestsDicts isReady saysReady where
  isOk cond isDict := by
    simp only [isReady, Datum.get_of_isDict isDict, pure_bind, saysReady]
    split
    next ready =>
      rw [ready]
      rfl
    next other =>
      rw [Bool.not_eq_true] at other
      rw [other]
      rfl
  raises cond other := by
    rw [isReady, Datum.get_of_not_isDict other]
    rfl

theorem isInternal_tests : TestsDicts isInternal saysInternal where
  isOk addr isDict := by
    simp only [isInternal, Datum.get_of_isDict isDict, pure_bind, saysInternal]
    rfl
  raises addr other := by
    rw [isInternal, Datum.get_of_not_isDict other]
    rfl

section Nodes

variable {Result : Type}

def roleOf (labels : Datum) : String :=
  if labels.holds "node-role.kubernetes.io/master" ||
      labels.holds "node-role.kubernetes.io/control-plane" then "Control Plane"
  else "Worker"

theorem nodeRole_of_isIterable {labels : Datum} (isIterable : labels.IsIterable) :
    nodeRole labels = pure (roleOf labels) := by
  simp only [nodeRole, Datum.contains_of_isIterable isIterable, pure_bind, roleOf]
  cases labels.holds "node-role.kubernetes.io/master" <;> rfl

theorem nodeRole_of_not_isIterable {labels : Datum} (other : ¬ labels.IsIterable) :
    nodeRole labels = .error .typeError := by
  rw [nodeRole, Datum.contains_of_not_isIterable other]
  rfl

theorem escapes_nodeRole_bind {labels : Datum} {next : String → Except Exception Result} :
    Escapes caught (nodeRole labels >>= next) ↔
      labels.IsIterable ∧ Escapes caught (next (roleOf labels)) := by
  by_cases isIterable : labels.IsIterable
  · rw [nodeRole_of_isIterable isIterable]
    exact (and_iff_right isIterable).symm
  · rw [nodeRole_of_not_isIterable isIterable]
    refine iff_of_false ?_ fun both => isIterable both.1
    rintro ⟨raised, isError, uncaught⟩
    cases isError
    cases uncaught

theorem returns_nodeRole_bind {labels : Datum} {next : String → Except Exception Result} :
    Returns (nodeRole labels >>= next) ↔ labels.IsIterable ∧ Returns (next (roleOf labels)) := by
  by_cases isIterable : labels.IsIterable
  · rw [nodeRole_of_isIterable isIterable]
    exact (and_iff_right isIterable).symm
  · rw [nodeRole_of_not_isIterable isIterable]
    exact iff_of_false (not_returns_error _) fun both => isIterable both.1

theorem nodeIP_cases (elements : List Datum) :
    (SearchBreaks saysInternal elements ∧ nodeIP elements = .error .attributeError) ∨
      (¬ SearchBreaks saysInternal elements ∧
        nodeIP elements = .ok (internalIPOf.foundIP (elements.find? saysInternal))) := by
  rcases search_cases isInternal_tests elements with ⟨breaks, raises⟩ | ⟨unbroken, isOk⟩
  · refine .inl ⟨breaks, ?_⟩
    rw [nodeIP, raises]
    rfl
  · refine .inr ⟨unbroken, ?_⟩
    rw [nodeIP, isOk]
    cases found : elements.find? saysInternal with
    | none => rfl
    | some addr => exact Datum.get_of_isDict (isDict_of_find? unbroken found)

theorem escapes_nodeIP_bind {elements : List Datum} {next : Datum → Except Exception Result} :
    Escapes caught (nodeIP elements >>= next) ↔ SearchBreaks saysInternal elements ∨
      Escapes caught (next (internalIPOf.foundIP (elements.find? saysInternal))) := by
  rcases nodeIP_cases elements with ⟨breaks, raises⟩ | ⟨unbroken, isOk⟩
  · rw [raises]
    exact iff_of_true ⟨_, rfl, rfl⟩ (.inl breaks)
  · rw [isOk]
    exact (or_iff_right unbroken).symm

theorem returns_nodeIP_bind {elements : List Datum} {next : Datum → Except Exception Result} :
    Returns (nodeIP elements >>= next) ↔ ¬ SearchBreaks saysInternal elements ∧
      Returns (next (internalIPOf.foundIP (elements.find? saysInternal))) := by
  rcases nodeIP_cases elements with ⟨breaks, raises⟩ | ⟨unbroken, isOk⟩
  · rw [raises]
    exact iff_of_false (not_returns_error _) fun both => both.1 breaks
  · rw [isOk]
    exact (and_iff_right unbroken).symm

theorem escapes_nodeStatusItem (item : Datum) :
    Escapes caught (nodeStatusItem item) ↔ NodeBreaks item := by
  simp only [nodeStatusItem, escapes_get_bind, escapes_nodeRole_bind, escapes_iterate_bind,
    escapes_search_bind isReady_tests, escapes_nodeIP_bind, escapes_validText_bind,
    not_escapes_pure, and_false, exists_false, or_false]
  rw [NodeBreaks, labelsOf, conditionsOf, addressesOf, metadataOf, statusOf]
  tauto

theorem returns_nodeStatusItem (item : Datum) : Returns (nodeStatusItem item) ↔ NodeFits item := by
  simp only [nodeStatusItem, Datum.returns_get_bind, returns_nodeRole_bind,
    Datum.returns_iterate_bind, returns_search_bind isReady_tests, returns_nodeIP_bind,
    returns_validText_bind, returns_pure, and_true]
  constructor
  · rintro ⟨isDict, -, metadata, -, labels, status, conditions, searched, -, addresses, found,
      text, name, ip⟩
    exact ⟨isDict, metadata, labels, status, ⟨conditions, searched⟩, ⟨addresses, found⟩,
      ⟨text, name⟩, ip⟩
  · rintro ⟨isDict, metadata, labels, status, ⟨conditions, searched⟩, ⟨addresses, found⟩,
      ⟨text, name⟩, ip⟩
    exact ⟨isDict, isDict, metadata, metadata, labels, status, conditions, searched, status,
      addresses, found, text, name, ip⟩

end Nodes

def specField (item : Datum) : Datum := item.field "spec" emptyDict

def namespaceOf (default : String) (item : Datum) : Datum :=
  (metadataOf item).field "namespace" (.str default)

def interfacesOf (item : Datum) : Datum :=
  ((statusOf item).field "interfaces" .none).orElse emptyList

def firstInterface (interfaces : Datum) : Except Exception Datum :=
  if interfaces.truth = true then interfaces.first else pure emptyDict

def VirtualMachineBreaks (item : Datum) : Prop :=
  ¬ item.IsDict ∨ ¬ (specField item).IsDict ∨ ¬ (statusOf item).IsDict ∨
    (Returns (firstInterface (interfacesOf item)) ∧ ¬ (metadataOf item).IsDict)

structure VirtualMachineFits (item : Datum) : Prop where
  isDict : item.IsDict
  spec : (specField item).IsDict
  status : (statusOf item).IsDict
  interfaces : ∃ interface, firstInterface (interfacesOf item) = .ok interface ∧
    IsOptionalText (interface.field "ipAddress" .none)
  metadata : (metadataOf item).IsDict
  name : IsText (nameOf item)
  ns : IsText (namespaceOf "default" item)

theorem not_escapes_firstInterface (interfaces : Datum) :
    ¬ Escapes caught (firstInterface interfaces) := by
  rw [firstInterface]
  split
  next =>
    cases interfaces with
    | list items => cases items <;> simp [Datum.first, caught]
    | str value =>
        simp only [Datum.first]
        cases value.toList <;> simp [caught]
    | _ => simp [Datum.first, caught]
  next => exact not_escapes_pure _

theorem interfaceIP_eq (interfaces : Datum) :
    interfaceIP interfaces =
      firstInterface interfaces >>= fun interface => pure (interface.field "ipAddress" .none) := by
  rw [interfaceIP, firstInterface]
  split
  next =>
    apply bind_congr
    intro interface
    cases interface <;> rfl
  next =>
    rw [pure_bind]
    rfl

theorem escapes_firstInterface_bind {Result : Type} {interfaces : Datum}
    {next : Datum → Except Exception Result} :
    Escapes caught (firstInterface interfaces >>= next) ↔
      ∃ interface, firstInterface interfaces = .ok interface ∧ Escapes caught (next interface) :=
  escapes_bind.trans (or_iff_right (not_escapes_firstInterface interfaces))

theorem escapes_virtualMachineItem (item : Datum) :
    Escapes caught (virtualMachineItem item) ↔ VirtualMachineBreaks item := by
  simp only [virtualMachineItem, escapes_get_bind, interfaceIP_eq, bind_assoc, pure_bind,
    escapes_firstInterface_bind, escapes_validText_bind, escapes_validOptionalText_bind,
    not_escapes_pure, and_false, exists_false, or_false, or_self, exists_and_right]
  rw [VirtualMachineBreaks, Returns, interfacesOf, statusOf, specField, metadataOf]
  tauto

theorem returns_virtualMachineItem (item : Datum) :
    Returns (virtualMachineItem item) ↔ VirtualMachineFits item := by
  simp only [virtualMachineItem, Datum.returns_get_bind, interfaceIP_eq, bind_assoc, pure_bind]
  rw [returns_bind]
  simp only [Datum.returns_get_bind, returns_validText_bind, returns_validOptionalText_bind,
    returns_pure, and_true]
  constructor
  · rintro ⟨isDict, -, -, spec, status, interface, isOk, metadata, -, name, isName, ns, isNs, ip⟩
    exact ⟨isDict, spec, status, ⟨interface, isOk, ip⟩, metadata, ⟨name, isName⟩, ⟨ns, isNs⟩⟩
  · rintro ⟨isDict, spec, status, ⟨interface, isOk, ip⟩, metadata, ⟨name, isName⟩, ⟨ns, isNs⟩⟩
    exact ⟨isDict, isDict, isDict, spec, status, interface, isOk, metadata, metadata, name, isName,
      ns, isNs, ip⟩

def gitOf (item : Datum) : Datum := (specField item).field "git" emptyDict

def syncOf (item : Datum) : Datum := (statusOf item).field "sync" emptyDict

def RootSyncBreaks (item : Datum) : Prop :=
  ¬ item.IsDict ∨ ¬ (specField item).IsDict ∨ ¬ (metadataOf item).IsDict ∨ ¬ (gitOf item).IsDict ∨
    ¬ (statusOf item).IsDict ∨ ¬ (syncOf item).IsDict

structure RootSyncFits (item : Datum) : Prop where
  isDict : item.IsDict
  spec : (specField item).IsDict
  metadata : (metadataOf item).IsDict
  git : (gitOf item).IsDict
  status : (statusOf item).IsDict
  sync : (syncOf item).IsDict
  name : IsText (nameOf item)
  ns : IsText (namespaceOf "config-management-system" item)
  repo : IsText ((gitOf item).field "repo" emptyText)
  branch : IsText ((gitOf item).field "branch" (.str "main"))
  dir : IsText ((gitOf item).field "dir" (.str "/"))
  auth : IsText ((gitOf item).field "auth" (.str "none"))
  period : IsText ((gitOf item).field "period" (.str "15s"))
  syncStatus : IsText ((syncOf item).field "status" (.str "SYNCED"))
  commit : IsText ((syncOf item).field "commit" emptyText)
  lastSynced : IsText ((syncOf item).field "lastUpdate" emptyText)

section RootSyncs

variable {Result : Type}

theorem escapes_slice_bind {datum : Datum} {count : Nat} {next : Datum → Except Exception Result} :
    Escapes caught (datum.slice count >>= next) ↔
      ∃ part, datum.slice count = .ok part ∧ Escapes caught (next part) := by
  refine escapes_bind.trans (or_iff_right ?_)
  cases datum <;> simp [Datum.slice, caught]

theorem slice_isText {datum : Datum} {count : Nat} :
    (∃ part, datum.slice count = .ok part ∧ IsText part) ↔ IsText datum := by
  cases datum <;> simp [Datum.slice, IsText]

theorem escapes_rootSyncItem (item : Datum) :
    Escapes caught (rootSyncItem item) ↔ RootSyncBreaks item := by
  simp only [rootSyncItem, escapes_get_bind, escapes_slice_bind, escapes_validText_bind,
    not_escapes_pure, and_false, exists_false, or_false, exists_and_right]
  rw [RootSyncBreaks, gitOf, syncOf, statusOf, specField, metadataOf]
  tauto

theorem returns_rootSyncItem (item : Datum) : Returns (rootSyncItem item) ↔ RootSyncFits item := by
  simp only [rootSyncItem, Datum.returns_get_bind]
  rw [returns_bind]
  simp only [Datum.returns_get_bind, returns_validText_bind, returns_pure, and_true,
    exists_and_right]
  constructor
  · rintro ⟨isDict, -, spec, -, metadata, -, git, -, -, -, -, status, sync, -, part, sliced,
      -, name,
      ns, repo, branch, dir, auth, period, syncStatus, commit, lastSynced⟩
    exact {
      isDict, spec, metadata, git, status, sync, name, ns, repo, branch, dir, auth, period,
      syncStatus, lastSynced
      commit := slice_isText.mp ⟨part, sliced, commit⟩ }
  · intro fits
    obtain ⟨part, sliced, commit⟩ := slice_isText.mpr fits.commit
    exact ⟨fits.isDict, fits.isDict, fits.spec, fits.isDict, fits.metadata, fits.metadata, fits.git,
      fits.git, fits.git, fits.git, fits.git, fits.status, fits.sync, fits.sync, part, sliced,
      fits.sync, fits.name, fits.ns, fits.repo, fits.branch, fits.dir, fits.auth, fits.period,
      fits.syncStatus, commit, fits.lastSynced⟩

end RootSyncs

def containerStatusesOf (item : Datum) : Datum :=
  (statusOf item).field "containerStatuses" emptyList

def stateOf (container : Datum) : Datum := container.field "state" emptyDict

def restartCountsOf (item : Datum) : List Datum :=
  (containerStatusesOf item).elements.map fun container => container.field "restartCount" (.int 0)

structure ContainerFits (container : Datum) : Prop where
  isDict : container.IsDict
  state : (stateOf container).IsIterable
  name : IsText (container.field "name" emptyText)
  image : IsText (container.field "image" emptyText)
  ready : Returns (validBool (container.field "ready" (.bool false)))

/-- A container that is no dictionary comes after containers that are converted. -/
def ContainersBreak (containers : List Datum) : Prop :=
  ∃ front container back, containers = front ++ container :: back ∧
    (∀ before ∈ front, ContainerFits before) ∧ ¬ container.IsDict

section Pods

variable (builtins : Builtins)

def PodBreaks (item : Datum) : Prop :=
  ¬ item.IsDict ∨ ¬ (statusOf item).IsDict ∨
    ((containerStatusesOf item).IsIterable ∧ (ContainersBreak (containerStatusesOf item).elements ∨
      ((∀ container ∈ (containerStatusesOf item).elements, ContainerFits container) ∧
        (¬ (metadataOf item).IsDict ∨ Escapes caught (builtins.sum (restartCountsOf item)) ∨
          (Returns (builtins.sum (restartCountsOf item)) ∧ ¬ (specField item).IsDict)))))

structure PodFits (item : Datum) : Prop where
  isDict : item.IsDict
  status : (statusOf item).IsDict
  isIterable : (containerStatusesOf item).IsIterable
  containers : ∀ container ∈ (containerStatusesOf item).elements, ContainerFits container
  metadata : (metadataOf item).IsDict
  spec : (specField item).IsDict
  restarts : ∃ total, builtins.sum (restartCountsOf item) = .ok total ∧ Returns (validInt total)
  name : IsText (nameOf item)
  ns : IsText (namespaceOf "default" item)
  phase : IsText ((statusOf item).field "phase" (.str "Running"))
  ip : IsOptionalText ((statusOf item).field "podIP" (.str "10.0.1.1"))
  nodeName : IsOptionalText ((specField item).field "nodeName" emptyText)

variable {builtins} {Result : Type}

theorem containerState_cases (state : Datum) :
    (state.IsIterable ∧ Returns (containerState state)) ∨
      (¬ state.IsIterable ∧ containerState state = .error .typeError) := by
  by_cases isIterable : state.IsIterable
  · refine .inl ⟨isIterable, ?_⟩
    simp only [containerState, Datum.contains_of_isIterable isIterable, pure_bind]
    split
    next => exact returns_pure _
    next => split <;> exact returns_pure _
  · refine .inr ⟨isIterable, ?_⟩
    rw [containerState, Datum.contains_of_not_isIterable isIterable]
    rfl

theorem not_escapes_containerState (state : Datum) : ¬ Escapes caught (containerState state) := by
  rcases containerState_cases state with ⟨-, result, isOk⟩ | ⟨-, raises⟩
  · rw [isOk]
    exact not_escapes_ok _
  · rw [raises, escapes_error]
    decide

theorem returns_containerState (state : Datum) :
    Returns (containerState state) ↔ state.IsIterable := by
  rcases containerState_cases state with ⟨isIterable, returns⟩ | ⟨other, raises⟩
  · exact iff_of_true returns isIterable
  · rw [raises]
    exact iff_of_false (not_returns_error _) other

theorem not_escapes_validBool (datum : Datum) : ¬ Escapes caught (validBool datum) := by
  rw [validBool.eq_def]
  split
  case h_6 => split <;> [skip; split] <;> simp [caught]
  all_goals simp [caught]

theorem not_escapes_validInt (datum : Datum) : ¬ Escapes caught (validInt datum) := by
  rw [validInt.eq_def]
  split
  case h_3 => split <;> simp [caught]
  all_goals simp [caught]

theorem not_escapes_validText (datum : Datum) : ¬ Escapes caught (validText datum) := by
  cases datum <;> simp [validText, caught]

theorem escapes_containerStatusItem (container : Datum) :
    Escapes caught (containerStatusItem container) ↔ ¬ container.IsDict := by
  by_cases isDict : container.IsDict
  · refine iff_of_false ?_ (not_not_intro isDict)
    simp [containerStatusItem, Datum.get_of_isDict isDict, escapes_bind,
      not_escapes_containerState, not_escapes_validBool, not_escapes_validText, -bind_pure_comp]
  · rw [containerStatusItem, Datum.get_of_not_isDict isDict]
    exact iff_of_true ⟨_, rfl, rfl⟩ isDict

theorem returns_containerStatusItem (container : Datum) :
    Returns (containerStatusItem container) ↔ ContainerFits container := by
  simp only [containerStatusItem, Datum.returns_get_bind]
  rw [returns_bind]
  simp only [Datum.returns_get_bind, returns_validText_bind, returns_bind_pure, exists_and_right]
  constructor
  · rintro ⟨isDict, state, -, -, -, name, image, ready⟩
    exact ⟨isDict, (returns_containerState _).mp state, name, image, ready⟩
  · rintro ⟨isDict, state, name, image, ready⟩
    exact ⟨isDict, (returns_containerState _).mpr state, isDict, isDict, isDict, name, image, ready⟩

theorem mapM_get {data : List Datum} {name : String} {default : Datum}
    (areDicts : ∀ datum ∈ data, datum.IsDict) :
    (data.mapM fun datum => datum.get name default) =
      pure (data.map fun datum => datum.field name default) := by
  induction data with
  | nil => rfl
  | cons head rest inductionHypothesis =>
      rw [List.forall_mem_cons] at areDicts
      rw [List.mapM_cons, inductionHypothesis areDicts.2, Datum.get_of_isDict areDicts.1]
      rfl

theorem escapes_sum_bind {data : List Datum} {next : Datum → Except Exception Result} :
    Escapes caught (builtins.sum data >>= next) ↔ Escapes caught (builtins.sum data) ∨
      ∃ total, builtins.sum data = .ok total ∧ Escapes caught (next total) :=
  escapes_bind

theorem escapes_validInt_bind {datum : Datum} {next : Int → Except Exception Result} :
    Escapes caught (validInt datum >>= next) ↔
      ∃ value, validInt datum = .ok value ∧ Escapes caught (next value) :=
  escapes_bind.trans (or_iff_right (not_escapes_validInt datum))

theorem returns_validInt_bind {datum : Datum} {next : Int → Except Exception Result} :
    Returns (validInt datum >>= next) ↔ ∃ value, validInt datum = .ok value ∧
      Returns (next value) :=
  returns_bind

theorem containers_converted {containers : List Datum}
    (fits : ∀ container ∈ containers, ContainerFits container) :
    ∃ converted, containers.mapM containerStatusItem = pure converted :=
  returns_mapM.mpr fun container member =>
    (returns_containerStatusItem container).mpr (fits container member)

theorem not_containersBreak {containers : List Datum}
    (fits : ∀ container ∈ containers, ContainerFits container) : ¬ ContainersBreak containers := by
  rintro ⟨front, container, back, rfl, -, other⟩
  exact other (fits container (List.mem_append_cons_self)).isDict

theorem escapes_containers {containers : List Datum} :
    Escapes caught (containers.mapM containerStatusItem) ↔ ContainersBreak containers := by
  simp only [escapes_mapM, escapes_containerStatusItem, returns_containerStatusItem,
    ContainersBreak]

theorem returns_containers {containers : List Datum} :
    Returns (containers.mapM containerStatusItem) ↔
      ∀ container ∈ containers, ContainerFits container := by
  simp only [returns_mapM, returns_containerStatusItem]

theorem escapes_podItem (item : Datum) :
    Escapes caught (podItem builtins item) ↔ PodBreaks builtins item := by
  by_cases fits : ∀ container ∈ (containerStatusesOf item).elements, ContainerFits container
  · obtain ⟨converted, isOk⟩ := containers_converted fits
    have areDicts := fun container member => (fits container member).isDict
    have unbroken := not_containersBreak fits
    simp only [containerStatusesOf, statusOf] at isOk areDicts
    simp only [podItem, escapes_get_bind, escapes_iterate_bind, isOk, mapM_get areDicts, pure_bind,
      escapes_sum_bind, escapes_validText_bind, escapes_validOptionalText_bind,
      escapes_validInt_bind, not_escapes_pure, and_false, exists_false, or_false, or_self,
      exists_and_right]
    rw [PodBreaks, or_iff_right unbroken, and_iff_right fits, restartCountsOf, Returns,
      containerStatusesOf, metadataOf, statusOf, specField]
    tauto
  · simp only [podItem, escapes_get_bind, escapes_iterate_bind]
    rw [escapes_bind, escapes_containers, or_self_left]
    refine or_congr_right (or_congr_right (and_congr_right fun _ => or_congr_right ?_))
    refine iff_of_false ?_ fun both => fits both.1
    rintro ⟨converted, isOk, -⟩
    exact fits (returns_containers.mp ⟨converted, isOk⟩)

theorem returns_podItem (item : Datum) :
    Returns (podItem builtins item) ↔ PodFits builtins item := by
  by_cases fits : ∀ container ∈ (containerStatusesOf item).elements, ContainerFits container
  · obtain ⟨converted, isOk⟩ := containers_converted fits
    have areDicts := fun container member => (fits container member).isDict
    simp only [containerStatusesOf, statusOf] at isOk areDicts
    simp only [podItem, Datum.returns_get_bind, Datum.returns_iterate_bind, isOk, mapM_get areDicts,
      pure_bind]
    rw [returns_bind]
    simp only [Datum.returns_get_bind, returns_validText_bind, returns_validInt_bind,
      returns_validOptionalText_bind, returns_pure, and_true, exists_and_right, ← or_and_right]
    constructor
    · rintro ⟨isDict, -, status, isIterable, metadata, -, -, total, isTotal, -, -, spec, name, ns,
        phase, restarts, ip, nodeName⟩
      exact ⟨isDict, status, isIterable, fits, metadata, spec, ⟨total, isTotal, restarts⟩, name, ns,
        phase, ip, nodeName⟩
    · intro podFits
      obtain ⟨total, isTotal, restarts⟩ := podFits.restarts
      exact ⟨podFits.isDict, podFits.isDict, podFits.status, podFits.isIterable, podFits.metadata,
        podFits.metadata, podFits.status, total, isTotal, podFits.status, podFits.isDict,
        podFits.spec, podFits.name, podFits.ns, podFits.phase, restarts, podFits.ip,
        podFits.nodeName⟩
  · refine iff_of_false (fun returns => ?_) fun podFits => fits podFits.containers
    simp only [podItem, Datum.returns_get_bind, Datum.returns_iterate_bind] at returns
    obtain ⟨-, -, -, -, rest⟩ := returns
    obtain ⟨converted, isOk, -⟩ := returns_bind.mp rest
    exact fits (returns_containers.mp ⟨converted, isOk⟩)

end Pods

def ItemsBreak (fits breaks : Datum → Prop) (data : Datum) : Prop :=
  ¬ data.IsDict ∨ ((data.field "items" emptyList).IsIterable ∧
    ∃ front item back, (data.field "items" emptyList).elements = front ++ item :: back ∧
      (∀ before ∈ front, fits before) ∧ breaks item)

/-- The endpoints that read the objects of a cluster, with their own arguments. -/
inductive Endpoint where
  | clusterStatus (clusterName : String)
  | secondaryNetworks (configured : List Datum)
  | vms
  | rootSyncs
  | pods

section Responses

variable (builtins : Builtins)

def Responds (returncode : Int) (stdout : String) : Endpoint → Prop
  | .clusterStatus clusterName => Returns (getClusterStatus builtins clusterName returncode stdout)
  | .secondaryNetworks configured =>
      Returns (listSecondaryNetworks builtins configured returncode stdout)
  | .vms => Returns (listVMs builtins returncode stdout)
  | .rootSyncs => Returns (listRootSyncs builtins returncode stdout)
  | .pods => Returns (listPods builtins returncode stdout)

def Breaks (data : Datum) : Endpoint → Prop
  | .clusterStatus _ => ItemsBreak NodeFits NodeBreaks data
  | .secondaryNetworks _ => ItemsBreak NetworkFits NetworkBreaks data
  | .vms => ItemsBreak VirtualMachineFits VirtualMachineBreaks data
  | .rootSyncs => ItemsBreak RootSyncFits RootSyncBreaks data
  | .pods => ItemsBreak (PodFits builtins) (PodBreaks builtins) data

/-- The output breaks an endpoint: it is not read, or the document that it is breaks it. -/
def OutputBreaks (stdout : String) (endpoint : Endpoint) : Prop :=
  Escapes caught (builtins.loads stdout) ∨
    ∃ data, builtins.loads stdout = .ok data ∧ Breaks builtins data endpoint

def FallbackFits : Endpoint → Prop
  | .secondaryNetworks configured => ∀ net ∈ configured, ConfiguredFits net
  | .clusterStatus _ | .vms | .rootSyncs | .pods => True

variable {builtins} {Item Result : Type} {convert : Datum → Except Exception Item}
  {fits breaks : Datum → Prop} {returncode : Int} {stdout : String}

theorem escapes_items (escapes : ∀ item, Escapes caught (convert item) ↔ breaks item)
    (returns : ∀ item, Returns (convert item) ↔ fits item) (data : Datum) :
    Escapes caught (itemsOf data >>= fun items => items.mapM convert) ↔
      ItemsBreak fits breaks data := by
  simp only [itemsOf, bind_assoc, escapes_get_bind, escapes_iterate_bind, escapes_mapM, escapes,
    returns, ItemsBreak]

theorem returns_readOutput {read : Datum → Except Exception Result} :
    Returns (readOutput builtins returncode stdout read) ↔
      ¬ (returncode = 0 ∧ stdout ≠ "" ∧ Escapes caught (builtins.loads stdout >>= read)) := by
  rw [readOutput]
  split
  next success =>
    split
    next result isOk =>
      rw [isOk]
      simp
    next raised isError =>
      rw [isError, escapes_error]
      cases isCaught : caught raised <;> simp [success.1, success.2]
  next failure => exact iff_of_true (returns_ok _) fun all => failure ⟨all.1, all.2.1⟩

theorem returns_readItems (escapes : ∀ item, Escapes caught (convert item) ↔ breaks item)
    (returns : ∀ item, Returns (convert item) ↔ fits item) :
    Returns (readOutput builtins returncode stdout
        fun data => itemsOf data >>= fun items => items.mapM convert) ↔
      ¬ (returncode = 0 ∧ stdout ≠ "" ∧ (Escapes caught (builtins.loads stdout) ∨
        ∃ data, builtins.loads stdout = .ok data ∧ ItemsBreak fits breaks data)) := by
  simp only [returns_readOutput, escapes_bind, escapes_items escapes returns]

theorem returns_getClusterStatus (clusterName : String) :
    Returns (getClusterStatus builtins clusterName returncode stdout) ↔
      Returns (readOutput builtins returncode stdout liveNodes) := by
  rw [getClusterStatus, returns_bind]
  refine exists_congr fun nodes => and_iff_left ?_
  split <;> exact returns_pure _

/-- The loop that collects is interrupted as the conversion of all the items is. -/
theorem collect_escapes_iff {convert : Datum → Except Exception (Option Item)}
    {items : List Datum} :
    (∃ networks raised, collect convert items = (networks, some raised) ∧ caught raised = false) ↔
      Escapes caught (items.mapM convert) := by
  simp only [collect_interrupted, escapes_mapM]
  constructor
  · rintro ⟨networks, raised, ⟨front, item, back, converted, split, isOk, failure, -⟩, uncaught⟩
    exact ⟨front, item, back, split, returns_mapM.mp ⟨converted, isOk⟩, raised, failure, uncaught⟩
  · rintro ⟨front, item, back, split, returns, raised, failure, uncaught⟩
    obtain ⟨converted, isOk⟩ := returns_mapM.mpr returns
    exact ⟨_, raised, ⟨front, item, back, converted, split, isOk, failure, rfl⟩, uncaught⟩

theorem liveNetworks_escapes_iff (configured : List Datum) :
    (∃ networks raised, liveNetworks builtins stdout = (networks, some raised) ∧
        caught raised = false) ↔
      OutputBreaks builtins stdout (.secondaryNetworks configured) := by
  have whole : Escapes caught (builtins.loads stdout >>= itemsOf >>=
      fun items => items.mapM (liveNetworkItem builtins)) ↔
      OutputBreaks builtins stdout (.secondaryNetworks configured) := by
    rw [bind_assoc, escapes_bind]
    simp only [escapes_items escapes_liveNetworkItem returns_liveNetworkItem]
    rfl
  rw [← whole, liveNetworks]
  cases read : builtins.loads stdout >>= itemsOf with
  | error raised =>
      constructor
      · rintro ⟨networks, _, ⟨⟩, uncaught⟩
        exact ⟨raised, rfl, uncaught⟩
      · rintro ⟨_, ⟨⟩, uncaught⟩
        exact ⟨[], raised, rfl, uncaught⟩
  | ok items => exact collect_escapes_iff

theorem returns_listSecondaryNetworks {configured : List Datum}
    (valid : ∀ net ∈ configured, ConfiguredFits net) :
    Returns (listSecondaryNetworks builtins configured returncode stdout) ↔
      ¬ (returncode = 0 ∧ stdout ≠ "" ∧
        OutputBreaks builtins stdout (.secondaryNetworks configured)) := by
  have fallback : ∀ networks, Returns (withConfigured builtins configured networks) := by
    intro networks
    obtain ⟨more, isOk⟩ := configuredFits_iff.mp valid
    exact ⟨networks ++ more, withConfigured_ok.mpr ⟨more, isOk, rfl⟩⟩
  rw [listSecondaryNetworks, ← liveNetworks_escapes_iff]
  split
  next success =>
    cases liveNetworks builtins stdout with
    | mk networks interrupted =>
        cases interrupted with
        | none =>
            refine iff_of_true ?_ ?_
            · cases networks with
              | nil => exact fallback []
              | cons first others => exact returns_pure _
            · rintro ⟨-, -, _, _, ⟨⟩, -⟩
        | some raised =>
            cases isCaught : caught raised with
            | true =>
                refine iff_of_true ?_ ?_
                · simp only [isCaught, if_true]
                  exact fallback networks
                · rintro ⟨-, -, _, _, ⟨⟩, uncaught⟩
                  rw [isCaught] at uncaught
                  cases uncaught
            | false =>
                refine iff_of_false ?_ (not_not_intro ⟨success.1, success.2, _, _, rfl, isCaught⟩)
                simp only [isCaught]
                exact not_returns_error raised
  next failure => exact iff_of_true (fallback []) fun all => failure ⟨all.1, all.2.1⟩

/-- A read endpoint returns a response, whatever `kubectl` returns and prints,
exactly when the output of a successful call does not break it. -/
theorem readEndpoint_responds_iff (endpoint : Endpoint) (returncode : Int) (stdout : String)
    (valid : FallbackFits endpoint) :
    Responds builtins returncode stdout endpoint ↔
      ¬ (returncode = 0 ∧ stdout ≠ "" ∧ OutputBreaks builtins stdout endpoint) := by
  cases endpoint with
  | clusterStatus clusterName =>
      exact (returns_getClusterStatus clusterName).trans
        (returns_readItems escapes_nodeStatusItem returns_nodeStatusItem)
  | secondaryNetworks configured => exact returns_listSecondaryNetworks valid
  | vms =>
      exact (returns_bind_pure _).trans
        (returns_readItems escapes_virtualMachineItem returns_virtualMachineItem)
  | rootSyncs =>
      exact (returns_bind_pure _).trans
        (returns_readItems escapes_rootSyncItem returns_rootSyncItem)
  | pods => exact (returns_bind_pure _).trans (returns_readItems escapes_podItem returns_podItem)

end Responses

def arrayBuiltins : Builtins where
  loads text := if text = "[]" then .ok (.list []) else .error .valueError
  format _ := ""
  intOfText _ := none
  sumFloats _ := .error .valueError
  ipv6Network _ := none

theorem configuredObject_fits : FallbackFits (.secondaryNetworks [configuredObject]) := by
  intro net member
  rw [List.mem_singleton] at member
  rw [member]
  exact ⟨⟨_, rfl⟩, returns_ok _, ⟨_, rfl⟩, ⟨_, rfl⟩, .inr ⟨_, rfl⟩, .inr ⟨_, rfl⟩⟩

/-- The configured networks are valid, and the endpoint raises nevertheless. -/
theorem readEndpoint_array :
    FallbackFits (.secondaryNetworks [configuredObject]) ∧
      ¬ Responds arrayBuiltins 0 "[]" (.secondaryNetworks [configuredObject]) := by
  refine ⟨configuredObject_fits, fun responds => ?_⟩
  refine (readEndpoint_responds_iff _ 0 "[]" configuredObject_fits).mp responds ⟨rfl, by decide, ?_⟩
  refine .inr ⟨.list [], rfl, .inl ?_⟩
  rintro ⟨entries, isDict⟩
  cases isDict

theorem listPods_array_raises :
    listPods arrayBuiltins 0 "[]" = .error .attributeError ∧
      ¬ ∀ endpoint returncode stdout, FallbackFits endpoint →
        Responds arrayBuiltins returncode stdout endpoint := by
  have raises : listPods arrayBuiltins 0 "[]" = .error .attributeError := rfl
  refine ⟨raises, fun responds => ?_⟩
  obtain ⟨pods, isOk⟩ := responds .pods 0 "[]" trivial
  rw [raises] at isOk
  cases isOk

end GemEmulation.Api.K8s
