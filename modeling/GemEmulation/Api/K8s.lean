import GemEmulation.Foundations.Objects
import GemEmulation.Net.Block
import GemEmulation.Net.Ipaddress

/-!
# Reading a cluster with kubectl

The endpoints of `K8sService` that read: the return code and the output of
`kubectl get … -o json` become a response, or the response for a cluster that
cannot be read.
-/

namespace GemEmulation.Api.K8s

open Foundations Python Net

/-- The exceptions that the endpoints catch when they read the output. -/
def caught : Exception → Bool
  | .indexError | .keyError | .typeError | .valueError => true
  | .attributeError | .overflowError | .recursionError => false

/-- A field of a model that is a `str`. -/
def validText : Datum → Except Exception String
  | .str value => .ok value
  | _ => .error .valueError

/-- A field of a model that is `str | None`. -/
def validOptionalText : Datum → Except Exception (Option String)
  | .none => .ok none
  | .str value => .ok (some value)
  | _ => .error .valueError

/-- A field of a model that is a `bool`. -/
def validBool : Datum → Except Exception Bool
  | .bool value => .ok value
  | .int 0 | .float (.finite 0) => .ok false
  | .int 1 | .float (.finite 1) => .ok true
  | .str value =>
      if value.toLower ∈ ["0", "off", "f", "false", "n", "no"] then .ok false
      else if value.toLower ∈ ["1", "on", "t", "true", "y", "yes"] then .ok true
      else .error .valueError
  | _ => .error .valueError

/-- A field of a model that is an `int`, set to a sum of numbers. -/
def validInt : Datum → Except Exception Int
  | .bool value => .ok (if value then 1 else 0)
  | .int value => .ok value
  | .float (.finite value) =>
      if value.den = 1 ∧ -2 ^ 63 < value.num ∧ value.num < 2 ^ 63 then .ok value.num
      else .error .valueError
  | _ => .error .valueError

def emptyDict : Datum := .dict []

def emptyList : Datum := .list []

def emptyText : Datum := .str ""

section Endpoints

variable (builtins : Builtins)

/-- What is read of the output of a successful call, unless an exception that is
caught interrupts it. -/
def readOutput {Result : Type} (returncode : Int) (stdout : String)
    (read : Datum → Except Exception Result) : Except Exception (Option Result) :=
  if returncode = 0 ∧ stdout ≠ "" then
    match builtins.loads stdout >>= read with
    | .ok result => .ok (some result)
    | .error raised => if caught raised then .ok none else .error raised
  else .ok none

/-- The items of a list that `kubectl` prints. -/
def itemsOf (data : Datum) : Except Exception (List Datum) := do
  let items ← data.get "items" emptyList
  items.iterate

structure NodeStatusItem where
  name : String
  status : String
  role : String
  ip : String
  cpuUsage : String
  cpuPercent : Int
  memUsage : String
  memPercent : Int
  deriving DecidableEq, Repr

structure ClusterMetrics where
  totalCPU : String
  usedCPU : String
  totalMem : String
  usedMem : String
  storageAllocated : String
  deriving DecidableEq, Repr

structure ClusterStatusResponse where
  connected : Bool
  clusterName : String
  mode : String
  nodes : List NodeStatusItem
  metrics : Option ClusterMetrics
  deriving DecidableEq, Repr

def nodeRole (labels : Datum) : Except Exception String := do
  let isMaster ← labels.contains "node-role.kubernetes.io/master"
  let isControlPlane ←
    if isMaster then pure true else labels.contains "node-role.kubernetes.io/control-plane"
  pure (if isControlPlane then "Control Plane" else "Worker")

def isReady (cond : Datum) : Except Exception Bool := do
  let type ← cond.get "type" .none
  if type.isText "Ready" then
    let status ← cond.get "status" .none
    pure (status.isText "True")
  else pure false

def isInternal (addr : Datum) : Except Exception Bool := do
  let type ← addr.get "type" .none
  pure (type.isText "InternalIP")

def nodeIP (addresses : List Datum) : Except Exception Datum := do
  match ← search isInternal addresses with
  | some addr => addr.get "address" emptyText
  | none => pure emptyText

def nodeStatusItem (item : Datum) : Except Exception NodeStatusItem := do
  let metadata ← item.get "metadata" emptyDict
  let nodeStatus ← item.get "status" emptyDict
  let name ← metadata.get "name" emptyText
  let labels ← metadata.get "labels" emptyDict
  let role ← nodeRole labels
  let conditions ← nodeStatus.get "conditions" emptyList
  let ready ← search isReady (← conditions.iterate)
  let addresses ← nodeStatus.get "addresses" emptyList
  let ip ← nodeIP (← addresses.iterate)
  let name ← validText name
  let ip ← validText (ip.orElse (.str "10.200.54.2"))
  pure {
    name, role, ip
    status := if ready.isSome then "Ready" else "NotReady"
    cpuUsage := "320m"
    cpuPercent := 4
    memUsage := "3100Mi"
    memPercent := 5 }

def clusterMetrics (nodes : Nat) : ClusterMetrics where
  totalCPU := toString (nodes * 32) ++ " vCPU"
  usedCPU := "18 vCPU"
  totalMem := toString (nodes * 64) ++ " GB"
  usedMem := "42 GB"
  storageAllocated := "850 GB / 3.9 TB"

def liveNodes (data : Datum) : Except Exception (List NodeStatusItem) := do
  let items ← itemsOf data
  items.mapM nodeStatusItem

def getClusterStatus (clusterName : String) (returncode : Int) (stdout : String) :
    Except Exception ClusterStatusResponse := do
  match ← readOutput builtins returncode stdout liveNodes with
  | some (node :: nodes) => pure {
      clusterName
      connected := true
      mode := "Live Connected"
      nodes := node :: nodes
      metrics := some (clusterMetrics (node :: nodes).length) }
  | _ => pure {
      clusterName
      connected := false
      mode := "Disconnected"
      nodes := []
      metrics := none }

structure SecondaryNetworkItem where
  name : String
  vlanId : Datum
  subnet : String
  gateway : Option String
  vipPool : Option String
  purpose : String
  interfaceName : String
  status : String

/-- The network of an interface, as a text: `str(ip_interface(text).network)`. -/
def interfaceNetwork (text : String) : Option String :=
  match IPv4Network.parse text with
  | some network =>
      some (dottedQuad (network.address &&& cidrMask network.prefixlen 32) ++ "/" ++
        toString network.prefixlen)
  | none =>
      -- An IPv6 address has at least two colons.
      let address := (Text.split text '/').headD ""
      if (Text.split address ':').length < 3 then none else builtins.ipv6Network text

def vlanNumber (rawVLAN : Datum) : Except Exception Int :=
  match builtins.int rawVLAN with
  | .ok vlanId => .ok vlanId
  | .error raised => if raised = .valueError ∨ raised = .typeError then .ok 0 else .error raised

def derivedSubnet (gateway spec : Datum) : Except Exception Datum := do
  let l2NetworkConfig ← spec.get "l2NetworkConfig" .none
  let prefixLen ← (l2NetworkConfig.orElse emptyDict).get "prefixLength4" (.int 24)
  let text := builtins.formatted gateway ++ "/" ++ builtins.formatted prefixLen
  pure (.str ((interfaceNetwork builtins text).getD ""))

def secondaryNetwork (vlanId : Datum) (interfaceName : String)
    (name subnet gateway vipPool : Datum) : Except Exception SecondaryNetworkItem := do
  let name ← validText name
  let subnet ← validText subnet
  let gateway ← validOptionalText gateway
  let vipPool ← validOptionalText vipPool
  pure {
    name, vlanId, subnet, gateway, vipPool, interfaceName
    purpose := "Secondary VLAN Overlay"
    status := "Active" }

def subnetFor (annotatedSubnet gateway spec : Datum) : Except Exception Datum :=
  if !annotatedSubnet.truth && gateway.truth then derivedSubnet builtins gateway spec
  else pure annotatedSubnet

def liveNetwork (name annotations spec : Datum) : Except Exception SecondaryNetworkItem := do
  let annotatedVLAN ← annotations.get "networking.gke.io/gdce-vlan-id" .none
  let rawVLAN ← annotatedVLAN.orEval (spec.get "vlanId" (.int 0))
  let vlanId ← vlanNumber builtins rawVLAN
  let gateway4 ← spec.get "gateway4" .none
  let gateway ← gateway4.orEval (annotations.get "networking.gke.io/gdce-gateway" emptyText)
  let annotatedSubnet ← annotations.get "networking.gke.io/gdce-subnet" emptyText
  let subnet ← subnetFor builtins annotatedSubnet gateway spec
  let vipPool ← annotations.get "networking.gke.io/gdce-lb-service-vip-cidrs" emptyText
  secondaryNetwork (.int vlanId) ("gdcenet0." ++ toString vlanId) name subnet gateway vipPool

def isSecondary (name spec : Datum) : Except Exception Bool :=
  if !name.truth || name.isText "pod-network" || name.isText "default" then pure false
  else do
    let type ← spec.get "type" .none
    pure (!type.isText "L3")

def liveNetworkItem (item : Datum) : Except Exception (Option SecondaryNetworkItem) := do
  let metadata ← item.get "metadata" emptyDict
  let annotations ← metadata.get "annotations" .none
  let spec ← item.get "spec" .none
  let name ← metadata.get "name" emptyText
  if ← isSecondary name (spec.orElse emptyDict) then
    let network ← liveNetwork builtins name (annotations.orElse emptyDict) (spec.orElse emptyDict)
    pure (some network)
  else pure none

/-- The networks that the loop collects, and the exception that interrupts it. -/
def collect {Item : Type} (convert : Datum → Except Exception (Option Item)) :
    List Datum → List Item × Option Exception
  | [] => ([], none)
  | item :: rest =>
      match convert item with
      | .error raised => ([], some raised)
      | .ok converted =>
          let (networks, raised) := collect convert rest
          (converted.toList ++ networks, raised)

def liveNetworks (stdout : String) : List SecondaryNetworkItem × Option Exception :=
  match builtins.loads stdout >>= itemsOf with
  | .error raised => ([], some raised)
  | .ok items => collect (liveNetworkItem builtins) items

/-- The body of the loop over the networks of `all.yaml`. -/
def configuredNetwork (net : Datum) : Except Exception SecondaryNetworkItem := do
  let name ← net.get "name" emptyText
  let rawVLAN ← net.get "vlan_id" (.int 0)
  let subnet ← net.get "subnet" emptyText
  let gateway ← net.get "gateway" emptyText
  let vipPool ← net.get "vip_pool" emptyText
  let vlanId ← validVLAN rawVLAN
  secondaryNetwork vlanId ("gdcenet0." ++ builtins.formatted rawVLAN) name subnet gateway vipPool
where
  /-- A field that is `int | str`. -/
  validVLAN : Datum → Except Exception Datum
    | .int value => .ok (.int value)
    | .str value => .ok (.str value)
    | value => (validInt value).map Datum.int

/-- The networks of `all.yaml` after those that were collected before. -/
def withConfigured (configured : List Datum) (networks : List SecondaryNetworkItem) :
    Except Exception (List SecondaryNetworkItem) := do
  let more ← configured.mapM (configuredNetwork builtins)
  pure (networks ++ more)

/-- `list_secondary_networks`. -/
def listSecondaryNetworks (configured : List Datum) (returncode : Int) (stdout : String) :
    Except Exception (List SecondaryNetworkItem) :=
  if returncode = 0 ∧ stdout ≠ "" then
    match liveNetworks builtins stdout with
    | ([], none) => withConfigured builtins configured []
    | (networks, none) => pure networks
    | (networks, some raised) =>
        if caught raised then withConfigured builtins configured networks else throw raised
  else withConfigured builtins configured []

structure VirtualMachineItem where
  name : String
  namespaceName : String
  status : String
  cpus : Int
  memory : String
  ip : Option String
  image : String
  uptime : String
  powerState : String
  deriving DecidableEq, Repr

def interfaceIP (interfaces : Datum) : Except Exception Datum := do
  let firstIface ← if interfaces.truth then interfaces.first else pure emptyDict
  match firstIface with
  | .dict entries => (Datum.dict entries).get "ipAddress" .none
  | _ => pure .none

def virtualMachineItem (item : Datum) : Except Exception VirtualMachineItem := do
  let metadata ← item.get "metadata" emptyDict
  let spec ← item.get "spec" emptyDict
  let statusObj ← item.get "status" emptyDict
  let running ← spec.get "running" .none
  let vmStatus := if running.truth then "Running" else "Stopped"
  let interfaces ← statusObj.get "interfaces" .none
  let ip ← interfaceIP (interfaces.orElse emptyList)
  let name ← metadata.get "name" emptyText
  let ns ← metadata.get "namespace" (.str "default")
  let name ← validText name
  let ns ← validText ns
  let ip ← validOptionalText ip
  pure {
    name, ip
    namespaceName := ns
    status := vmStatus
    cpus := 2
    memory := "4Gi"
    image := "ubuntu-22.04-server"
    uptime := "1h"
    powerState := vmStatus }

def listVMs (returncode : Int) (stdout : String) : Except Exception (List VirtualMachineItem) := do
  let vms ← readOutput builtins returncode stdout fun data => do
    let items ← itemsOf data
    items.mapM virtualMachineItem
  pure (vms.getD [])

structure RootSyncItem where
  name : String
  namespaceName : String
  repo : String
  branch : String
  dir : String
  auth : String
  period : String
  status : String
  commit : String
  lastSynced : String
  message : String
  deriving DecidableEq, Repr

def rootSyncItem (item : Datum) : Except Exception RootSyncItem := do
  let metadata ← item.get "metadata" emptyDict
  let spec ← (← item.get "spec" emptyDict).get "git" emptyDict
  let statusObj ← item.get "status" emptyDict
  let name ← metadata.get "name" emptyText
  let ns ← metadata.get "namespace" (.str "config-management-system")
  let repo ← spec.get "repo" emptyText
  let branch ← spec.get "branch" (.str "main")
  let dir ← spec.get "dir" (.str "/")
  let auth ← spec.get "auth" (.str "none")
  let period ← spec.get "period" (.str "15s")
  let sync ← statusObj.get "sync" emptyDict
  let status ← sync.get "status" (.str "SYNCED")
  let commit ← (← sync.get "commit" emptyText).slice 9
  let lastSynced ← sync.get "lastUpdate" emptyText
  let name ← validText name
  let ns ← validText ns
  let repo ← validText repo
  let branch ← validText branch
  let dir ← validText dir
  let auth ← validText auth
  let period ← validText period
  let status ← validText status
  let commit ← validText commit
  let lastSynced ← validText lastSynced
  pure {
    name, repo, branch, dir, auth, period, status, commit, lastSynced
    namespaceName := ns
    message := "RootSync status retrieved from cluster." }

def listRootSyncs (returncode : Int) (stdout : String) : Except Exception (List RootSyncItem) := do
  let rootSyncs ← readOutput builtins returncode stdout fun data => do
    let items ← itemsOf data
    items.mapM rootSyncItem
  pure (rootSyncs.getD [])

structure ContainerStatusItem where
  name : String
  image : String
  ready : Bool
  state : String
  deriving DecidableEq, Repr

structure PodItem where
  name : String
  namespaceName : String
  status : String
  ready : String
  restarts : Int
  age : String
  ip : Option String
  nodeName : Option String
  containers : List ContainerStatusItem
  deriving DecidableEq, Repr

def containerState (state : Datum) : Except Exception String := do
  if ← state.contains "running" then pure "running"
  else if ← state.contains "terminated" then pure "terminated"
  else pure "waiting"

def containerStatusItem (container : Datum) : Except Exception ContainerStatusItem := do
  let state ← containerState (← container.get "state" emptyDict)
  let name ← container.get "name" emptyText
  let image ← container.get "image" emptyText
  let ready ← container.get "ready" (.bool false)
  let name ← validText name
  let image ← validText image
  let ready ← validBool ready
  pure { name, image, ready, state }

def readyText (containers : List ContainerStatusItem) : String :=
  if containers = [] then "1/1"
  else toString (containers.countP fun container => container.ready) ++ "/" ++
    toString containers.length

def podItem (item : Datum) : Except Exception PodItem := do
  let metadata ← item.get "metadata" emptyDict
  let podStatus ← item.get "status" emptyDict
  let statuses ← (← podStatus.get "containerStatuses" emptyList).iterate
  let containers ← statuses.mapM containerStatusItem
  let name ← metadata.get "name" emptyText
  let ns ← metadata.get "namespace" (.str "default")
  let status ← podStatus.get "phase" (.str "Running")
  let restartCounts ← statuses.mapM fun container => container.get "restartCount" (.int 0)
  let restarts ← builtins.sum restartCounts
  let ip ← podStatus.get "podIP" (.str "10.0.1.1")
  let nodeName ← (← item.get "spec" emptyDict).get "nodeName" emptyText
  let name ← validText name
  let ns ← validText ns
  let status ← validText status
  let restarts ← validInt restarts
  let ip ← validOptionalText ip
  let nodeName ← validOptionalText nodeName
  pure {
    name, status, restarts, ip, nodeName, containers
    namespaceName := ns
    ready := readyText containers
    age := "10m" }

def listPods (returncode : Int) (stdout : String) : Except Exception (List PodItem) := do
  let pods ← readOutput builtins returncode stdout fun data => do
    let items ← itemsOf data
    items.mapM (podItem builtins)
  pure (pods.getD [])

end Endpoints

end GemEmulation.Api.K8s
