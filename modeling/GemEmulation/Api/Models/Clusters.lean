import GemEmulation.Api.Targets
import GemEmulation.Net.Ipaddress

/-!
# The request to create a cluster

The model of a secondary network and the model of the request that lists them.
Numbers are those that the request's JSON texts and numbers were read as.
-/

namespace GemEmulation.Api

open Foundations Python Net

structure SecondaryNetworkFields where
  name : String
  vlanId : Int
  subnet : String
  gateway : String
  vipPool : String
  podCidr : String := "10.12.0.0/22"
  perNodeIpamSize : Int := 24

structure SecondaryNetworkConfig where
  name : String
  vlanId : Int
  subnet : String
  gateway : String
  vipPool : String
  podCidr : String
  perNodeIpamSize : Int
  deriving DecidableEq, Repr

def dns1123LabelRegex : RegularExpression Char :=
  oneOf (lower ++ digits) * Python.optional (zeroOrMore (oneOf ("-" ++ lower ++ digits)) *
    oneOf (lower ++ digits))

/-- The bounds `ge` and `le` of a field. -/
def validateRange (least most value : Int) : Except String Int :=
  if value < least then .error s!"Input should be greater than or equal to {least}"
  else if most < value then .error s!"Input should be less than or equal to {most}"
  else .ok value

/-- `validate_cidr` and `validate_network_cidr`. -/
def validateCidr (v : String) : Except String String :=
  let v := Python.strip v
  if (IPv4Network.parse v).isSome then .ok v
  else .error s!"'{v}' is not a valid IPv4 CIDR block."

theorem validateRange_ok {least most value checked : Int}
    (valid : validateRange least most value = .ok checked) : least ≤ checked ∧ checked ≤ most := by
  simp only [validateRange] at valid
  split at valid
  next => cases valid
  next low =>
    split at valid
    next => cases valid
    next high =>
      cases valid
      omega

theorem validateCidr_ok {v checked : String} (valid : validateCidr v = .ok checked) :
    (IPv4Network.parse checked).isSome = true := by
  simp only [validateCidr] at valid
  split at valid
  next parses =>
    cases valid
    exact parses
  next => cases valid

namespace SecondaryNetworkConfig

def validateName (v : String) : Except String String :=
  let v := Python.strip v
  if v = "" then .error "Secondary network name cannot be empty."
  else if !isMatch dns1123LabelRegex v then
    .error (s!"Secondary network name '{v}' must be a valid DNS-1123 label " ++
      s!"(lowercase alphanumeric and hyphens).")
  else .ok v

def validateGateway (v : String) : Except String String :=
  let v := Python.strip v
  if (Ipaddress.parseAddress v).isSome then .ok v
  else .error s!"'{v}' is not a valid IPv4 address."

theorem validateGateway_ok {v checked : String} (valid : validateGateway v = .ok checked) :
    (Ipaddress.parseAddress checked).isSome = true := by
  simp only [validateGateway] at valid
  split at valid
  next parses =>
    cases valid
    exact parses
  next => cases valid

def validate (raw : SecondaryNetworkFields) : Checked SecondaryNetworkConfig :=
  (Checked.valid SecondaryNetworkConfig.mk)
    |>.and (.field "name" (validateName raw.name))
    |>.and (.field "vlan_id" (validateRange 1 4094 raw.vlanId))
    |>.and (.field "subnet" (validateCidr raw.subnet))
    |>.and (.field "gateway" (validateGateway raw.gateway))
    |>.and (.field "vip_pool" (.ok raw.vipPool))
    |>.and (.field "pod_cidr" (validateCidr raw.podCidr))
    |>.and (.field "per_node_ipam_size" (.ok raw.perNodeIpamSize))

/-- What the validators promise of a network. -/
structure Accepted (net : SecondaryNetworkConfig) : Prop where
  vlanId_range : 1 ≤ net.vlanId ∧ net.vlanId ≤ 4094
  subnet_parses : (IPv4Network.parse net.subnet).isSome = true
  gateway_parses : (Ipaddress.parseAddress net.gateway).isSome = true

theorem validate_valid {raw : SecondaryNetworkFields} {net : SecondaryNetworkConfig}
    (accepted : validate raw = .valid net) : net.Accepted := by
  simp only [validate, Checked.and_eq_valid, Checked.field_eq_valid, Checked.valid.injEq,
    Except.ok.injEq, exists_and_left, exists_eq_left'] at accepted
  obtain ⟨_, ⟨_, ⟨_, ⟨_, ⟨_, ⟨_, ⟨name, -, rfl⟩, vlanId, range, rfl⟩, subnet, subnetValid, rfl⟩,
    gateway, gatewayValid, rfl⟩, rfl⟩, podCidr, -, rfl⟩, rfl⟩ := accepted
  exact ⟨validateRange_ok range, validateCidr_ok subnetValid, validateGateway_ok gatewayValid⟩

end SecondaryNetworkConfig

def Checked.items {Raw Value : Type} (check : Raw → Checked Value) : Nat → List Raw →
    Checked (List Value)
  | _, [] => .valid []
  | index, raw :: rest =>
      let item := match check raw with
        | .valid value => .valid value
        | .invalid errors => .invalid (errors.map fun error =>
            ⟨toString index :: error.location, error.message⟩)
      ((Checked.valid List.cons).and item).and (items check (index + 1) rest)

theorem Checked.items_valid {Raw Value : Type} {check : Raw → Checked Value} {index : Nat}
    {raws : List Raw} {values : List Value} (valid : items check index raws = .valid values) :
    ∀ value ∈ values, ∃ raw ∈ raws, check raw = .valid value := by
  induction raws generalizing index values with
  | nil =>
      cases valid
      simp
  | cons raw rest inductionHypothesis =>
      simp only [items, Checked.and_eq_valid, Checked.valid.injEq] at valid
      obtain ⟨_, others, ⟨_, item, rfl, itemValid, rfl⟩, othersValid, rfl⟩ := valid
      intro value member
      rcases List.mem_cons.mp member with rfl | later
      · refine ⟨raw, List.mem_cons_self, ?_⟩
        split at itemValid
        next checked => rw [checked, itemValid]
        next => cases itemValid
      · obtain ⟨found, listed, checked⟩ := inductionHypothesis othersValid value later
        exact ⟨found, List.mem_cons_of_mem _ listed, checked⟩

/-- The names of the versions and hardware variants that the manifest lists. -/
structure Manifest where
  gdcVersions : List String
  hardwareVariants : List String

structure ClusterCreateFields extends GcpTargetFields where
  clusterName : String := "gem-cluster-1"
  hardwareVariant : String
  emulateGdcVersion : String
  gcpClusterAdminSa : Given := .absent
  gceNetwork : String := "gem-clusters-vpc"
  gceSubnetwork : String := "gem-clusters-subnet"
  nodeStorageSize : String := "100GB"
  podCidrBlocks : String := "10.0.0.0/17"
  servicesCidrBlocks : String := "10.96.0.0/12"
  maxPodsPerNode : Int := 250
  secondaryNetworks : Option (List SecondaryNetworkFields) := none

structure ClusterCreateRequest where
  target : GcpTargetRequest
  clusterName : String
  hardwareVariant : String
  emulateGdcVersion : String
  gcpClusterAdminSa : Option String
  gceNetwork : String
  gceSubnetwork : String
  nodeStorageSize : String
  podCidrBlocks : String
  servicesCidrBlocks : String
  maxPodsPerNode : Int
  secondaryNetworks : Option (List SecondaryNetworkConfig)
  deriving DecidableEq, Repr

namespace ClusterCreateRequest

def validateHardwareVariant (manifest : Manifest) (v : String) : Except String String :=
  if v ∈ manifest.hardwareVariants then .ok v
  else
    .error (s!"Invalid hardware_variant '{v}'. Allowed options: " ++
      Text.join (manifest.hardwareVariants.mergeSort fun first second => decide (first ≤ second))
        ", " ++ ".")

def validateGdcVersion (manifest : Manifest) (v : String) : Except String String :=
  if v ∈ manifest.gdcVersions then .ok v
  else
    .error (s!"Invalid emulate_gdc_version '{v}'. Allowed options: " ++
      Text.join (manifest.gdcVersions.mergeSort fun first second => decide (first ≤ second))
        ", " ++ ".")

def validateSecondaryNetworks : Option (List SecondaryNetworkFields) →
    Checked (Option (List SecondaryNetworkConfig))
  | none => .valid none
  | some networks =>
      match Checked.items SecondaryNetworkConfig.validate 0 networks with
      | .valid networks => .valid (some networks)
      | .invalid errors => .invalid (errors.map fun error =>
          ⟨"secondary_networks" :: error.location, error.message⟩)

def fields (manifest : Manifest) (raw : ClusterCreateFields) : Checked ClusterCreateRequest :=
  (Checked.valid ClusterCreateRequest.mk)
    |>.and (GcpTargetRequest.fields raw.toGcpTargetFields)
    |>.and (.field "cluster_name" (validateGceResourceName raw.clusterName "cluster_name" 26))
    |>.and (.field "hardware_variant" (validateHardwareVariant manifest raw.hardwareVariant))
    |>.and (.field "emulate_gdc_version" (validateGdcVersion manifest raw.emulateGdcVersion))
    |>.and (.field "gcp_cluster_admin_sa"
      (validateEmailOrSa (sanitizeOptionalStr raw.gcpClusterAdminSa) "gcp_cluster_admin_sa"))
    |>.and (.field "gce_network" (.ok raw.gceNetwork))
    |>.and (.field "gce_subnetwork" (.ok raw.gceSubnetwork))
    |>.and (.field "node_storage_size" (validateStorageSize raw.nodeStorageSize))
    |>.and (.field "pod_cidr_blocks" (validateCidr raw.podCidrBlocks))
    |>.and (.field "services_cidr_blocks" (validateCidr raw.servicesCidrBlocks))
    |>.and (.field "max_pods_per_node" (validateRange 1 250 raw.maxPodsPerNode))
    |>.and (validateSecondaryNetworks raw.secondaryNetworks)

/-- `validate_cluster_parameters`: the names of the nodes must stay below the
limit of Kubernetes. -/
def validateClusterParameters (settings : Settings) (request : ClusterCreateRequest) :
    Except String ClusterCreateRequest :=
  let pid := request.target.projectId.getD settings.defaultProjectId
  let z := request.target.zone.getD settings.defaultZone
  let cname := request.clusterName
  if 63 < cname.length + z.length + pid.length + 15 then
    let maxCnameLen := max 1 (63 - z.length - pid.length - 15)
    .error (s!"Cluster name '{cname}' is too long for project '{pid}' and zone '{z}'. " ++
      s!"Combined node FQDNs would exceed the 63-character Kubernetes metadata limit. " ++
      s!"Maximum allowed length for this project/zone is {maxCnameLen} characters.")
  else .ok request

def validate (settings : Settings) (manifest : Manifest) (raw : ClusterCreateFields) :
    Checked ClusterCreateRequest :=
  (fields manifest raw).andThen fun request => do
    let target ← request.target.validateTarget
    validateClusterParameters settings { request with target }

/-- The defaults, which Pydantic does not check, would pass their validators. -/
theorem defaults_valid :
    validateGceResourceName "gem-cluster-1" "cluster_name" 26 = .ok "gem-cluster-1" ∧
      validateStorageSize "100GB" = .ok "100GB" ∧
        (∀ block ∈ ["10.0.0.0/17", "10.96.0.0/12", "10.12.0.0/22"],
          validateCidr block = .ok block) ∧
          validateRange 1 250 250 = .ok 250 := by
  decide +kernel

theorem networks_accepted {settings : Settings} {manifest : Manifest} {raw : ClusterCreateFields}
    {request : ClusterCreateRequest} (accepted : validate settings manifest raw = .valid request)
    {networks : List SecondaryNetworkConfig} (given : request.secondaryNetworks = some networks) :
    ∀ net ∈ networks, net.Accepted := by
  obtain ⟨checked, fieldsValid, cluster⟩ := Checked.andThen_eq_valid.mp accepted
  obtain ⟨target, -, parameters⟩ := except_bind_ok cluster
  have kept : request.secondaryNetworks = checked.secondaryNetworks := by
    simp only [validateClusterParameters] at parameters
    split at parameters
    next => cases parameters
    next =>
      cases parameters
      rfl
  rw [kept] at given
  simp only [fields, Checked.and_eq_valid, Checked.field_eq_valid, Checked.valid.injEq,
    Except.ok.injEq, exists_and_left, exists_eq_left'] at fieldsValid
  obtain ⟨_, ⟨_, ⟨_, ⟨_, ⟨_, ⟨_, ⟨_, ⟨_, ⟨_, ⟨_, ⟨_, ⟨fields, -, rfl⟩, _, -, rfl⟩, _, -, rfl⟩,
    _, -, rfl⟩, _, -, rfl⟩, rfl⟩, rfl⟩, _, -, rfl⟩, _, -, rfl⟩, _, -, rfl⟩, _, -, rfl⟩,
    listed, listValid, rfl⟩ := fieldsValid
  cases given
  cases raws : raw.secondaryNetworks with
  | none =>
      rw [raws] at listValid
      cases listValid
  | some items =>
      rw [raws, validateSecondaryNetworks] at listValid
      split at listValid
      next valid =>
        cases listValid
        intro net member
        obtain ⟨found, -, checked⟩ := Checked.items_valid valid net member
        exact SecondaryNetworkConfig.validate_valid checked
      next => cases listValid

end ClusterCreateRequest

end GemEmulation.Api
