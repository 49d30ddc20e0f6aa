import GemEmulation.Foundations.Json.Decode
import GemEmulation.Foundations.Json.RoundTrip
import GemEmulation.Foundations.Text

/-!
# The annotations of the Pod mutator

The JSON annotations that the mutator reads and writes, with Go's decoding of
their entries.  The Multus annotation that the mutator writes decodes to the
entries it was written from.
-/

namespace GemEmulation.Operator

open Foundations Foundations.Json

def annotationGKEInterfaces : String := "networking.gke.io/interfaces"

def annotationGKEDefaultInterface : String := "networking.gke.io/default-interface"

def annotationMultusNetworks : String := "k8s.v1.cni.cncf.io/networks"

def statusKeys : List String :=
  ["k8s.v1.cni.cncf.io/network-status", "k8s.v1.cni.cncf.io/networks-status"]

structure GKEInterfaceSpec where
  interfaceName : String := ""
  network : String := ""
  deriving DecidableEq, Repr

structure MultusNetworkSpec where
  name : String := ""
  interface : String := ""
  ips : List String := []
  deriving DecidableEq, Repr

structure NetworkStatus where
  name : String := ""
  ips : List String := []
  deriving DecidableEq, Repr

def decodeGKEInterfaceSpec : Decoder GKEInterfaceSpec :=
  decodeStruct fun name =>
    if namesField name "interfaceName" then some fun current value =>
      let (text, bad) := decodeString current.interfaceName value
      ({ current with interfaceName := text }, bad)
    else if namesField name "network" then some fun current value =>
      let (text, bad) := decodeString current.network value
      ({ current with network := text }, bad)
    else none

def decodeMultusNetworkSpec : Decoder MultusNetworkSpec :=
  decodeStruct fun name =>
    if namesField name "name" then some fun current value =>
      let (text, bad) := decodeString current.name value
      ({ current with name := text }, bad)
    else if namesField name "interface" then some fun current value =>
      let (text, bad) := decodeString current.interface value
      ({ current with interface := text }, bad)
    else if namesField name "ips" then some fun current value =>
      let (ips, bad) := decodeSlice decodeString "" current.ips value
      ({ current with ips }, bad)
    else none

def decodeNetworkStatus : Decoder NetworkStatus :=
  decodeStruct fun name =>
    if namesField name "name" then some fun current value =>
      let (text, bad) := decodeString current.name value
      ({ current with name := text }, bad)
    else if namesField name "ips" then some fun current value =>
      let (ips, bad) := decodeSlice decodeString "" current.ips value
      ({ current with ips }, bad)
    else none

def decodeGKEInterfaces : Decoder (List GKEInterfaceSpec) :=
  decodeSlice decodeGKEInterfaceSpec {}

def decodeMultusNetworks : Decoder (List MultusNetworkSpec) :=
  decodeSlice decodeMultusNetworkSpec {}

def decodeNetworkStatuses : Decoder (List NetworkStatus) :=
  decodeSlice decodeNetworkStatus {}

def decodeTexts : Decoder (List String) := decodeSlice decodeString ""

def encodeGKEInterfaceSpec (spec : GKEInterfaceSpec) : Json :=
  .object [("interfaceName", .string spec.interfaceName), ("network", .string spec.network)]

def encodeMultusNetworkSpec (spec : MultusNetworkSpec) : Json :=
  .object <| ("name", .string spec.name) ::
    ((if spec.interface = "" then [] else [("interface", .string spec.interface)]) ++
      if spec.ips = [] then [] else [("ips", .array (spec.ips.map .string))])

/-- `json.Marshal` of the primary interfaces. -/
def marshalGKEInterfaces (specs : List GKEInterfaceSpec) : String :=
  (Json.array (specs.map encodeGKEInterfaceSpec)).render

/-- `json.Marshal` of the Multus entries. -/
def marshalMultusNetworks (specs : List MultusNetworkSpec) : String :=
  (Json.array (specs.map encodeMultusNetworkSpec)).render

theorem numberFree_encodeMultusNetworkSpec (spec : MultusNetworkSpec) :
    (encodeMultusNetworkSpec spec).numberFree = true := by
  have ips : numberFreeElements (spec.ips.map .string) = true :=
    numberFreeElements_map fun _ _ => rfl
  unfold encodeMultusNetworkSpec
  split <;> split <;> simp [numberFree, numberFreeMembers, ips]

theorem depth_encodeMultusNetworkSpec (spec : MultusNetworkSpec) :
    (encodeMultusNetworkSpec spec).depth ≤ 2 := by
  have ips : depthElements (spec.ips.map .string) ≤ 0 :=
    depthElements_map fun _ _ => Nat.le_refl 0
  unfold encodeMultusNetworkSpec
  split <;> split <;> simp [depth, depthMembers] <;> omega

theorem decode_encodeMultusNetworkSpec (spec : MultusNetworkSpec) :
    decodeMultusNetworkSpec {} (encodeMultusNetworkSpec spec) = (spec, false) := by
  obtain ⟨name, interface, ips⟩ := spec
  have nameField : namesField "name" "name" = true := by decide
  have interfaceField : namesField "interface" "name" = false ∧
      namesField "interface" "interface" = true := by decide
  have ipsField : namesField "ips" "name" = false ∧ namesField "ips" "interface" = false ∧
      namesField "ips" "ips" = true := by decide
  have texts := decodeSlice_strings ips
  by_cases noInterface : interface = "" <;> by_cases noIPs : ips = [] <;>
    simp [decodeMultusNetworkSpec, encodeMultusNetworkSpec, decodeStruct, decodeMembers,
      decodeString, nameField, interfaceField, ipsField, noInterface, noIPs, texts]

theorem parse_render_entries {Entry : Type} {encode : Entry → Json} {entries : List Entry}
    (plain : ∀ entry, (encode entry).numberFree = true)
    (shallow : ∀ entry, (encode entry).depth ≤ 2) :
    parse (Json.array (entries.map encode)).render = some (.array (entries.map encode)) := by
  have plainArray : (Json.array (entries.map encode)).numberFree = true := by
    simpa [numberFree] using numberFreeElements_map fun entry _ => plain entry
  have shallowArray : (Json.array (entries.map encode)).depth ≤ maxNestingDepth := by
    have bounded : depthElements (entries.map encode) ≤ 2 :=
      depthElements_map fun entry _ => shallow entry
    simp only [depth, maxNestingDepth]
    omega
  exact parse_render plainArray shallowArray

theorem parse_marshalMultusNetworks (specs : List MultusNetworkSpec) :
    parse (marshalMultusNetworks specs) = some (.array (specs.map encodeMultusNetworkSpec)) :=
  parse_render_entries numberFree_encodeMultusNetworkSpec depth_encodeMultusNetworkSpec

theorem unmarshal_marshalMultusNetworks (specs : List MultusNetworkSpec) :
    unmarshal decodeMultusNetworks [] (marshalMultusNetworks specs) = some (specs, false) := by
  rw [unmarshal, parse_marshalMultusNetworks, Option.map_some]
  exact congrArg some (decodeElements_map fun spec _ => decode_encodeMultusNetworkSpec spec)

theorem unmarshalStrict_marshalMultusNetworks (specs : List MultusNetworkSpec) :
    unmarshalStrict decodeMultusNetworks [] (marshalMultusNetworks specs) = some specs := by
  simp [unmarshalStrict, unmarshal_marshalMultusNetworks]

theorem decode_encodeGKEInterfaceSpec (spec : GKEInterfaceSpec) :
    decodeGKEInterfaceSpec {} (encodeGKEInterfaceSpec spec) = (spec, false) := by
  obtain ⟨interfaceName, network⟩ := spec
  have nameField : namesField "interfaceName" "interfaceName" = true := by decide
  have networkField : namesField "network" "interfaceName" = false ∧
      namesField "network" "network" = true := by decide
  simp [decodeGKEInterfaceSpec, encodeGKEInterfaceSpec, decodeStruct, decodeMembers,
    decodeString, nameField, networkField]

theorem parse_marshalGKEInterfaces (specs : List GKEInterfaceSpec) :
    parse (marshalGKEInterfaces specs) = some (.array (specs.map encodeGKEInterfaceSpec)) :=
  parse_render_entries (fun _ => rfl) (fun _ => by
    simp [encodeGKEInterfaceSpec, depth, depthMembers])

theorem unmarshalStrict_marshalGKEInterfaces (specs : List GKEInterfaceSpec) :
    unmarshalStrict decodeGKEInterfaces [] (marshalGKEInterfaces specs) = some specs := by
  have decoded : decodeGKEInterfaces [] (.array (specs.map encodeGKEInterfaceSpec)) =
      (specs, false) := decodeElements_map fun spec _ => decode_encodeGKEInterfaceSpec spec
  simp [unmarshalStrict, unmarshal, parse_marshalGKEInterfaces, decoded]

end GemEmulation.Operator
