import Mathlib.Init

/-!
# The pipelines of the API

The six pipelines of the process runner with the steps of their mock runs, and
the requests of the routers that start them.  A request comes with the command
lines that its pipeline builds from it and from the settings.
-/

namespace GemEmulation.Api

inductive OperationType where
  | clusterCreate | clusterDelete | workstationCreate | workstationDelete
  | edgeRouterCreate | edgeRouterDelete
  deriving DecidableEq, Repr

def OperationType.text : OperationType → String
  | .clusterCreate => "CLUSTER_CREATE"
  | .clusterDelete => "CLUSTER_DELETE"
  | .workstationCreate => "WORKSTATION_CREATE"
  | .workstationDelete => "WORKSTATION_DELETE"
  | .edgeRouterCreate => "EDGE_ROUTER_CREATE"
  | .edgeRouterDelete => "EDGE_ROUTER_DELETE"

structure CommandLine where
  cmd : List String
  cwd : String
  deriving DecidableEq, Repr

structure Command where
  line : CommandLine
  stepName : String
  stepMessage : String
  deriving DecidableEq, Repr

structure MockStep where
  stepName : String
  stepMessage : String
  sampleLogs : List String
  deriving DecidableEq, Repr

inductive Step where
  | command (command : Command)
  | mock (step : MockStep)
  deriving DecidableEq, Repr

def Step.stepName : Step → String
  | .command called => called.stepName
  | .mock simulated => simulated.stepName

def Step.stepMessage : Step → String
  | .command called => called.stepMessage
  | .mock simulated => simulated.stepMessage

structure Pipeline where
  operationId : String
  mockSteps : List MockStep
  commands : List Command
  successMessage : String
  logCompletion : Bool
  errorLabel : String
  deriving DecidableEq, Repr

def Pipeline.steps (pipeline : Pipeline) (mockEnabled : Bool) : List Step :=
  if mockEnabled then pipeline.mockSteps.map .mock else pipeline.commands.map .command

def runClusterCreate (clusterName : String) (initCmd applyCmd ansibleCmd : CommandLine) :
    Pipeline where
  operationId := clusterName
  mockSteps := [
    ⟨"Terraform Provisioning (1/2)",
      "Provisioning cluster compute instances and networking...",
      ["google_compute_instance.cluster_nodes[0]: Creating...",
        "google_compute_instance.cluster_nodes[1]: Creating...",
        "google_compute_instance.cluster_nodes[2]: Creating...",
        "google_compute_instance.cluster_nodes: Creation complete after 35s",
        "Apply complete! Resources: 6 added, 0 changed, 0 destroyed."]⟩,
    ⟨"Ansible Configuration (2/2)",
      "Configuring VXLAN overlay, TopoLVM storage, and GDC deployment...",
      ["PLAY [Configure GEM Cluster Nodes] **********************************",
        "TASK [vxlan : Configure overlay network interfaces] *****************",
        "TASK [topolvm : Setup LVM volume group and TopoLVM daemon] *********",
        "TASK [gdc_deploy : Deploy Anthos Bare Metal cluster] ****************",
        "PLAY RECAP **********************************************************",
        s!"{clusterName}-node1 : ok=42   changed=18   unreachable=0    failed=0"]⟩]
  commands := [
    ⟨initCmd, "Terraform Init (1/2)", "Initializing Terraform backend and providers..."⟩,
    ⟨applyCmd, "Terraform Provisioning (1/2)",
      "Applying Terraform infrastructure resources..."⟩,
    ⟨ansibleCmd, "Ansible Configuration (2/2)",
      "Running Ansible cluster deployment playbook..."⟩]
  successMessage := s!"Cluster '{clusterName}' provisioned and configured successfully."
  logCompletion := true
  errorLabel := "Cluster provisioning failed"

def runClusterDelete (clusterName : String) (ansibleCmd initCmd destroyCmd : CommandLine) :
    Pipeline where
  operationId := clusterName
  mockSteps := [
    ⟨"Ansible Cleanup (1/2)",
      "Resetting cluster nodes and unregistering GKE hub membership...",
      ["PLAY [Clean up GEM Cluster Nodes] **********************************",
        "TASK [cleanup : Reset Anthos Bare Metal cluster] *******************",
        "TASK [cleanup : Remove VXLAN overlay interfaces] *******************",
        "PLAY RECAP **********************************************************"]⟩,
    ⟨"Terraform Destruction (2/2)",
      "Destroying cluster node VMs and cloud resources...",
      ["google_compute_instance.cluster_nodes[0]: Destroying...",
        "google_compute_instance.cluster_nodes[1]: Destroying...",
        "google_compute_instance.cluster_nodes[2]: Destroying...",
        "Destroy complete! Resources: 6 destroyed."]⟩]
  commands := [
    ⟨ansibleCmd, "Ansible Cleanup (1/2)", "Executing Ansible cluster cleanup playbook..."⟩,
    ⟨initCmd, "Terraform Init (2/2)", "Initializing Terraform backend..."⟩,
    ⟨destroyCmd, "Terraform Destruction (2/2)",
      "Destroying compute instances and network bindings..."⟩]
  successMessage := s!"Cluster '{clusterName}' successfully torn down."
  logCompletion := false
  errorLabel := "Cluster teardown failed"

def workstationId : String := "gem-admin-ws"

def runWorkstationCreate (initCmd applyCmd ansibleCmd : CommandLine) : Pipeline where
  operationId := workstationId
  mockSteps := [
    ⟨"Terraform Provisioning (1/2)", "Provisioning admin workstation compute instance...",
      ["google_compute_instance.admin_workstation: Creating...",
        "google_compute_instance.admin_workstation: Creation complete after 20s"]⟩,
    ⟨"Ansible Configuration (2/2)", "Installing bmctl, Docker, and admin tools...",
      ["PLAY [Configure GEM Admin Workstation] *****************************",
        "TASK [workstation : Install bmctl binaries] ************************",
        "PLAY RECAP **********************************************************"]⟩]
  commands := [
    ⟨initCmd, "Terraform Init (1/2)", "Initializing admin workstation Terraform..."⟩,
    ⟨applyCmd, "Terraform Provisioning (1/2)", "Provisioning admin workstation VM..."⟩,
    ⟨ansibleCmd, "Ansible Configuration (2/2)",
      "Configuring admin workstation tools and binaries..."⟩]
  successMessage := "Admin workstation provisioned and configured successfully."
  logCompletion := false
  errorLabel := "Workstation build failed"

def runWorkstationDelete (initCmd destroyCmd : CommandLine) : Pipeline where
  operationId := workstationId
  mockSteps := [
    ⟨"Terraform Destruction (1/1)", "Destroying admin workstation VM...",
      ["google_compute_instance.admin_workstation: Destroying...",
        "Destroy complete! Resources: 2 destroyed."]⟩]
  commands := [
    ⟨initCmd, "Terraform Init (1/1)", "Initializing Terraform backend..."⟩,
    ⟨destroyCmd, "Terraform Destruction (1/1)",
      "Destroying admin workstation resources..."⟩]
  successMessage := "Admin workstation destroyed successfully."
  logCompletion := false
  errorLabel := "Workstation teardown failed"

def runEdgeRouterCreate (edgeRouterName : String)
    (initCmd applyCmd ansibleCmd : CommandLine) : Pipeline where
  operationId := edgeRouterName
  mockSteps := [
    ⟨"Terraform Provisioning (1/2)", "Provisioning edge router compute instance...",
      ["google_compute_instance.edge_router: Creating...",
        "google_compute_instance.edge_router: Creation complete after 15s"]⟩,
    ⟨"Ansible Configuration (2/2)", "Configuring Traefik proxy and MetalLB VIP routing...",
      ["PLAY [Configure GEM Edge Router] **********************************",
        "TASK [edge_router : Install and configure Traefik] *****************",
        "PLAY RECAP **********************************************************"]⟩]
  commands := [
    ⟨initCmd, "Terraform Init (1/2)", "Initializing edge router Terraform..."⟩,
    ⟨applyCmd, "Terraform Provisioning (1/2)", "Provisioning edge router VM..."⟩,
    ⟨ansibleCmd, "Ansible Configuration (2/2)",
      "Configuring Traefik reverse proxy and VIP routing..."⟩]
  successMessage := "Edge router provisioned and configured successfully."
  logCompletion := false
  errorLabel := "Edge router build failed"

def runEdgeRouterDelete (edgeRouterName : String) (initCmd destroyCmd : CommandLine) :
    Pipeline where
  operationId := edgeRouterName
  mockSteps := [
    ⟨"Terraform Destruction (1/1)", "Destroying edge router VM...",
      ["google_compute_instance.edge_router: Destroying...",
        "Destroy complete! Resources: 2 destroyed."]⟩]
  commands := [
    ⟨initCmd, "Terraform Init (1/1)", "Initializing Terraform backend..."⟩,
    ⟨destroyCmd, "Terraform Destruction (1/1)", "Destroying edge router resources..."⟩]
  successMessage := "Edge router destroyed successfully."
  logCompletion := false
  errorLabel := "Edge router teardown failed"

inductive Request where
  | clusterCreate (clusterName : String) (initCmd applyCmd ansibleCmd : CommandLine)
  | clusterDelete (clusterName : String) (ansibleCmd initCmd destroyCmd : CommandLine)
  | workstationCreate (initCmd applyCmd ansibleCmd : CommandLine)
  | workstationDelete (initCmd destroyCmd : CommandLine)
  | edgeRouterCreate (edgeRouterName : String) (initCmd applyCmd ansibleCmd : CommandLine)
  | edgeRouterDelete (edgeRouterName : String) (initCmd destroyCmd : CommandLine)
  deriving DecidableEq, Repr

namespace Request

def pipeline : Request → Pipeline
  | clusterCreate name initCmd applyCmd ansibleCmd =>
      runClusterCreate name initCmd applyCmd ansibleCmd
  | clusterDelete name ansibleCmd initCmd destroyCmd =>
      runClusterDelete name ansibleCmd initCmd destroyCmd
  | workstationCreate initCmd applyCmd ansibleCmd =>
      runWorkstationCreate initCmd applyCmd ansibleCmd
  | workstationDelete initCmd destroyCmd => runWorkstationDelete initCmd destroyCmd
  | edgeRouterCreate name initCmd applyCmd ansibleCmd =>
      runEdgeRouterCreate name initCmd applyCmd ansibleCmd
  | edgeRouterDelete name initCmd destroyCmd => runEdgeRouterDelete name initCmd destroyCmd

/-- The routers pass the resource's name as operation id and as target resource. -/
def operationId (request : Request) : String := request.pipeline.operationId

def operationType : Request → OperationType
  | clusterCreate .. => .clusterCreate
  | clusterDelete .. => .clusterDelete
  | workstationCreate .. => .workstationCreate
  | workstationDelete .. => .workstationDelete
  | edgeRouterCreate .. => .edgeRouterCreate
  | edgeRouterDelete .. => .edgeRouterDelete

def initialStep : Request → String
  | clusterCreate .. => "Terraform Provisioning (1/2)"
  | clusterDelete .. => "Ansible Cleanup (1/2)"
  | workstationCreate .. => "Terraform Provisioning (1/2)"
  | workstationDelete .. => "Terraform Destruction (1/1)"
  | edgeRouterCreate .. => "Terraform Provisioning (1/2)"
  | edgeRouterDelete .. => "Terraform Destruction (1/1)"

def initialMessage : Request → String
  | clusterCreate name .. => s!"Starting build for cluster '{name}'..."
  | clusterDelete name .. => s!"Starting teardown for cluster '{name}'..."
  | workstationCreate .. => "Starting Admin Workstation build..."
  | workstationDelete .. => "Starting Admin Workstation teardown..."
  | edgeRouterCreate name .. => s!"Starting build for edge router '{name}'..."
  | edgeRouterDelete name .. => s!"Starting teardown for edge router '{name}'..."

end Request

end GemEmulation.Api
