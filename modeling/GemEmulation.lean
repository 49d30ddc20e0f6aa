import GemEmulation.Foundations.Runs
import GemEmulation.Foundations.Dict
import GemEmulation.Foundations.Text
import GemEmulation.Foundations.Json.RoundTrip
import GemEmulation.Net.Block
import GemEmulation.Kube.Api
import GemEmulation.Foundations.Json.Decode
import GemEmulation.Operator.Gateway.Vip
import GemEmulation.Operator.PodMutator.Admission
import GemEmulation.Operator.PodMutator.Exclusion
import GemEmulation.Operator.PodMutator.FirstFit
import GemEmulation.Operator.PodMutator.Release
import GemEmulation.Operator.VipExclusion
import GemEmulation.Operator.SubnetAgreement
import GemEmulation.Ansible.Separation
import GemEmulation.Ansible.Subnets
import GemEmulation.Api.Activity
import GemEmulation.Api.Advances
import GemEmulation.Api.Atomic
import GemEmulation.Api.Deliveries
import GemEmulation.Foundations.Rego
import GemEmulation.Kube.Apply
import GemEmulation.Kube.Decode
import GemEmulation.Kube.Deletion
import GemEmulation.Kube.Metadata
import GemEmulation.Operator.Deletion
import GemEmulation.Operator.FailedReads
import GemEmulation.Operator.Gateway.Gathered
import GemEmulation.Operator.Gateway.Traffic
import GemEmulation.Operator.Gateway.UserObjects
import GemEmulation.Operator.Isolation
import GemEmulation.Operator.Network.Guardrail
import GemEmulation.Operator.PodMutator.Addresses
import GemEmulation.Operator.PodMutator.InPlace
import GemEmulation.Operator.PodMutator.Interfaces
import GemEmulation.Operator.Ready
import GemEmulation.Policies.WorkloadLimitations
import GemEmulation.Operator.Gateway.Exact
import GemEmulation.Operator.Ownership
import GemEmulation.Operator.PrefixLength
import GemEmulation.Operator.StatusNames
import GemEmulation.Operator.Gateway.Choice
import GemEmulation.Operator.PodMutator.Denotation
import GemEmulation.Api.Publishing
import GemEmulation.Api.Logs
import GemEmulation.Api.Models.Zones
import GemEmulation.Policies.HostPaths
import GemEmulation.Scripts.OverlaySync
import GemEmulation.Scripts.Tunnel
import GemEmulation.Api.Chunks
import GemEmulation.Operator.Gateway.Rewrite
import GemEmulation.Operator.StatusUpdates
import GemEmulation.Api.SubnetReports
import GemEmulation.Api.Reads
import GemEmulation.Operator.PodMutator.FailedListing
import GemEmulation.Operator.Network.Steady
import GemEmulation.Operator.Gateway.Watches
import GemEmulation.Operator.Gateway.Neighbours
