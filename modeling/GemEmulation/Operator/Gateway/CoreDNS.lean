import GemEmulation.Foundations.Text
import GemEmulation.Kube.Effects

/-!
# The CoreDNS rewrite rule

The operator keeps a rewrite rule for Gateway names in the CoreDNS template and
in the live configuration, and restarts CoreDNS when the latter changes.
-/

namespace GemEmulation.Operator

open Foundations Kube

def coreDNSRewriteRule : String := "    rewrite name suffix .gkegw.cluster.local .svc.cluster.local"

def gatewayDomain : String := ".gkegw.cluster.local"

/-- The text with the rule after every `ready` line, if that changes it. -/
def withRewriteRule (text : String) : Option String :=
  if text = "" ∨ Text.contains text gatewayDomain then none
  else
    let newLines := (Text.split text '\n').flatMap fun line =>
      if Text.trimSpace line = "ready" then [line, coreDNSRewriteRule] else [line]
    let newText := Text.join newLines "\n"
    if newText = text then none else some newText

/-- Add the rule to a field of a ConfigMap in `kube-system`; says whether it was
added. -/
def patchConfigMap (name field : String) : Api Bool := do
  match ← get .configMap ⟨"kube-system", name⟩ with
  | .error _ => pure false
  | .ok cm =>
      match withRewriteRule ((cm.body.data.get? field).getD "") with
      | none => pure false
      | some newText =>
          match ← update .configMap { cm with body :=
            { data := cm.body.data.set field newText } } with
          | .ok _ => pure true
          | .error _ => pure false

def reconcileCoreDNSTemplate : Api Unit := do
  let _ ← patchConfigMap "coredns-template" "coredns-template"
  pure ()

def deletePod (_ : Unit) (pod : Pod) : Api Unit := do
  let _ ← delete .pod pod.key
  pure ()

def restartCoreDNS : Api Unit := do
  match ← list .pod (some "kube-system") [("k8s-app", "kube-dns")] with
  | .error _ => pure ()
  | .ok pods => pods.foldlM deletePod ()

def reconcileCoreDNS : Api Unit := do
  reconcileCoreDNSTemplate
  if ← patchConfigMap "coredns-config" "Corefile" then restartCoreDNS else pure ()

def CoreDNSCall : Call → Prop
  | .get kind _ | .update kind _ => kind = .configMap
  | .list kind _ _ | .delete kind _ => kind = .pod
  | _ => False

theorem patchConfigMap_makes (name field : String) :
    (patchConfigMap name field).Guarantees (Makes CoreDNSCall) := by
  refine .bind (get_makes rfl) fun outcome => ?_
  split
  · exact .pure _
  · split
    · exact .pure _
    · refine .bind (update_makes .configMap rfl) fun outcome => ?_
      split <;> exact .pure _

theorem restartCoreDNS_makes : restartCoreDNS.Guarantees (Makes CoreDNSCall) := by
  refine .bind (list_makes rfl) fun outcome => ?_
  split
  · exact .pure _
  · refine Program.Guarantees.foldlM _ (fun pod _ _ => ?_) _
    exact .bind (delete_makes rfl) fun _ => .pure _

theorem reconcileCoreDNS_makes : reconcileCoreDNS.Guarantees (Makes CoreDNSCall) := by
  refine .bind (.bind (patchConfigMap_makes _ _) fun _ => .pure _) fun _ => ?_
  refine .bind (patchConfigMap_makes _ _) fun patched => ?_
  split
  · exact restartCoreDNS_makes
  · exact .pure _

end GemEmulation.Operator
