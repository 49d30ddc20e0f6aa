import GemEmulation.Kube.Effects

/-!
# What the controllers share

The annotation that names a Network, the fields of a GKEGatewayCIDR, and the
status update that both controllers end with.
-/

namespace GemEmulation.Operator

open Foundations Kube

/-- `AnnotationNetwork`: the Network of a Gateway or a Service. -/
def annotationNetwork : String := "networking.gke.io/network"

def annotationOf {Body : Type} (object : Object Body) (name : String) : String :=
  (object.metadata.annotations.get? name).getD ""

/-- `spec.network` of a GKEGatewayCIDR. -/
def specNetwork (item : Unstructured) : String :=
  (nestedString item.body ["spec", "network"]).getD ""

/-- `spec.ip4cidr` of a GKEGatewayCIDR. -/
def specIP4CIDR (item : Unstructured) : String :=
  (nestedString item.body ["spec", "ip4cidr"]).getD ""

def ensureFinalizer (kind : Kind) (finalizer : String) (object : Object kind.Body) :
    Api (Except ApiError (Object kind.Body)) :=
  if containsFinalizer object finalizer then pure (.ok object)
  else update kind (addFinalizer object finalizer)

structure Condition where
  type : String
  status : String
  reason : String
  message : String
  deriving DecidableEq, Repr

def textField (fields : Fields) (name : String) : Option String :=
  (lookupEntry name fields).bind Value.asString

def existingByType (existing : List Value) (type : String) : Option Fields :=
  existing.reverse.findSome? fun item => do
    let fields ← item.asMap
    let found ← textField fields "type"
    if found = type then some fields else none

/-- The transition time of a condition: the previous one while the condition
does not change. -/
def transitionTime (existing : List Value) (now : String) (cond : Condition) : String :=
  match existingByType existing cond.type with
  | none => now
  | some prev =>
      if textField prev "status" = some cond.status ∧ textField prev "reason" = some cond.reason ∧
          textField prev "message" = some cond.message then
        match textField prev "lastTransitionTime" with
        | some prevTime => if prevTime = "" then now else prevTime
        | none => now
      else now

def conditionValue (existing : List Value) (now : String) (cond : Condition) : Value :=
  .map [("type", .string cond.type), ("status", .string cond.status),
    ("reason", .string cond.reason), ("message", .string cond.message),
    ("lastTransitionTime", .string (transitionTime existing now cond))]

def statusMap (existing : List Value) (now : String) (addresses : Option (List Value))
    (desiredConds : List Condition) : Fields :=
  ("conditions", .slice (desiredConds.map (conditionValue existing now))) ::
    match addresses with
    | some addresses => [("addresses", .slice addresses)]
    | none => []

def updateUnstructuredStatusIfChanged (kind : CustomKind) (obj : Unstructured)
    (addresses : Option (List Value)) (desiredConds : List Condition) :
    Api (Except ApiError Unit) := do
  let now ← now
  let existing := (nestedSlice obj.body ["status", "conditions"]).getD []
  let desired := statusMap existing now addresses desiredConds
  if (nestedMap obj.body ["status"]).any fun status =>
      (Value.map status).deepEqual (.map desired) then
    pure (.ok ())
  else
    let obj := { obj with body := setEntry "status" (.map desired) obj.body }
    match ← updateStatus kind obj with
    | .ok () => pure (.ok ())
    | .error _ =>
        match ← update (.custom kind) obj with
        | .ok _ => pure (.ok ())
        | .error error => pure (.error error)

section Makes

variable {allowed : Call → Prop}

theorem addFinalizer_key {Body : Type} (object : Object Body) (finalizer : String) :
    (addFinalizer object finalizer).key = object.key := by
  unfold addFinalizer
  split <;> rfl

theorem ensureFinalizer_makes {kind : Kind} {finalizer : String} {object : Object kind.Body}
    (permitted : allowed (.update kind object.key)) :
    (ensureFinalizer kind finalizer object).Guarantees (Makes allowed) := by
  unfold ensureFinalizer
  split
  · exact .pure _
  · exact update_makes kind (by rwa [addFinalizer_key])

theorem ensureFinalizer_ok {kind : Kind} {finalizer : String} {object result : Object kind.Body}
    {client : Client} {session : Session}
    (succeeded : (ensureFinalizer kind finalizer object client session).1 = .ok result) :
    result.key = object.key ∧ result.metadata.annotations = object.metadata.annotations := by
  have added : (addFinalizer object finalizer).metadata.annotations =
      object.metadata.annotations := by
    unfold addFinalizer
    split <;> rfl
  unfold ensureFinalizer at succeeded
  split at succeeded
  · cases succeeded
    exact ⟨rfl, rfl⟩
  · obtain ⟨stored, -, rfl⟩ := update_ok succeeded
    exact ⟨addFinalizer_key object finalizer, added⟩

theorem updateUnstructuredStatusIfChanged_makes {kind : CustomKind} {obj : Unstructured}
    {addresses : Option (List Value)} {desiredConds : List Condition}
    (permitted : allowed (.updateStatus (.custom kind) obj.key) ∧
      allowed (.update (.custom kind) obj.key)) :
    (updateUnstructuredStatusIfChanged kind obj addresses desiredConds).Guarantees
      (Makes allowed) := by
  refine .bind now_makes fun now => ?_
  dsimp only
  split
  · exact .pure _
  · refine .bind (updateStatus_makes kind permitted.1) fun outcome => ?_
    split
    · exact .pure _
    · refine .bind (update_makes (.custom kind) permitted.2) fun outcome => ?_
      split <;> exact .pure _

end Makes

end GemEmulation.Operator
