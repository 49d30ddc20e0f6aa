import GemEmulation.Foundations.Programs
import GemEmulation.Kube.Objects

/-!
# Calls of the API server

The client of the operator as programs over the cluster.  Every call is logged
with its outcome, and the environment may make any call fail before it takes
effect.
-/

namespace GemEmulation.Kube

open Foundations

/-- The errors that the operator tells apart, and all others. -/
inductive ApiError where
  | notFound
  | alreadyExists
  | conflict
  | other (message : String)
  deriving DecidableEq, Repr

inductive Call where
  | get (kind : Kind) (key : ObjectKey)
  | list (kind : Kind) (ns : Option String) (labels : List (String × String))
  | create (kind : Kind) (key : ObjectKey)
  | update (kind : Kind) (key : ObjectKey)
  | updateStatus (kind : Kind) (key : ObjectKey)
  | delete (kind : Kind) (key : ObjectKey)
  deriving DecidableEq, Repr

def Call.isRead : Call → Bool
  | get _ _ | list _ _ _ => true
  | _ => false

/-- Which calls fail, by the number of times that the same call was made before. -/
abbrev Faults := Nat → Call → Option ApiError

def noFaults : Faults := fun _ _ => none

/-- The rank at which a list call returns an object, by the number of times that the
same call was made before. -/
abbrev Rank := Nat → Call → ObjectKey → Nat

/-- What the client meets: the calls that fail, and the order of what is listed. -/
structure Client where
  faults : Faults
  rank : Rank

/-- Without ranks, objects are listed by their keys. -/
instance : Coe Faults Client := ⟨fun faults => { faults, rank := fun _ _ _ => 0 }⟩

structure RecordedEvent where
  object : ObjectKey
  reason : String
  message : String
  deriving DecidableEq, Repr

/-- The cluster, the current time and what the client has done. -/
structure Session where
  cluster : Cluster
  now : String
  calls : List (Call × Option ApiError) := []
  events : List RecordedEvent := []

def Session.times (session : Session) (call : Call) : Nat :=
  (session.calls.map Prod.fst).count call

abbrev Api (Result : Type) := Program Client Session Result

/-- Make a call: it fails as the environment says, else it has its effect. -/
def request {Result : Type} (call : Call)
    (effect : Session → Except ApiError (Result × Cluster)) : Api (Except ApiError Result) :=
  fun client session =>
    let outcome : Except ApiError (Result × Cluster) :=
      match client.faults (session.times call) call with
      | some error => .error error
      | none => effect session
    match outcome with
    | .error error =>
        (.error error, { session with calls := session.calls ++ [(call, some error)] })
    | .ok (result, cluster) =>
        (.ok result, { session with cluster, calls := session.calls ++ [(call, none)] })

def get (kind : Kind) (key : ObjectKey) : Api (Except ApiError (Object kind.Body)) :=
  request (.get kind key) fun session =>
    match (session.cluster kind).get? key with
    | some object => .ok (object, session.cluster)
    | none => .error .notFound

/-- Whether an object passes `client.InNamespace` and `client.MatchingLabels`. -/
def selects {Body : Type} (ns : Option String) (labels : List (String × String))
    (object : Object Body) : Bool :=
  (match ns with
    | some ns => decide (object.key.ns = ns)
    | none => true) &&
  labels.all fun (name, value) => decide (object.metadata.labels.get? name = some value)

def listed {Body : Type} (store : Store Body) (ns : Option String)
    (labels : List (String × String)) : List (Object Body) :=
  store.list.filter (selects ns labels)

def arranged {Body : Type} (rank : ObjectKey → Nat) (objects : List (Object Body)) :
    List (Object Body) :=
  objects.insertionSort fun first second => rank first.key ≤ rank second.key

theorem arranged_perm {Body : Type} (rank : ObjectKey → Nat) (objects : List (Object Body)) :
    (arranged rank objects).Perm objects := List.perm_insertionSort _ objects

@[simp]
theorem arranged_unranked {Body : Type} (objects : List (Object Body)) :
    arranged (fun _ => 0) objects = objects := by
  induction objects with
  | nil => rfl
  | cons object rest inductionHypothesis =>
      have sorted : rest.insertionSort (fun _ _ => 0 ≤ 0) = rest := inductionHypothesis
      rw [arranged, List.insertionSort_cons, sorted]
      cases rest <;> simp [List.orderedInsert]

def list (kind : Kind) (ns : Option String := none)
    (labels : List (String × String) := []) :
    Api (Except ApiError (List (Object kind.Body))) := fun client session =>
  let call := Call.list kind ns labels
  request call (fun session =>
    .ok (arranged (client.rank (session.times call) call)
      (listed (session.cluster kind) ns labels), session.cluster)) client session

def withStatus (fields : Fields) : Option Value → Fields
  | some status => setEntry "status" status fields
  | none => fields.filter fun entry => decide (entry.1 ≠ "status")

/-- Whether the definition of a custom resource has a status subresource. -/
def CustomKind.hasStatus : CustomKind → Bool
  | network | gateway | gkeGatewayCIDR | gkeL4Route | gkeEndpointSelector => true
  | _ => false

/-- An update leaves the status of such resources alone. -/
def updatedBody : (kind : Kind) → (stored sent : kind.Body) → kind.Body
  | .custom kind, stored, sent =>
      if kind.hasStatus then withStatus sent (lookupEntry "status" stored) else sent
  | .pod, _, sent
  | .service, _, sent
  | .endpointSlice, _, sent
  | .configMap, _, sent
  | .namespace, _, sent => sent

def create (kind : Kind) (object : Object kind.Body) : Api (Except ApiError Unit) :=
  request (.create kind object.key) fun session =>
    match (session.cluster kind).get? object.key with
    | some _ => .error .alreadyExists
    | none => .ok ((), session.cluster.put kind object)

def updated (kind : Kind) (stored sent : Object kind.Body) : Object kind.Body where
  metadata := { sent.metadata with
    uid := stored.metadata.uid
    deletionTimestamp := stored.metadata.deletionTimestamp }
  body := updatedBody kind stored.body sent.body

/-- Store an object, unless it is being deleted and has lost its last
finalizer. -/
def settle (cluster : Cluster) (kind : Kind) (object : Object kind.Body) : Cluster :=
  if object.metadata.deletionTimestamp.isSome ∧ object.metadata.finalizers = [] then
    cluster.remove kind object.key
  else cluster.put kind object

def update (kind : Kind) (object : Object kind.Body) :
    Api (Except ApiError (Object kind.Body)) :=
  request (.update kind object.key) fun session =>
    match (session.cluster kind).get? object.key with
    | none => .error .notFound
    | some stored =>
        let object := updated kind stored object
        .ok (object, settle session.cluster kind object)

def updateStatus (kind : CustomKind) (object : Unstructured) : Api (Except ApiError Unit) :=
  request (.updateStatus (.custom kind) object.key) fun session =>
    match (session.cluster (.custom kind)).get? object.key with
    | none => .error .notFound
    | some stored =>
        if kind.hasStatus then
          .ok ((), session.cluster.put (.custom kind)
            { stored with body := withStatus stored.body (lookupEntry "status" object.body) })
        else .error .notFound

def marked {Body : Type} (object : Object Body) (now : String) : Object Body :=
  { object with metadata := { object.metadata with
      deletionTimestamp := object.metadata.deletionTimestamp.getD now } }

/-- Pods are deleted gracefully and objects with finalizers wait for them. -/
def delete (kind : Kind) (key : ObjectKey) : Api (Except ApiError Unit) :=
  request (.delete kind key) fun session =>
    match (session.cluster kind).get? key with
    | none => .error .notFound
    | some stored =>
        if kind = .pod ∨ stored.metadata.finalizers ≠ [] then
          .ok ((), session.cluster.put kind (marked stored session.now))
        else .ok ((), session.cluster.remove kind key)

def Session.logged (session : Session) (call : Call) (error : Option ApiError) : Session :=
  { session with calls := session.calls ++ [(call, error)] }

@[simp]
theorem Session.logged_cluster (session : Session) (call : Call) (error : Option ApiError) :
    (session.logged call error).cluster = session.cluster := rfl

@[simp]
theorem Session.times_logged (session : Session) (call : Call) (error : Option ApiError) :
    (session.logged call error).times call = session.times call + 1 := by
  simp [Session.times, Session.logged]

theorem listed_all {Body : Type} (store : Store Body) : listed store none [] = store.list := by
  simp [listed, selects]

theorem mem_listed {Body : Type} {store : Store Body} {ns : Option String}
    {labels : List (String × String)} {object : Object Body} :
    object ∈ listed store ns labels ↔
      store.get? object.key = some object ∧ selects ns labels object = true := by
  rw [listed, List.mem_filter, Store.mem_list]

theorem get_cluster (kind : Kind) (key : ObjectKey) (client : Client) (session : Session) :
    (get kind key client session).2.cluster = session.cluster := by
  simp only [get, request]
  split
  · rfl
  · next result cluster outcome =>
      split at outcome
      · contradiction
      · split at outcome <;> cases outcome
        rfl

theorem list_cluster (kind : Kind) (ns : Option String) (labels : List (String × String))
    (client : Client) (session : Session) :
    (list kind ns labels client session).2.cluster = session.cluster := by
  simp only [list, request]
  split
  · rfl
  · next result cluster outcome =>
      split at outcome <;> cases outcome
      rfl

theorem get_ok {kind : Kind} {key : ObjectKey} {client : Client} {session : Session}
    {object : Object kind.Body} (found : (get kind key client session).1 = .ok object) :
    (session.cluster kind).get? key = some object := by
  simp only [get, request] at found
  split at found
  · contradiction
  · next result cluster outcome =>
      split at outcome
      · contradiction
      · split at outcome <;> cases outcome
        cases found
        assumption

/-- A successful list returns all objects that it selects, by their ranks. -/
theorem list_arranged {kind : Kind} {ns : Option String} {labels : List (String × String)}
    {client : Client} {session : Session} {objects : List (Object kind.Body)}
    (found : (list kind ns labels client session).1 = .ok objects) :
    objects = arranged (client.rank (session.times (.list kind ns labels)) (.list kind ns labels))
      (listed (session.cluster kind) ns labels) := by
  simp only [list, request] at found
  split at found
  · contradiction
  · next result cluster outcome =>
      split at outcome <;> cases outcome
      cases found
      rfl

theorem list_ok {kind : Kind} {ns : Option String} {labels : List (String × String)}
    {faults : Faults} {session : Session} {objects : List (Object kind.Body)}
    (found : (list kind ns labels faults session).1 = .ok objects) :
    objects = listed (session.cluster kind) ns labels :=
  (list_arranged found).trans (arranged_unranked _)

theorem get_noFaults {rank : Rank} (kind : Kind) (key : ObjectKey) (session : Session) :
    (get kind key ⟨noFaults, rank⟩ session).1 =
      match (session.cluster kind).get? key with
      | some object => .ok object
      | none => .error .notFound := by
  simp only [get, request, noFaults]
  cases (session.cluster kind).get? key <;> rfl

theorem list_ranked {rank : Rank} (kind : Kind) (ns : Option String)
    (labels : List (String × String)) (session : Session) :
    (list kind ns labels ⟨noFaults, rank⟩ session).1 =
      .ok (arranged (rank (session.times (.list kind ns labels)) (.list kind ns labels))
        (listed (session.cluster kind) ns labels)) := rfl

theorem list_noFaults (kind : Kind) (ns : Option String) (labels : List (String × String))
    (session : Session) :
    (list kind ns labels noFaults session).1 =
      .ok (listed (session.cluster kind) ns labels) :=
  congrArg Except.ok (arranged_unranked _)

/-- `record.EventRecorder.Event`. -/
def recordEvent (event : RecordedEvent) : Api Unit :=
  fun _ session => ((), { session with events := session.events ++ [event] })

/-- `metav1.Now` in RFC 3339. -/
def now : Api String := fun _ session => (session.now, session)

/-- `retry.RetryOnConflict` with so many retries. -/
def retryOnConflict (attempt : Api (Except ApiError Unit)) :
    Nat → Api (Except ApiError Unit)
  | 0 => attempt
  | retries + 1 => do
      match ← attempt with
      | .error .conflict => retryOnConflict attempt retries
      | outcome => pure outcome

/-- The retries of `retry.DefaultRetry`, which has five steps. -/
def defaultRetries : Nat := 4

/-- `controllerutil.ContainsFinalizer`. -/
def containsFinalizer {Body : Type} (object : Object Body) (finalizer : String) : Bool :=
  decide (finalizer ∈ object.metadata.finalizers)

/-- `controllerutil.AddFinalizer`. -/
def addFinalizer {Body : Type} (object : Object Body) (finalizer : String) : Object Body :=
  if containsFinalizer object finalizer then object
  else { object with metadata := { object.metadata with
      finalizers := object.metadata.finalizers ++ [finalizer] } }

/-- `controllerutil.RemoveFinalizer`. -/
def removeFinalizer {Body : Type} (object : Object Body) (finalizer : String) : Object Body :=
  { object with metadata := { object.metadata with
      finalizers := object.metadata.finalizers.filter fun other => decide (other ≠ finalizer) } }

/-- `client.IgnoreNotFound`. -/
def ignoreNotFound : ApiError → Option ApiError
  | .notFound => none
  | error => some error

end GemEmulation.Kube
