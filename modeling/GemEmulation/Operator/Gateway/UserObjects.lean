import GemEmulation.Operator.LevelTriggered

/-!
# Objects that users create

The reconciler knows the Service and the EndpointSlice of a Gateway by their names
only.  It leaves the objects of users alone as long as no Gateway that it manages
has the name of one of them.
-/

namespace GemEmulation.Operator

open Foundations Kube

def sharedKinds : List Kind := [.service, .endpointSlice]

/-- A cluster that tells which objects users have created, and which Services and
EndpointSlices of theirs a Reconcile has updated or deleted. -/
structure SharedState where
  cluster : Cluster
  userCreated : Kind → ObjectKey → Bool
  harmed : List (Kind × ObjectKey)

/-- What happens to the cluster: users store or remove objects, and the reconciler
reconciles Gateways. -/
inductive SharedEvent where
  | edit (kind : Kind) (object : Object kind.Body)
  | discard (kind : Kind) (key : ObjectKey)
  | reconcile (key : ObjectKey) (now : String) (client : Client)

def overwritten : Call → Option (Kind × ObjectKey)
  | .update kind key | .updateStatus kind key | .delete kind key => some (kind, key)
  | _ => none

namespace SharedState

def initial (cluster : Cluster) : SharedState where
  cluster
  userCreated kind key := ((cluster kind).get? key).isSome
  harmed := []

/-- Whether users have created an object: whoever stores it first has. -/
def creators (state : SharedState) (byUser : Bool) (cluster : Cluster) (kind : Kind)
    (key : ObjectKey) : Bool :=
  ((cluster kind).get? key).isSome &&
    if ((state.cluster kind).get? key).isSome then state.userCreated kind key else byUser

/-- The object of a user that a call has updated or deleted, unless it was refused. -/
def harms (state : SharedState) : Call × Option ApiError → Option (Kind × ObjectKey)
  | (call, none) => (overwritten call).filter fun target =>
      target.1 ∈ sharedKinds && state.userCreated target.1 target.2
  | (_, some _) => none

end SharedState

def sharedStep (state : SharedState) : SharedEvent → Option SharedState
  | .edit kind object =>
      let cluster := state.cluster.put kind object
      some { state with cluster, userCreated := state.creators true cluster }
  | .discard kind key =>
      let cluster := state.cluster.remove kind key
      some { state with cluster, userCreated := state.creators true cluster }
  | .reconcile key now client =>
      let after := (reconcileGateway key client { cluster := state.cluster, now }).2
      some {
        cluster := after.cluster
        userCreated := state.creators false after.cluster
        harmed := state.harmed ++ after.calls.filterMap state.harms }

/-- Nothing that users have created has a name which the reconciler uses for the
Gateway. -/
def SharedState.NamesFree (state : SharedState) (key : ObjectKey) : Prop :=
  state.userCreated .service key = false ∧ state.userCreated .endpointSlice (sliceKey key) = false

/-- A Gateway that is managed when it is reconciled has its names for itself. -/
def SparesUserObjects (state : SharedState) : SharedEvent → Prop
  | .reconcile key _ _ => ∀ gw, (state.cluster .gateway).get? key = some gw →
      Managed state.cluster gw → state.NamesFree key
  | _ => True

theorem overwritten_target {call : Call} {target : Kind × ObjectKey}
    (overwrites : overwritten call = some target) : call.target = some target := by
  cases call <;> cases overwrites <;> rfl

theorem harms_of_makes {state : SharedState} {allowed : Call → Prop} {before after : Session}
    (makes : Makes allowed before after) (fresh : before.calls = [])
    (spares : ∀ call, allowed call → ∀ kind key, call.target = some (kind, key) →
      kind ∈ sharedKinds → state.userCreated kind key = false) :
    after.calls.filterMap state.harms = [] := by
  obtain ⟨made, grown, forms, -⟩ := makes
  rw [grown, fresh, List.nil_append, List.filterMap_eq_nil_iff]
  rintro ⟨call, error⟩ membership
  cases error with
  | some error => rfl
  | none =>
      rw [SharedState.harms, Option.filter_eq_none_iff]
      rintro ⟨kind, key⟩ overwrites
      simp only [Bool.and_eq_true, decide_eq_true_eq, not_and, Bool.not_eq_true]
      exact spares call (forms _ membership) kind key (overwritten_target overwrites)

theorem aside_sparesUsers (state : SharedState) (call : Call) (aside : Aside call) (kind : Kind)
    (key : ObjectKey) (target : call.target = some (kind, key)) (shared : kind ∈ sharedKinds) :
    state.userCreated kind key = false := by
  have apart : ∀ other ∈ sharedKinds, other ∉ asideKinds := by decide
  exact absurd (aside kind key target) (apart kind shared)

/-- A Reconcile that spares the users updates and deletes nothing of theirs. -/
theorem reconcile_harmless {state : SharedState} {key : ObjectKey} {now : String} {client : Client}
    (spares : SparesUserObjects state (.reconcile key now client)) :
    (reconcileGateway key client { cluster := state.cluster, now }).2.calls.filterMap
      state.harms = [] := by
  by_cases managed : ∃ gw, (state.cluster .gateway).get? key = some gw ∧ Managed state.cluster gw
  · obtain ⟨gw, found, manages⟩ := managed
    obtain ⟨service, slice⟩ := spares gw found manages
    apply harms_of_makes (reconcileGateway_makes key client _) rfl
    rintro call (aside | same | same) kind written target shared
    · exact aside_sparesUsers state call aside kind written target shared
    · cases target.symm.trans same
      exact service
    · cases target.symm.trans same
      exact slice
  · refine harms_of_makes (reconcileGateway_idle fun gw found manages => ?_) rfl
      (aside_sparesUsers state)
    exact managed ⟨gw, found, manages⟩

/-- Nothing of the users was updated or deleted. -/
def SharedState.Unharmed (state : SharedState) : Prop := state.harmed = []

theorem sharedStep_unharmed {state next : SharedState} {event : SharedEvent}
    (unharmed : state.Unharmed) (spares : SparesUserObjects state event)
    (stepped : sharedStep state event = some next) : next.Unharmed := by
  cases event with
  | edit kind object =>
      cases stepped
      exact unharmed
  | discard kind key =>
      cases stepped
      exact unharmed
  | reconcile key now client =>
      cases stepped
      have harmless := reconcile_harmless spares
      simp only [SharedState.Unharmed] at unharmed ⊢
      rw [harmless, List.append_nil, unharmed]

/-- No object of a user is updated or deleted in a run in which every managed Gateway
has its names for itself. -/
theorem userObjects_unharmed {cluster : Cluster} {events : List SharedEvent} {state : SharedState}
    (run : Run sharedStep SparesUserObjects (.initial cluster) events state) : state.Unharmed := by
  have base : (SharedState.initial cluster).Unharmed := rfl
  exact run.invariant base sharedStep_unharmed

/-- A user's Service beside a Gateway of another name, which a route makes the
reconciler program. -/
def besideGateway : List SharedEvent :=
  [.edit .service (plainService ⟨"default", "web"⟩ "10.96.0.1"),
    .edit .gateway (staticGateway (.singleton annotationNetwork "n")),
    .edit .gkeL4Route boundRoute, .reconcile gatewayKey "" noFaults]

def underGateway : List SharedEvent :=
  [.edit .service (plainService gatewayKey "10.96.0.1"),
    .edit .gateway (staticGateway (.singleton annotationNetwork "n")),
    .reconcile gatewayKey "" noFaults]

/-- Nothing that users have created has the names of the Gateway that is reconciled. -/
def namesFree (state : SharedState) : SharedEvent → Bool
  | .reconcile key _ _ => !state.userCreated .service key &&
      !state.userCreated .endpointSlice (sliceKey key)
  | _ => true

theorem sparesUserObjects_of_namesFree (state : SharedState) (event : SharedEvent)
    (free : namesFree state event = true) : SparesUserObjects state event := by
  cases event with
  | edit kind object => trivial
  | discard kind key => trivial
  | reconcile key now client =>
      simp only [namesFree, Bool.and_eq_true, Bool.not_eq_true'] at free
      exact fun _ _ _ => free

theorem userObjects_unharmed_beside : ∃ state,
    Run sharedStep SparesUserObjects (.initial ∅) besideGateway state ∧ state.Unharmed ∧
      ((state.cluster .service).get? gatewayKey).isSome = true := by
  have programmed : (executeChecked sharedStep namesFree (.initial ∅) besideGateway).any
      (fun state => ((state.cluster .service).get? gatewayKey).isSome) = true := by
    decide
  obtain ⟨state, executed, written⟩ := (Option.any_eq_true _ _).mp programmed
  have run := run_of_executeChecked sparesUserObjects_of_namesFree executed
  exact ⟨state, run, userObjects_unharmed run, written⟩

/-- The Reconcile of a Gateway without routes deletes the user's Service. -/
theorem underGateway_deletesService : ∃ state,
    Run sharedStep Anything (.initial ∅) underGateway state ∧ ¬ state.Unharmed ∧
      state.harmed = [(.service, gatewayKey)] ∧
      (state.cluster .service).get? gatewayKey = none := by
  have deleted : (execute sharedStep (.initial ∅) underGateway).any (fun state =>
      decide (state.harmed = [(.service, gatewayKey)]) &&
        ((state.cluster .service).get? gatewayKey).isNone) = true := by
    decide
  obtain ⟨state, executed, check⟩ := (Option.any_eq_true _ _).mp deleted
  obtain ⟨harmed, gone⟩ := (Bool.and_eq_true _ _).mp check
  have harmed : state.harmed = [(.service, gatewayKey)] := of_decide_eq_true harmed
  refine ⟨state, run_of_execute executed, fun unharmed => ?_, harmed,
    Option.isNone_iff_eq_none.mp gone⟩
  cases harmed.symm.trans unharmed

end GemEmulation.Operator
