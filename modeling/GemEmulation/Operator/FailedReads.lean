import GemEmulation.Operator.LevelTriggered

/-!
# Failing reads

A Reconcile gathers the backends from many reads and takes a failed one for an
empty one.  It keeps an endpoint that is still wanted exactly when some read
that shows the endpoint gets through, or the EndpointSlice is not overwritten.
-/

namespace GemEmulation.Operator

open Foundations Kube

section Reads

variable (faults : Faults) (cluster : Cluster) (ns targetNetwork : String)

def selectorCall (ref : BackendRef) : Call := .get .gkeEndpointSelector ⟨ns, ref.epSelectorName⟩

def readLabels (made : List Call) (ref : BackendRef) : Option (List (String × String)) :=
  if faults (made.count (selectorCall ns ref)) (selectorCall ns ref) = none then
    ((cluster .gkeEndpointSelector).get? ⟨ns, ref.epSelectorName⟩).bind selectorLabels
  else none

def withReads (made : List Call) (ref : BackendRef) : List Call :=
  made ++ selectorCall ns ref ::
    ((readLabels faults cluster ns made ref).map (.list .pod (some ns))).toList

def readsFor (refs : List BackendRef) : List Call := refs.foldl (withReads faults cluster ns) []

/-- The addresses that are read for a reference after some other calls. -/
def readAddresses (made : List Call) (ref : BackendRef) : List String :=
  match readLabels faults cluster ns made ref with
  | none => []
  | some matchLabels =>
      let call := Call.list .pod (some ns) matchLabels
      if faults (made.count call) call = none then
        (listed (cluster .pod) (some ns) matchLabels).flatMap (secondaryAddresses targetNetwork)
      else []

/-- The reads for one of the references get through and show the address. -/
def ReadFor (refs : List BackendRef) (address : String) : Prop :=
  ∃ front ref rest, refs = front ++ ref :: rest ∧
    address ∈ readAddresses faults cluster ns targetNetwork (readsFor faults cluster ns front) ref

variable {faults cluster ns targetNetwork}

theorem readFor_snoc {refs : List BackendRef} {ref : BackendRef} {address : String} :
    ReadFor faults cluster ns targetNetwork (refs ++ [ref]) address ↔
      ReadFor faults cluster ns targetNetwork refs address ∨
        address ∈ readAddresses faults cluster ns targetNetwork
          (readsFor faults cluster ns refs) ref := by
  constructor
  · rintro ⟨front, other, rest, whole, shown⟩
    rcases List.eq_nil_or_concat rest with rfl | ⟨init, last, rfl⟩
    · obtain ⟨rfl, same⟩ := List.append_inj' whole rfl
      cases same
      exact .inr shown
    · have split : refs ++ [ref] = (front ++ other :: init) ++ [last] := by simp [whole]
      exact .inl ⟨front, other, init, (List.append_inj' split rfl).1, shown⟩
  · rintro (⟨front, other, rest, rfl, shown⟩ | shown)
    · exact ⟨front, other, rest ++ [ref], by simp, shown⟩
    · exact ⟨refs, ref, [], rfl, shown⟩

end Reads

def GatheringRead (call : Call) : Prop := call.isRead = true ∧ GatheringCall call

def HasMade (made : List Call) (session : Session) : Prop :=
  ∀ call, GatheringRead call → session.times call = made.count call

theorem hasMade_get {made : List Call} {session : Session} {kind : Kind} {key : ObjectKey}
    {faults : Faults} (before : HasMade made session) :
    HasMade (made ++ [.get kind key]) (get kind key faults session).2 := by
  intro call reading
  rw [get_times, before call reading, List.count_append]

theorem hasMade_list {made : List Call} {session : Session} {kind : Kind} {ns : Option String}
    {labels : List (String × String)} {faults : Faults} (before : HasMade made session) :
    HasMade (made ++ [.list kind ns labels]) (list kind ns labels faults session).2 := by
  intro call reading
  rw [list_times, before call reading, List.count_append]

theorem collectEndpointsForSelector_reads (faults : Faults) (gw : Unstructured)
    (targetNetwork : String) (ref : BackendRef) {made : List Call}
    (seenAddresses : List String) {session : Session} (before : HasMade made session) :
    let collected := collectEndpointsForSelector gw ref.epSelectorName targetNetwork seenAddresses
      faults session
    collected.1 = unseen seenAddresses
        (readAddresses faults session.cluster gw.key.ns targetNetwork made ref) ∧
      HasMade (withReads faults session.cluster gw.key.ns made ref) collected.2 := by
  have gotten : HasMade (made ++ [selectorCall gw.key.ns ref])
      (get .gkeEndpointSelector ⟨gw.key.ns, ref.epSelectorName⟩ faults session).2 :=
    hasMade_get before
  have cluster := get_cluster .gkeEndpointSelector ⟨gw.key.ns, ref.epSelectorName⟩ faults session
  have times := before (selectorCall gw.key.ns ref) ⟨rfl, rfl⟩
  simp only [collectEndpointsForSelector, Program.bind_apply, readAddresses, withReads, readLabels,
    ← times]
  set read := (get .gkeEndpointSelector ⟨gw.key.ns, ref.epSelectorName⟩ faults session).2
  cases failing : faults (session.times (selectorCall gw.key.ns ref))
      (selectorCall gw.key.ns ref) with
  | some error =>
      rw [get_refused failing]
      exact ⟨rfl, gotten⟩
  | none =>
      simp only [get_granted failing, if_true]
      cases (session.cluster .gkeEndpointSelector).get? ⟨gw.key.ns, ref.epSelectorName⟩ with
      | none => exact ⟨rfl, gotten⟩
      | some epSel =>
          simp only [Option.bind_some]
          cases selectorLabels epSel with
          | none => exact ⟨rfl, gotten⟩
          | some matchLabels =>
              have listing : HasMade
                  (made ++ [selectorCall gw.key.ns ref] ++
                    [.list .pod (some gw.key.ns) matchLabels])
                  (list .pod (some gw.key.ns) matchLabels faults read).2 := hasMade_list gotten
              have podTimes := gotten (.list .pod (some gw.key.ns) matchLabels) ⟨rfl, rfl⟩
              have fresh : (made ++ [selectorCall gw.key.ns ref]).count
                  (.list .pod (some gw.key.ns) matchLabels) =
                    made.count (.list .pod (some gw.key.ns) matchLabels) := by
                simp [selectorCall]
              rw [fresh] at podTimes
              rw [List.append_assoc] at listing
              simp only [Program.bind_apply, ← podTimes]
              cases failing : faults (read.times (.list .pod (some gw.key.ns) matchLabels))
                  (.list .pod (some gw.key.ns) matchLabels) with
              | some error =>
                  rw [list_refused failing]
                  exact ⟨rfl, listing⟩
              | none =>
                  rw [list_granted failing, cluster]
                  exact ⟨rfl, listing⟩

section Gathering

variable (faults : Faults) (gw : Unstructured) (targetNetwork : String) (start : Session)

/-- The backends after some references are those that were read. -/
structure GathersRead (refs : List BackendRef) (backends : Backends) (session : Session) :
    Prop where
  makes : Makes GatheringCall start session
  made : HasMade (readsFor faults start.cluster gw.key.ns refs) session
  addresses : ∀ address, address ∈ backends.backendAddresses ↔
    ReadFor faults start.cluster gw.key.ns targetNetwork refs address
  nonempty : backends.haveBackendRefs = true ↔ refs ≠ []

theorem readLabels_of_makes {before after : Session} (makes : Makes GatheringCall before after)
    (ns : String) :
    readLabels faults after.cluster ns = readLabels faults before.cluster ns := by
  funext made ref
  have selectors : (after.cluster .gkeEndpointSelector).get? ⟨ns, ref.epSelectorName⟩ =
      (before.cluster .gkeEndpointSelector).get? ⟨ns, ref.epSelectorName⟩ :=
    makes.unchanged fun call permitted => by
      cases call <;> simp_all [GatheringCall, Call.target]
  rw [readLabels, readLabels, selectors]

theorem readAddresses_of_makes {before after : Session} (makes : Makes GatheringCall before after)
    (ns : String) :
    readAddresses faults after.cluster ns targetNetwork =
      readAddresses faults before.cluster ns targetNetwork := by
  have pods : ∀ ns labels, listed (after.cluster .pod) ns labels =
      listed (before.cluster .pod) ns labels := makes.listed_unchanged fun call permitted key => by
    cases call <;> simp_all [GatheringCall, Call.target]
  funext made ref
  simp only [readAddresses, readLabels_of_makes faults makes, pods]

theorem addBackendRef_gathersRead (refs : List BackendRef) (backends : Backends)
    (ref : BackendRef) :
    Program.Triple (faults : Client) (GathersRead faults gw targetNetwork start refs backends)
      (addBackendRef gw targetNetwork backends ref)
      (GathersRead faults gw targetNetwork start (refs ++ [ref])) := by
  intro session before
  have makes := addBackendRef_makes gw targetNetwork backends ref faults session
  obtain ⟨added, made⟩ := collectEndpointsForSelector_reads faults gw targetNetwork ref
    backends.backendAddresses before.made
  rw [readAddresses_of_makes faults targetNetwork before.makes] at added
  rw [withReads, readLabels_of_makes faults before.makes] at made
  refine ⟨IsTrans.trans _ _ _ before.makes makes, ?_, fun address => ?_, ?_⟩
  · rw [readsFor, List.foldl_append]
    exact made
  · simp only [addBackendRef, Program.bind_apply, Program.pure_apply, List.mem_append, added,
      mem_unseen, readFor_snoc, before.addresses]
    tauto
  · simp [addBackendRef, Program.bind_apply]

theorem addRoute_gathersRead (front : List Unstructured) (backends : Backends)
    (route : Unstructured) :
    Program.Triple (faults : Client)
      (GathersRead faults gw targetNetwork start (boundRefs gw front) backends)
      (addRoute gw targetNetwork backends route)
      (GathersRead faults gw targetNetwork start (boundRefs gw (front ++ [route]))) := by
  unfold addRoute
  split
  next bound =>
    have refs : boundRefs gw (front ++ [route]) = boundRefs gw front ++ backendRefs route := by
      simp [boundRefs, bound]
    rw [refs]
    refine .bind (Program.Triple.foldlM (fun done =>
      GathersRead faults gw targetNetwork start (boundRefs gw front ++ done)) ?_ backends
        |>.consequence (fun session holds => by rwa [List.append_nil]) fun _ _ =>
          id) fun added => ?_
    · intro done ref rest _ result
      rw [← List.append_assoc]
      exact addBackendRef_gathersRead faults gw targetNetwork start _ result ref
    · intro session before
      have makes : Makes (fun call => call = .updateStatus .gkeL4Route route.key ∨
          call = .update .gkeL4Route route.key) session
          (updateUnstructuredStatusIfChanged .gkeL4Route route none routeConds faults session).2 :=
        updateUnstructuredStatusIfChanged_makes ⟨.inl rfl, .inr rfl⟩ faults session
      refine ⟨IsTrans.trans _ _ _ before.makes (makes.weaken ?_), fun call reading => ?_,
        before.addresses, before.nonempty⟩
      · rintro call (rfl | rfl) <;> exact rfl
      · refine (makes.times_eq ?_).trans (before.made call reading)
        rintro (rfl | rfl) <;> cases reading.1
  next unbound =>
    have refs : boundRefs gw (front ++ [route]) = boundRefs gw front := by
      simp [boundRefs, unbound]
    rw [refs]
    exact .pure fun _ holds => holds

/-- The loops gather what is read for the references of the bound routes. -/
theorem addRoutes_gathersRead (routes : List Unstructured) (fresh : HasMade [] start) :
    Program.Triple (faults : Client) (· = start) (routes.foldlM (addRoute gw targetNetwork) {})
      (GathersRead faults gw targetNetwork start (boundRefs gw routes)) := by
  refine (Program.Triple.foldlM (fun done =>
    GathersRead faults gw targetNetwork start (boundRefs gw done)) ?_
      {}).consequence ?_ fun _ _ => id
  · exact fun front route rest _ backends =>
      addRoute_gathersRead faults gw targetNetwork start front backends route
  · rintro session rfl
    refine ⟨Std.Refl.refl _, fresh, fun address => ?_, by simp [boundRefs]⟩
    simp [ReadFor, boundRefs]

end Gathering

/-- The address is among the endpoints of the Gateway, whose EndpointSlice is not
being deleted. -/
def Serves (cluster : Cluster) (key : ObjectKey) (address : String) : Prop :=
  ∃ slice, (cluster .endpointSlice).get? (sliceKey key) = some slice ∧ Undeleted slice ∧
    ∃ endpoint ∈ slice.body.endpoints, address ∈ endpoint.addresses

/-- A bound route selects a running and ready Pod with the address on the Network of
the Gateway, which is not being deleted. -/
structure Wants (cluster : Cluster) (gw : Unstructured) (address : String) : Prop where
  undeleted : Undeleted gw
  network : annotationOf gw annotationNetwork ≠ ""
  selected : ∃ ref ∈ boundRefs gw (listed (cluster .gkeL4Route) (some gw.key.ns) []),
    address ∈ selectorAddresses cluster gw.key.ns ref.epSelectorName
      (annotationOf gw annotationNetwork)

/-- The reads up to that of the EndpointSlice get through, and there is a VIP. -/
structure Overwrites (faults : Faults) (cluster : Cluster) (gw : Unstructured) : Prop where
  gateway : faults 0 (.get .gateway gw.key) = none
  vip : gatewayVIP cluster gw (annotationOf gw annotationNetwork) ≠ ""
  cidrs : staticAddress gw = none → faults 0 (.list .gkeGatewayCIDR none []) = none
  routes : faults 0 (.list .gkeL4Route (some gw.key.ns) []) = none
  slice : LetsThrough faults (.get .endpointSlice (sliceKey gw.key)) 0 defaultRetries

def StillRead (faults : Faults) (cluster : Cluster) (gw : Unstructured) (address : String) : Prop :=
  ReadFor faults cluster gw.key.ns (annotationOf gw annotationNetwork)
    (boundRefs gw (listed (cluster .gkeL4Route) (some gw.key.ns) [])) address

theorem serves_congr {cluster other : Cluster} {key : ObjectKey} (address : String)
    (same : (cluster .endpointSlice).get? (sliceKey key) =
      (other .endpointSlice).get? (sliceKey key)) :
    Serves cluster key address ↔ Serves other key address := by
  rw [Serves, Serves, same]

theorem serves_storedAs {cluster : Cluster} {key : ObjectKey} {ports : List Int}
    {backendAddresses : List String} {address : String}
    (stored : StoredAs .endpointSlice (gatewaySlice key ports backendAddresses) cluster) :
    Serves cluster key address ↔ address ∈ backendAddresses := by
  obtain ⟨slice, found, same, undeleted⟩ := stored
  have endpoints : slice.body.endpoints = backendAddresses.map fun addr => ⟨[addr], some true⟩ :=
    congrArg (fun managed : _ × EndpointSliceBody => managed.2.endpoints) same
  constructor
  · rintro ⟨slice', found', -, endpoint, listed, carries⟩
    cases found.symm.trans found'
    rw [endpoints] at listed
    obtain ⟨addr, gathered, rfl⟩ := List.mem_map.mp listed
    rwa [List.mem_singleton.mp carries]
  · intro gathered
    refine ⟨slice, found, undeleted, ⟨[address], some true⟩, ?_, List.mem_singleton_self _⟩
    rw [endpoints]
    exact List.mem_map_of_mem gathered

section Routes

variable {faults : Faults} {gw : Unstructured} {session : Session} {address : String}

theorem writeServiceAndEndpointSlice_serves (reads : ReadFaults faults)
    (served : Serves session.cluster gw.key address)
    (fresh : session.times (.get .endpointSlice (sliceKey gw.key)) = 0) (gwIP : String)
    (ports : List Int) (backendAddresses : List String) :
    Serves (writeServiceAndEndpointSlice gw gwIP ports backendAddresses faults session).2.cluster
        gw.key address ↔
      (LetsThrough faults (.get .endpointSlice (sliceKey gw.key)) 0 defaultRetries →
        address ∈ backendAddresses) := by
  have service := applyService_makes (gatewayService gw.key gwIP ports) faults session
  set middle := (applyService (gatewayService gw.key gwIP ports) faults session).2
  have sameSlice : (middle.cluster .endpointSlice).get? (sliceKey gw.key) =
      (session.cluster .endpointSlice).get? (sliceKey gw.key) :=
    service.unchanged fun call applies => by
      rcases applies with rfl | rfl | rfl <;> simp [Call.target]
  have times : middle.times (.get .endpointSlice (sliceKey gw.key)) = 0 :=
    (service.times_eq (by simp [AppliesTo])).trans fresh
  obtain ⟨slice, found, undeleted, endpoint⟩ := served
  have applied : (writeServiceAndEndpointSlice gw gwIP ports backendAddresses faults session).2 =
      (applyEndpointSlice (gatewaySlice gw.key ports backendAddresses) faults middle).2 := rfl
  rw [applied]
  by_cases through : LetsThrough faults (.get .endpointSlice (sliceKey gw.key)) 0 defaultRetries
  · have stored : StoredAs .endpointSlice (gatewaySlice gw.key ports backendAddresses)
        (applyEndpointSlice (gatewaySlice gw.key ports backendAddresses) faults
          middle).2.cluster := applyEndpointSlice_stored _ reads rfl
      (fun stored
          (present : (middle.cluster .endpointSlice).get? (sliceKey gw.key) = some stored) =>
        by
          rw [sameSlice, found] at present
          cases present
          exact undeleted)
      (times.symm ▸ through)
    rw [serves_storedAs stored]
    exact ⟨fun gathered _ => gathered, fun gathered => gathered through⟩
  · have kept : (applyEndpointSlice (gatewaySlice gw.key ports backendAddresses) faults
        middle).2.cluster = middle.cluster := applyObject_failed reads (times.symm ▸ through)
    rw [kept, serves_congr address sameSlice]
    exact iff_of_true ⟨slice, found, undeleted, endpoint⟩ fun read => absurd read through

theorem reconcileRoutesAndEndpoints_serves (reads : ReadFaults faults)
    (served : Serves session.cluster gw.key address)
    (bound : boundRefs gw (listed (session.cluster .gkeL4Route) (some gw.key.ns) []) ≠ [])
    (fresh : ∀ call, call.isRead = true →
      call ∉ [.get .gateway gw.key, .list .gkeGatewayCIDR none []] →
      session.times call = 0) (gwIP : String) :
    Serves (reconcileRoutesAndEndpoints gw gwIP (annotationOf gw annotationNetwork) faults
        session).2.cluster gw.key address ↔
      (faults 0 (.list .gkeL4Route (some gw.key.ns) []) = none →
        LetsThrough faults (.get .endpointSlice (sliceKey gw.key)) 0 defaultRetries →
          StillRead faults session.cluster gw address) := by
  have first := fresh (.list .gkeL4Route (some gw.key.ns) []) rfl (by simp)
  have cluster := list_cluster .gkeL4Route (some gw.key.ns) [] faults session
  simp only [reconcileRoutesAndEndpoints, Program.bind_apply]
  set listing := (list .gkeL4Route (some gw.key.ns) [] faults session).2 with listingEq
  cases failing : faults 0 (.list .gkeL4Route (some gw.key.ns) []) with
  | some error =>
      rw [list_refused (first.symm ▸ failing)]
      simp only [Program.pure_apply, cluster, reduceCtorEq, false_implies, iff_true]
      exact served
  | none =>
      rw [list_granted (first.symm ▸ failing)]
      simp only [Program.bind_apply, true_implies]
      have unread : ∀ call, call.isRead = true → call ∉ [Call.get .gateway gw.key,
          .list .gkeGatewayCIDR none [], .list .gkeL4Route (some gw.key.ns) []] →
            listing.times call = 0 := by
        intro call read other
        simp only [List.mem_cons, List.not_mem_nil, or_false, not_or] at other
        rw [listingEq, list_times, fresh call read (by simp [other.1, other.2.1]),
          List.count_singleton, Nat.zero_add]
        simp [Ne.symm other.2.2]
      have gathered := addRoutes_gathersRead faults gw (annotationOf gw annotationNetwork) listing
        (listed (session.cluster .gkeL4Route) (some gw.key.ns) [])
        (fun call reading => unread call reading.1 (by
          have gathering := reading.2
          rintro other
          simp only [List.mem_cons, List.not_mem_nil, or_false] at other
          rcases other with rfl | rfl | rfl <;> simp [GatheringCall] at gathering)) listing rfl
      set program := (listed (session.cluster .gkeL4Route) (some gw.key.ns) []).foldlM
        (addRoute gw (annotationOf gw annotationNetwork)) {}
      have nonempty := gathered.nonempty.mpr bound
      have sameSlice := (dynamic_unchanged (gathered.makes.weaken gatheringCall_aside)
        (sliceKey gw.key)).2
      have times : (program faults listing).2.times (.get .endpointSlice (sliceKey gw.key)) = 0 :=
        (gathered.makes.times_eq (by simp [GatheringCall])).trans (unread _ rfl (by simp))
      have servedThen : Serves (program faults listing).2.cluster gw.key address := by
        rwa [serves_congr address sameSlice, cluster]
      have addresses := gathered.addresses address
      rw [cluster] at addresses
      rw [if_pos nonempty]
      exact (writeServiceAndEndpointSlice_serves reads servedThen times _ _ _).trans
        (imp_congr_right fun _ => addresses)

theorem programGateway_serves (gwIP targetNetwork : String) :
    Serves (programGateway gw gwIP targetNetwork faults session).2.cluster gw.key address ↔
      Serves (reconcileRoutesAndEndpoints gw gwIP targetNetwork faults session).2.cluster gw.key
        address := by
  have rest : ∀ backendCount, Program.Guarantees (Makes Aside) (do
      let _ ← updateUnstructuredStatusIfChanged .gateway gw (some (gatewayAddresses gwIP))
        (gatewayConditions backendCount)
      reconcileCoreDNS) := fun backendCount =>
    .bind (updateUnstructuredStatusIfChanged_makes
      ⟨aside_updateStatus _ (by decide), aside_update _ (by decide)⟩) fun _ =>
        reconcileCoreDNS_makes.weaken fun _ _ makes => makes.weaken coreDNSCall_aside
  exact serves_congr address (dynamic_unchanged (rest _ faults _) (sliceKey gw.key)).2

theorem determineGatewayIP_reads (nonempty : annotationOf gw annotationNetwork ≠ "")
    (fresh : session.times (.list .gkeGatewayCIDR none []) = 0) :
    (determineGatewayIP gw (annotationOf gw annotationNetwork) faults session).1 =
      if staticAddress gw = none ∧ faults 0 (.list .gkeGatewayCIDR none []) ≠ none then ""
      else gatewayVIP session.cluster gw (annotationOf gw annotationNetwork) := by
  unfold determineGatewayIP gatewayVIP
  cases staticAddress gw with
  | some value => rfl
  | none =>
      simp only [nonempty, if_false, Program.bind_apply, true_and, ne_eq, ite_not,
        Option.getD_none]
      cases failing : faults 0 (.list .gkeGatewayCIDR none []) with
      | some error =>
          rw [list_refused (fresh.symm ▸ failing)]
          rfl
      | none =>
          rw [list_granted (fresh.symm ▸ failing), listed_all]
          rfl

theorem determineGatewayIP_cluster (gw : Unstructured) (networkName : String) (faults : Faults)
    (session : Session) :
    (determineGatewayIP gw networkName faults session).2.cluster = session.cluster := by
  unfold determineGatewayIP
  cases staticAddress gw with
  | some value => rfl
  | none =>
      dsimp only
      split
      · rfl
      · rw [Program.bind_apply]
        cases (list .gkeGatewayCIDR none [] faults session).1 <;>
          exact list_cluster .gkeGatewayCIDR none [] faults session

theorem reconcilePresent_serves (gw : Unstructured) (reads : ReadFaults faults)
    (served : Serves session.cluster gw.key address)
    (network : annotationOf gw annotationNetwork ≠ "")
    (bound : boundRefs gw (listed (session.cluster .gkeL4Route) (some gw.key.ns) []) ≠ [])
    (fresh : ∀ call, call.isRead = true → call ≠ .get .gateway gw.key → session.times call = 0) :
    Serves (reconcilePresent gw faults session).2.cluster gw.key address ↔
      (gatewayVIP session.cluster gw (annotationOf gw annotationNetwork) ≠ "" →
        (staticAddress gw = none → faults 0 (.list .gkeGatewayCIDR none []) = none) →
          faults 0 (.list .gkeL4Route (some gw.key.ns) []) = none →
            LetsThrough faults (.get .endpointSlice (sliceKey gw.key)) 0 defaultRetries →
              StillRead faults session.cluster gw address) := by
  have vip : (determineGatewayIP gw (annotationOf gw annotationNetwork) faults session).1 = _ :=
    determineGatewayIP_reads network (fresh _ rfl (by simp))
  have cluster := determineGatewayIP_cluster gw (annotationOf gw annotationNetwork) faults session
  have makes := determineGatewayIP_makes gw (annotationOf gw annotationNetwork) faults session
  simp only [reconcilePresent, network, if_false, Program.bind_apply, vip]
  set determined := (determineGatewayIP gw (annotationOf gw annotationNetwork) faults session).2
  by_cases unread : staticAddress gw = none ∧ faults 0 (.list .gkeGatewayCIDR none []) ≠ none
  · rw [if_pos unread, if_pos rfl, Program.pure_apply, cluster]
    exact iff_of_true served fun _ read => absurd (read unread.1) unread.2
  · have read : staticAddress gw = none → faults 0 (.list .gkeGatewayCIDR none []) = none :=
      fun dynamic => not_not.mp fun failing => unread ⟨dynamic, failing⟩
    rw [if_neg unread]
    by_cases absent : gatewayVIP session.cluster gw (annotationOf gw annotationNetwork) = ""
    · simp only [absent, if_true, Program.pure_apply, cluster]
      exact iff_of_true served fun given => absurd rfl given
    · rw [if_neg absent]
      have programmed := (programGateway_serves (gatewayVIP session.cluster gw
        (annotationOf gw annotationNetwork)) (annotationOf gw annotationNetwork)).trans
          (reconcileRoutesAndEndpoints_serves reads (cluster ▸ served) (cluster ▸ bound)
            (fun call reading other => (makes.times_eq (by
              rintro rfl
              simp at other)).trans (fresh call reading (by
                rintro rfl
                simp at other))) _)
      rw [cluster] at programmed
      exact programmed.trans ⟨fun still _ _ => still, fun still => still absent read⟩

end Routes

theorem stillRead_congr {faults : Faults} {cluster other : Cluster} {gw gw' : Unstructured}
    {address : String} (sources : SameSources cluster other) (key : gw.key = gw'.key)
    (network : annotationOf gw annotationNetwork = annotationOf gw' annotationNetwork) :
    StillRead faults cluster gw address ↔ StillRead faults other gw' address := by
  have labels : readLabels faults cluster = readLabels faults other := by
    funext ns made ref
    rw [readLabels, readLabels, sources.selectors]
  have addresses : readAddresses faults cluster = readAddresses faults other := by
    funext ns targetNetwork made ref
    simp only [readAddresses, labels, listed, Store.list_congr sources.pods]
  have reading : withReads faults cluster = withReads faults other := by
    funext ns made ref
    simp only [withReads, labels]
  have reads : readsFor faults cluster = readsFor faults other := by
    funext ns refs
    rw [readsFor, readsFor, reading]
  simp only [StillRead, ReadFor, boundRefs_congr key, key, network, addresses, reads, listed,
    Store.list_congr sources.routes]

/-- A wanted endpoint is kept exactly when it is still read or the slice is not
overwritten. -/
theorem reconcileGateway_serves {faults : Faults} {key : ObjectKey} {gw : Unstructured}
    {cluster : Cluster} {address : String} (reads : ReadFaults faults)
    (found : (cluster .gateway).get? key = some gw) (served : Serves cluster key address)
    (wanted : Wants cluster gw address) (now : String) :
    Serves (reconcileGateway key faults { cluster, now }).2.cluster key address ↔
      (Overwrites faults cluster gw → StillRead faults cluster gw address) := by
  obtain rfl := Store.key_of_get? found
  set start : Session := { cluster, now }
  have unchanged := get_cluster .gateway gw.key faults start
  simp only [reconcileGateway, Program.bind_apply]
  cases failing : faults 0 (.get .gateway gw.key) with
  | some error =>
      have refused : (get .gateway gw.key faults start).1 = .error error := get_refused failing
      rw [refused]
      refine iff_of_true ?_ fun overwrites => ?_
      · dsimp only
        cases ignoreNotFound error <;> exact unchanged ▸ served
      · exact absurd overwrites.gateway (by simp [failing])
  | none =>
      have granted : (get .gateway gw.key faults start).1 = .ok gw := by
        rw [get_granted failing]
        simp only [start, found]
      have present : gw.metadata.deletionTimestamp.isSome = false := by
        rw [show gw.metadata.deletionTimestamp = none from wanted.undeleted]
        rfl
      have readTimes : ∀ call, call.isRead = true → call ≠ .get .gateway gw.key →
          (get .gateway gw.key faults start).2.times call = 0 := by
        intro call _ other
        rw [get_times, List.count_singleton]
        simp [start, Session.times, Ne.symm other]
      set read := (get .gateway gw.key faults start).2
      have foundThen : (read.cluster .gateway).get? gw.key = some gw := by rwa [unchanged]
      obtain ⟨gw', ensured, sameKey, annotations, spec⟩ :=
        @ensureFinalizer_gateway gw faults (fun _ _ _ => 0) read reads foundThen
      have makes : Makes (Eq (.update .gateway gw.key)) read
          (ensureFinalizer .gateway gatewayFinalizer gw faults read).2 :=
        ensureFinalizer_makes rfl faults read
      have sources := sameSources_of_makes makes (by
        rintro call rfl kind key target
        cases target
        rfl)
      have sameSlice := (dynamic_unchanged (makes.weaken (by
        rintro call rfl
        exact aside_update _ (by decide))) (sliceKey gw.key)).2
      simp only [granted, present, Bool.false_eq_true, if_false, Program.bind_apply, ensured,
        Program.pure_apply]
      set middle := (ensureFinalizer .gateway gatewayFinalizer gw faults read).2
      rw [unchanged] at sources sameSlice
      have network : annotationOf gw' annotationNetwork = annotationOf gw annotationNetwork := by
        rw [annotationOf, annotationOf, annotations]
      have routes : listed (middle.cluster .gkeL4Route) (some gw.key.ns) [] =
          listed (cluster .gkeL4Route) (some gw.key.ns) [] := by
        rw [listed, listed, Store.list_congr sources.routes]
      have bound : boundRefs gw (listed (cluster .gkeL4Route) (some gw.key.ns) []) ≠ [] := by
        obtain ⟨ref, listed, -⟩ := wanted.selected
        exact List.ne_nil_of_mem listed
      have kept := reconcilePresent_serves gw' reads
        (by rwa [sameKey, serves_congr address sameSlice]) (by rw [network]; exact wanted.network)
        (by rwa [sameKey, routes, boundRefs_congr sameKey])
        (fun call reading other => by
          rw [sameKey] at other
          refine (makes.times_eq ?_).trans (readTimes call reading other)
          rintro rfl
          cases reading)
      rw [gatewayVIP_congr sources spec, staticAddress_congr spec,
        stillRead_congr sources sameKey network, sameKey, network] at kept
      exact kept.trans ⟨fun still overwrites =>
        still overwrites.vip overwrites.cidrs overwrites.routes overwrites.slice,
        fun still vip cidrs routes slice => still ⟨failing, vip, cidrs, routes, slice⟩⟩

/-- A Reconcile among failing reads keeps every wanted endpoint exactly when each
of them is still read, or the slice is not overwritten. -/
theorem failedReads_keep_iff {faults : Faults} (reads : ReadFaults faults) (key : ObjectKey)
    (cluster : Cluster) (now : String) :
    (∀ gw address, (cluster .gateway).get? key = some gw → Serves cluster key address →
      Wants cluster gw address →
        Serves (reconcileGateway key faults { cluster, now }).2.cluster key address) ↔
      ∀ gw address, (cluster .gateway).get? key = some gw → Serves cluster key address →
        Wants cluster gw address → Overwrites faults cluster gw →
          StillRead faults cluster gw address :=
  forall₂_congr fun _ _ => forall₃_congr fun found served wanted =>
    reconcileGateway_serves reads found served wanted now

def routeListsFail : Faults := fun _ call =>
  match call with
  | .list .gkeL4Route _ _ => some (.other "timeout")
  | _ => none

theorem readFaults_routeListsFail : ReadFaults routeListsFail := by
  intro count call error failed
  unfold routeListsFail at failed
  split at failed
  · cases failed
    exact ⟨rfl, by decide⟩
  · cases failed

def namedSelector : Unstructured where
  metadata := { key := ⟨"default", "s"⟩ }
  body := [("spec", .map [("selector", .map [("matchLabels", .map [("app", .string "web")])])])]

def readyPod : Pod where
  metadata := {
    key := ⟨"default", "p"⟩
    labels := .singleton "app" "web"
    annotations := .singleton annotationNetworkStatus
      "[\x7b\"name\":\"n\",\"ips\":[\"10.0.0.9\"]\x7d]" }
  body := { phase := .running, conditions := [⟨"Ready", .true⟩] }

def servingCluster : Cluster :=
  ((((Cluster.put ∅ .gateway (staticGateway (.singleton annotationNetwork "n"))).put .gkeL4Route
    boundRoute).put .gkeEndpointSelector namedSelector).put .pod readyPod).put .endpointSlice
      (gatewaySlice gatewayKey [80] ["10.0.0.9"])

def podListsFail : Faults := fun _ call =>
  match call with
  | .list .pod _ _ => some (.other "timeout")
  | _ => none

theorem readFaults_podListsFail : ReadFaults podListsFail := by
  intro count call error failed
  unfold podListsFail at failed
  split at failed
  · cases failed
    exact ⟨rfl, by decide⟩
  · cases failed

theorem servingCluster_gateway :
    (servingCluster .gateway).get? gatewayKey =
      some (staticGateway (.singleton annotationNetwork "n")) := rfl

theorem servingCluster_serves : Serves servingCluster gatewayKey "10.0.0.9" :=
  ⟨gatewaySlice gatewayKey [80] ["10.0.0.9"], rfl, rfl, _, List.mem_singleton_self _,
    List.mem_singleton_self _⟩

theorem servingCluster_wants :
    Wants servingCluster (staticGateway (.singleton annotationNetwork "n")) "10.0.0.9" :=
  ⟨rfl, by decide, by decide +kernel⟩

theorem failedReads_keep_unlistedRoutes :
    (∀ gw address, (servingCluster .gateway).get? gatewayKey = some gw →
      Serves servingCluster gatewayKey address → Wants servingCluster gw address →
        Serves (reconcileGateway gatewayKey routeListsFail
          { cluster := servingCluster, now := "" }).2.cluster gatewayKey address) ↔
      ∀ gw address, (servingCluster .gateway).get? gatewayKey = some gw →
        Serves servingCluster gatewayKey address → Wants servingCluster gw address →
          Overwrites routeListsFail servingCluster gw →
            StillRead routeListsFail servingCluster gw address :=
  failedReads_keep_iff readFaults_routeListsFail gatewayKey servingCluster ""

/-- Nothing that matters has changed, and yet the endpoint is removed. -/
theorem failedPodList_drains :
    ReadFaults podListsFail ∧
      ¬ ∀ gw address, (servingCluster .gateway).get? gatewayKey = some gw →
        Serves servingCluster gatewayKey address → Wants servingCluster gw address →
          Serves (reconcileGateway gatewayKey podListsFail
            { cluster := servingCluster, now := "" }).2.cluster gatewayKey address := by
  refine ⟨readFaults_podListsFail, fun keeps => ?_⟩
  obtain ⟨slice, found, -, endpoint, listed, -⟩ := keeps _ _ servingCluster_gateway
    servingCluster_serves servingCluster_wants
  have emptied : (((reconcileGateway gatewayKey podListsFail
      { cluster := servingCluster, now := "" }).2.cluster .endpointSlice).get?
        (sliceKey gatewayKey)).map (fun slice => slice.body.endpoints) = some [] := by
    decide
  have nothing : slice.body.endpoints = [] := by
    rw [found] at emptied
    exact Option.some.inj emptied
  rw [nothing] at listed
  cases listed

end GemEmulation.Operator
