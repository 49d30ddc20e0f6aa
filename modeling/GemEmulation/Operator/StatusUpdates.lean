import GemEmulation.Kube.Equality
import GemEmulation.Operator.Resources

/-!
# Status updates over time

When a second status update with the same arguments finds nothing to write.
The conditions keep their transition times as long as nothing else of them
changes, so a status that was written once stays as it is.
-/

namespace GemEmulation.Operator

open Foundations Kube

def HasType (type : String) (item : Value) (fields : Fields) : Prop :=
  item = .map fields ∧ textField fields "type" = some type

structure Unchanged (cond : Condition) (time : String) (fields : Fields) : Prop where
  status : textField fields "status" = some cond.status
  reason : textField fields "reason" = some cond.reason
  message : textField fields "message" = some cond.message
  time : textField fields "lastTransitionTime" = some time

/-- The last existing condition of the type did not change, and has a time. -/
def PreviousTime (existing : List Value) (cond : Condition) (time : String) : Prop :=
  ∃ front item fields back, existing = front ++ item :: back ∧ HasType cond.type item fields ∧
    (∀ later ∈ back, ∀ fields, ¬ HasType cond.type later fields) ∧
      Unchanged cond time fields ∧ time ≠ ""

theorem existingByType_append (front back : List Value) (type : String) :
    existingByType (front ++ back) type =
      (existingByType back type).or (existingByType front type) := by
  rw [existingByType, List.reverse_append, List.findSome?_append]
  rfl

theorem existingByType_eq_none_iff (existing : List Value) (type : String) :
    existingByType existing type = none ↔
      ∀ item ∈ existing, ∀ fields, ¬ HasType type item fields := by
  rw [existingByType, List.findSome?_eq_none_iff]
  simp only [List.mem_reverse]
  apply forall₂_congr
  intro item _
  cases item with
  | map fields =>
      simp only [Value.asMap, HasType, Value.map.injEq]
      cases found : textField fields "type" with
      | none => simp [found]
      | some other => simp [found]
  | _ => simp [Value.asMap, HasType]

theorem existingByType_singleton {item : Value} {fields : Fields} {type : String}
    (typed : HasType type item fields) : existingByType [item] type = some fields := by
  obtain ⟨rfl, found⟩ := typed
  simp [existingByType, Value.asMap, found]

theorem existingByType_eq_some_iff (existing : List Value) (type : String) (fields : Fields) :
    existingByType existing type = some fields ↔
      ∃ front item back, existing = front ++ item :: back ∧ HasType type item fields ∧
        ∀ later ∈ back, ∀ fields, ¬ HasType type later fields := by
  constructor
  · induction existing using List.reverseRecOn with
    | nil =>
        intro found
        cases found
    | append_singleton front item inductionHypothesis =>
        intro found
        rw [existingByType_append] at found
        cases last : existingByType [item] type with
        | none =>
            rw [last, Option.none_or] at found
            obtain ⟨front, first, back, rfl, typed, none⟩ := inductionHypothesis found
            refine ⟨front, first, back ++ [item], by simp, typed, fun later listed => ?_⟩
            rcases List.mem_append.mp listed with early | late
            · exact none later early
            · exact (existingByType_eq_none_iff [item] type).mp last later late
        | some other =>
            rw [last, Option.some_or] at found
            cases found
            by_cases typed : ∃ fields, HasType type item fields
            · obtain ⟨fields, typed⟩ := typed
              rw [existingByType_singleton typed] at last
              cases last
              exact ⟨front, item, [], rfl, typed, fun _ listed => absurd listed List.not_mem_nil⟩
            · rw [(existingByType_eq_none_iff [item] type).mpr] at last
              · cases last
              · intro only listed fields
                rw [List.mem_singleton.mp listed]
                exact fun isTyped => typed ⟨fields, isTyped⟩
  · rintro ⟨front, item, back, rfl, typed, none⟩
    rw [existingByType_append, ← List.singleton_append, existingByType_append,
      (existingByType_eq_none_iff back type).mpr none, Option.none_or,
      existingByType_singleton typed, Option.some_or]

theorem transitionTime_eq {existing : List Value} {cond : Condition} {fields : Fields}
    {time : String} (found : existingByType existing cond.type = some fields)
    (unchanged : Unchanged cond time fields) (now : String) :
    transitionTime existing now cond = if time = "" then now else time := by
  simp only [transitionTime, found, unchanged.status, unchanged.reason, unchanged.message,
    unchanged.time, and_self, if_true]

theorem transitionTime_previous {existing : List Value} {cond : Condition} {time : String}
    (previous : PreviousTime existing cond time) (now : String) :
    transitionTime existing now cond = time := by
  obtain ⟨front, item, fields, back, split, typed, none, unchanged, proper⟩ := previous
  have found := (existingByType_eq_some_iff existing cond.type fields).mpr
    ⟨front, item, back, split, typed, none⟩
  rw [transitionTime_eq found unchanged, if_neg proper]

theorem transitionTime_now {existing : List Value} {cond : Condition}
    (changed : ∀ time, ¬ PreviousTime existing cond time) (now : String) :
    transitionTime existing now cond = now := by
  rw [transitionTime]
  split
  next => rfl
  next fields found =>
    split
    next same =>
      split
      next time timed =>
        split
        next => rfl
        next proper =>
          obtain ⟨front, item, back, split, typed, none⟩ :=
            (existingByType_eq_some_iff existing cond.type fields).mp found
          exact absurd ⟨front, item, fields, back, split, typed, none,
            ⟨same.1, same.2.1, same.2.2, timed⟩, proper⟩ (changed time)
      next => rfl
    next => rfl

theorem transitionTime_ne_empty (existing : List Value) {now : String} (timed : now ≠ "")
    (cond : Condition) : transitionTime existing now cond ≠ "" := by
  by_cases previous : ∃ time, PreviousTime existing cond time
  · obtain ⟨time, previous⟩ := previous
    rw [transitionTime_previous previous]
    obtain ⟨_, _, _, _, _, _, _, _, proper⟩ := previous
    exact proper
  · rw [transitionTime_now fun time isPrevious => previous ⟨time, isPrevious⟩]
    exact timed

theorem transitionTime_kept {existing : List Value} {cond : Condition} {time : String}
    (proper : time ≠ "")
    (present : ∃ item ∈ existing, ∃ fields, HasType cond.type item fields)
    (unchanged : ∀ item ∈ existing, ∀ fields, HasType cond.type item fields →
      Unchanged cond time fields) (now : String) :
    transitionTime existing now cond = time := by
  cases found : existingByType existing cond.type with
  | none =>
      obtain ⟨item, listed, fields, typed⟩ := present
      exact absurd typed
        ((existingByType_eq_none_iff existing cond.type).mp found item listed fields)
  | some fields =>
      obtain ⟨front, item, back, rfl, typed, -⟩ :=
        (existingByType_eq_some_iff existing cond.type fields).mp found
      rw [transitionTime_eq found (unchanged item (by simp) fields typed), if_neg proper]

variable {existing : List Value} {now : String} {addresses : Option (List Value)}
  {conds : List Condition}

theorem textField_conditionValue (existing : List Value) (now : String) (cond : Condition) :
    ∃ fields, HasType cond.type (conditionValue existing now cond) fields ∧
      Unchanged cond (transitionTime existing now cond) fields :=
  ⟨_, ⟨rfl, rfl⟩, ⟨rfl, rfl, rfl, rfl⟩⟩

theorem proper_conditionValue (existing : List Value) (now : String) (cond : Condition) :
    (conditionValue existing now cond).Proper := by
  simp [conditionValue, Value.Proper, Value.ProperFields]

theorem proper_statusMap (proper : ∀ values ∈ addresses, Value.ProperItems values) :
    (Value.map (statusMap existing now addresses conds)).Proper := by
  have conditions : Value.ProperItems (conds.map (conditionValue existing now)) := by
    rw [Value.properItems_iff]
    intro item listed
    obtain ⟨cond, -, rfl⟩ := List.mem_map.mp listed
    exact proper_conditionValue existing now cond
  cases addresses with
  | none => simpa [statusMap, Value.Proper, Value.ProperFields] using conditions
  | some values =>
      simpa [statusMap, Value.Proper, Value.ProperFields] using ⟨conditions, proper values rfl⟩

theorem statusMap_congr {others : List Value} {later : String}
    (same : ∀ cond ∈ conds,
      transitionTime existing now cond = transitionTime others later cond) :
    statusMap existing now addresses conds = statusMap others later addresses conds := by
  have values : conds.map (conditionValue existing now) =
      conds.map (conditionValue others later) :=
    List.map_congr_left fun cond listed => by rw [conditionValue, conditionValue, same cond listed]
  simp only [statusMap, values]

theorem conditions_of_deepEqual {status : Fields} (proper : (Value.map status).Proper)
    (equal : (Value.map status).deepEqual (.map (statusMap existing now addresses conds)) = true) :
    ∃ items, lookupEntry "conditions" status = some (.slice items) ∧ Value.ProperItems items ∧
      List.Forall₂ (fun item cond => item.deepEqual (conditionValue existing now cond) = true)
        items conds := by
  rw [Value.Proper, Value.properFields_iff] at proper
  have desired : lookupEntry "conditions" (statusMap existing now addresses conds) =
      some (.slice (conds.map (conditionValue existing now))) := rfl
  obtain ⟨value, found, same⟩ := Value.deepEqual_lookup proper.1 equal desired
  cases value with
  | slice items =>
      refine ⟨items, found, proper.2 _ (mem_of_lookupEntry found), ?_⟩
      rw [Value.deepEqual, Value.deepEqualItems_iff, List.forall₂_map_right_iff] at same
      exact same
  | _ => simp [Value.deepEqual] at same

theorem textField_of_deepEqual {fields : Fields} {cond : Condition}
    (proper : (Value.map fields).Proper)
    (equal : (Value.map fields).deepEqual (conditionValue existing now cond) = true) :
    textField fields "type" = some cond.type ∧
      Unchanged cond (transitionTime existing now cond) fields := by
  rw [Value.Proper] at proper
  have text : ∀ name text, lookupEntry name [("type", Value.string cond.type),
      ("status", .string cond.status), ("reason", .string cond.reason),
      ("message", .string cond.message),
      ("lastTransitionTime", .string (transitionTime existing now cond))] = some (.string text) →
      textField fields name = some text := by
    intro name text desired
    obtain ⟨value, found, same⟩ := Value.deepEqual_lookup proper.1 equal desired
    cases value with
    | string other =>
        rw [Value.deepEqual, decide_eq_true_eq] at same
        rw [textField, found, same]
        rfl
    | _ => simp [Value.deepEqual] at same
  exact ⟨text _ _ rfl, ⟨text _ _ rfl, text _ _ rfl, text _ _ rfl, text _ _ rfl⟩⟩

theorem exists_left_of_forall₂ {First Second : Type} {relation : First → Second → Prop}
    {first : List First} {second : List Second} (related : List.Forall₂ relation first second)
    {value : Second} (listed : value ∈ second) : ∃ other ∈ first, relation other value := by
  induction related with
  | nil => cases listed
  | cons holds _ inductionHypothesis =>
      rcases List.mem_cons.mp listed with rfl | later
      · exact ⟨_, List.mem_cons_self, holds⟩
      · obtain ⟨other, member, found⟩ := inductionHypothesis later
        exact ⟨other, List.mem_cons_of_mem _ member, found⟩

theorem exists_right_of_forall₂ {First Second : Type} {relation : First → Second → Prop}
    {first : List First} {second : List Second} (related : List.Forall₂ relation first second)
    {value : First} (listed : value ∈ first) : ∃ other ∈ second, relation value other :=
  exists_left_of_forall₂ (List.Forall₂.flip related) listed

/-- In a status that equals the desired one every condition of a type is the desired one. -/
theorem unchanged_of_deepEqual {items : List Value} (properItems : Value.ProperItems items)
    (distinct : (conds.map Condition.type).Nodup)
    (equal : List.Forall₂ (fun item cond =>
      item.deepEqual (conditionValue existing now cond) = true) items conds)
    {cond : Condition} (desired : cond ∈ conds) :
    (∃ item ∈ items, ∃ fields, HasType cond.type item fields) ∧
      ∀ item ∈ items, ∀ fields, HasType cond.type item fields →
        Unchanged cond (transitionTime existing now cond) fields := by
  rw [Value.properItems_iff] at properItems
  constructor
  · obtain ⟨item, listed, same⟩ := exists_left_of_forall₂ equal desired
    cases item with
    | map fields =>
        exact ⟨.map fields, listed, fields, rfl,
          (textField_of_deepEqual (properItems _ listed) same).1⟩
    | _ => simp [Value.deepEqual, conditionValue] at same
  · rintro item listed fields ⟨rfl, typed⟩
    obtain ⟨other, member, same⟩ := exists_right_of_forall₂ equal listed
    obtain ⟨otherTyped, unchanged⟩ := textField_of_deepEqual (properItems _ listed) same
    rw [typed] at otherTyped
    have equality := List.inj_on_of_nodup_map distinct desired member (Option.some.inj otherTyped)
    rw [equality]
    exact unchanged

def existingConditions (obj : Unstructured) : List Value :=
  (nestedSlice obj.body ["status", "conditions"]).getD []

/-- The status is the desired one at a time. -/
def StatusSettled (obj : Unstructured) (now : String) (addresses : Option (List Value))
    (conds : List Condition) : Prop :=
  ∃ status, nestedMap obj.body ["status"] = some status ∧
    (Value.map status).deepEqual
      (.map (statusMap (existingConditions obj) now addresses conds)) = true

theorem nestedMap_status (fields : Fields) :
    nestedMap fields ["status"] = (lookupEntry "status" fields).bind Value.asMap := by
  rw [nestedMap, nestedField, Value.nested]
  cases lookupEntry "status" fields <;> rfl

theorem lookup_of_nestedMap {fields status : Fields}
    (found : nestedMap fields ["status"] = some status) :
    lookupEntry "status" fields = some (.map status) := by
  rw [nestedMap_status] at found
  obtain ⟨value, present, isMap⟩ := Option.bind_eq_some_iff.mp found
  cases value with
  | map inner =>
      cases isMap
      exact present
  | _ => cases isMap

theorem existingConditions_eq {obj : Unstructured} {status : Fields} {items : List Value}
    (found : nestedMap obj.body ["status"] = some status)
    (conditions : lookupEntry "conditions" status = some (.slice items)) :
    existingConditions obj = items := by
  have present := lookup_of_nestedMap found
  simp [existingConditions, nestedSlice, nestedField, Value.nested, present, conditions,
    Value.asSlice]

theorem StatusSettled.later {obj : Unstructured} (proper : (Value.map obj.body).Proper)
    (distinct : (conds.map Condition.type).Nodup) (timed : now ≠ "")
    (settled : StatusSettled obj now addresses conds) (later : String) :
    StatusSettled obj later addresses conds := by
  obtain ⟨status, found, equal⟩ := settled
  rw [Value.Proper, Value.properFields_iff] at proper
  have properStatus : (Value.map status).Proper :=
    proper.2 _ (mem_of_lookupEntry (lookup_of_nestedMap found))
  obtain ⟨items, conditions, properItems, same⟩ := conditions_of_deepEqual properStatus equal
  rw [existingConditions_eq found conditions] at equal same
  refine ⟨status, found, ?_⟩
  rw [existingConditions_eq found conditions, ← equal]
  refine congrArg (fun fields => (Value.map status).deepEqual (.map fields))
    (statusMap_congr fun cond desired => ?_)
  obtain ⟨present, unchanged⟩ := unchanged_of_deepEqual properItems distinct same desired
  exact transitionTime_kept (transitionTime_ne_empty items timed cond) present unchanged later

theorem settled_of_written {obj : Unstructured}
    (properAddresses : ∀ values ∈ addresses, Value.ProperItems values)
    (distinct : (conds.map Condition.type).Nodup) (timed : now ≠ "")
    (written : nestedMap obj.body ["status"] = some (statusMap existing now addresses conds))
    (later : String) : StatusSettled obj later addresses conds := by
  have conditions : lookupEntry "conditions" (statusMap existing now addresses conds) =
      some (.slice (conds.map (conditionValue existing now))) := rfl
  refine ⟨_, written, ?_⟩
  rw [existingConditions_eq written conditions]
  have same : statusMap (conds.map (conditionValue existing now)) later addresses conds =
      statusMap existing now addresses conds := by
    refine statusMap_congr fun cond desired => transitionTime_kept
      (transitionTime_ne_empty existing timed cond) ?_ ?_ later
    · obtain ⟨fields, typed, -⟩ := textField_conditionValue existing now cond
      exact ⟨_, List.mem_map_of_mem desired, fields, typed⟩
    · intro item listed fields typed
      obtain ⟨other, member, rfl⟩ := List.mem_map.mp listed
      obtain ⟨others, otherTyped, unchanged⟩ := textField_conditionValue existing now other
      obtain ⟨made, isTyped⟩ := typed
      rw [otherTyped.1] at made
      cases made
      rw [otherTyped.2] at isTyped
      rw [List.inj_on_of_nodup_map distinct desired member (Option.some.inj isTyped).symm]
      exact unchanged
  rw [same]
  exact Value.deepEqual_refl _ (proper_statusMap properAddresses)

theorem statusSettled_congr {obj other : Unstructured}
    (same : lookupEntry "status" obj.body = lookupEntry "status" other.body) :
    StatusSettled obj now addresses conds ↔ StatusSettled other now addresses conds := by
  have maps : nestedMap obj.body ["status"] = nestedMap other.body ["status"] := by
    rw [nestedMap_status, nestedMap_status, same]
  have conditions : existingConditions obj = existingConditions other := by
    simp only [existingConditions, nestedSlice, nestedField, Value.nested, same]
  rw [StatusSettled, StatusSettled, maps, conditions]

def withDesired (obj : Unstructured) (now : String) (addresses : Option (List Value))
    (conds : List Condition) : Unstructured :=
  let status := statusMap (existingConditions obj) now addresses conds
  { obj with body := setEntry "status" (.map status) obj.body }

section Update

variable {kind : CustomKind} {obj : Unstructured} {client : Client} {session : Session}

theorem update_of_settled (settled : StatusSettled obj session.now addresses conds) :
    updateUnstructuredStatusIfChanged kind obj addresses conds client session =
      (.ok (), session) := by
  obtain ⟨status, found, equal⟩ := settled
  have desired : ((nestedMap obj.body ["status"]).any fun status => (Value.map status).deepEqual
      (.map (statusMap (existingConditions obj) session.now addresses conds))) = true := by
    rw [found]
    exact equal
  rw [updateUnstructuredStatusIfChanged, Program.bind_apply]
  exact congrFun (congrFun (if_pos desired) client) session

theorem update_of_unsettled (unsettled : ¬ StatusSettled obj session.now addresses conds) :
    updateUnstructuredStatusIfChanged kind obj addresses conds client session =
      match updateStatus kind (withDesired obj session.now addresses conds) client session with
      | (.ok (), after) => (.ok (), after)
      | (.error _, after) =>
          match update (.custom kind) (withDesired obj session.now addresses conds)
            client after with
          | (.ok _, done) => (.ok (), done)
          | (.error error, done) => (.error error, done) := by
  have different : ¬ ((nestedMap obj.body ["status"]).any fun status =>
      (Value.map status).deepEqual
        (.map (statusMap (existingConditions obj) session.now addresses conds))) = true := by
    intro equal
    rw [Option.any_eq_true] at equal
    exact unsettled equal
  rw [updateUnstructuredStatusIfChanged, Program.bind_apply]
  refine (congrFun (congrFun (if_neg different) client) session).trans ?_
  rw [Program.bind_apply]
  simp only [withDesired, existingConditions, Kube.now]
  split
  next after asked =>
    rw [asked]
    rfl
  next error after asked =>
    rw [asked]
    dsimp only
    rw [Program.bind_apply]
    split
    next result done written =>
      rw [written]
      rfl
    next error done written =>
      rw [written]
      rfl

/-- The API server lets the status update through. -/
def StatusGranted (kind : CustomKind) (key : ObjectKey) (client : Client) (session : Session) :
    Prop :=
  client.faults (session.times (.updateStatus (.custom kind) key))
    (.updateStatus (.custom kind) key) = none

theorem updateStatus_granted {sent stored : Unstructured}
    (granted : StatusGranted kind sent.key client session) (hasStatus : kind.hasStatus = true)
    (found : (session.cluster (.custom kind)).get? sent.key = some stored) :
    updateStatus kind sent client session =
      (.ok (), { session.logged (.updateStatus (.custom kind) sent.key) none with
        cluster := session.cluster.put (.custom kind)
          { stored with body := withStatus stored.body (lookupEntry "status" sent.body) } }) := by
  rw [StatusGranted] at granted
  simp only [updateStatus, request, granted, found, hasStatus, if_true]
  rfl

/-- A status update that is not granted, or that the kind does not have, only fails. -/
theorem updateStatus_refused {sent : Unstructured}
    (refused : ¬ StatusGranted kind sent.key client session ∨ kind.hasStatus = false) :
    ∃ error, updateStatus kind sent client session =
      (.error error, session.logged (.updateStatus (.custom kind) sent.key) (some error)) := by
  rw [StatusGranted] at refused
  cases fault : client.faults (session.times (.updateStatus (.custom kind) sent.key))
      (.updateStatus (.custom kind) sent.key) with
  | some error =>
      refine ⟨error, ?_⟩
      simp only [updateStatus, request, fault]
      rfl
  | none =>
      have noStatus := refused.resolve_left fun notGranted => notGranted fault
      refine ⟨.notFound, ?_⟩
      simp only [updateStatus, request, fault]
      cases (session.cluster (.custom kind)).get? sent.key with
      | none => rfl
      | some stored =>
          simp only [noStatus, Bool.false_eq_true, if_false]
          rfl

theorem update_calls_of_unsettled (unsettled : ¬ StatusSettled obj session.now addresses conds) :
    updateUnstructuredStatusIfChanged kind obj addresses conds client session ≠
      (.ok (), session) := by
  intro quiet
  rw [update_of_unsettled unsettled] at quiet
  have asked : (updateStatus kind (withDesired obj session.now addresses conds) client
      session).2.calls.length = session.calls.length + 1 := by
    rw [updateStatus, request_calls, List.length_append]
    rfl
  generalize
    updateStatus kind (withDesired obj session.now addresses conds) client session = outcome
      at asked quiet
  obtain ⟨_ | done, after⟩ := outcome
  · dsimp only at asked quiet
    have sent : (update (.custom kind) (withDesired obj session.now addresses conds) client
        after).2.calls.length = after.calls.length + 1 := by
      rw [update, request_calls, List.length_append]
      rfl
    generalize
      update (.custom kind) (withDesired obj session.now addresses conds) client after = written
        at sent quiet
    obtain ⟨_ | result, done⟩ := written
    · cases quiet
    · cases quiet
      dsimp only at sent
      omega
  · cases quiet
    dsimp only at asked
    omega

/-- A condition as it was desired, with its previous time if it has one and a new one if not. -/
def TimedCondition (existing : List Value) (now : String) (cond : Condition)
    (item : Value) : Prop :=
  ∃ fields time, HasType cond.type item fields ∧ Unchanged cond time fields ∧
    (∀ previous, PreviousTime existing cond previous → time = previous) ∧
    ((∀ previous, ¬ PreviousTime existing cond previous) → time = now)

theorem timedCondition_conditionValue (existing : List Value) (now : String) (cond : Condition) :
    TimedCondition existing now cond (conditionValue existing now cond) := by
  obtain ⟨fields, typed, unchanged⟩ := textField_conditionValue existing now cond
  exact ⟨fields, _, typed, unchanged, fun _ previous => transitionTime_previous previous now,
    fun changed => transitionTime_now changed now⟩

/-- What a second call does, and which times the conditions have that the first one sends. -/
structure IdempotentFrom (kind : CustomKind) (obj next : Unstructured)
    (addresses : Option (List Value)) (conds : List Condition) (now : String) : Prop where
  quiet : ∀ client later, later.now ≠ "" →
    updateUnstructuredStatusIfChanged kind next addresses conds client later = (.ok (), later)
  times : List.Forall₂ (TimedCondition (existingConditions obj) now) conds
    (existingConditions (withDesired obj now addresses conds))

theorem lookup_withStatus (fields : Fields) (status : Option Value) :
    lookupEntry "status" (withStatus fields status) = status := by
  cases status with
  | none =>
      rw [withStatus, lookupEntry_filter_ne, if_pos rfl]
  | some value => rw [withStatus, lookupEntry_setEntry, if_pos rfl]

theorem lookup_withDesired (obj : Unstructured) (now : String) :
    lookupEntry "status" (withDesired obj now addresses conds).body =
      some (.map (statusMap (existingConditions obj) now addresses conds)) := by
  simp only [withDesired, lookupEntry_setEntry, if_true]

theorem existingConditions_withDesired (obj : Unstructured) (now : String) :
    existingConditions (withDesired obj now addresses conds) =
      conds.map (conditionValue (existingConditions obj) now) := by
  rw [existingConditions, nestedSlice, nestedField, Value.nested, lookup_withDesired]
  rfl

theorem status_of_granted (unsettled : ¬ StatusSettled obj session.now addresses conds)
    (granted : StatusGranted kind obj.key client session) (hasStatus : kind.hasStatus = true)
    (stored : (session.cluster (.custom kind)).get? obj.key = some obj) {next : Unstructured}
    (left : ((updateUnstructuredStatusIfChanged kind obj addresses conds client
      session).2.cluster (.custom kind)).get? obj.key = some next) :
    lookupEntry "status" next.body =
      some (.map (statusMap (existingConditions obj) session.now addresses conds)) := by
  have asked : updateStatus kind (withDesired obj session.now addresses conds) client session = _ :=
    updateStatus_granted granted hasStatus stored
  rw [update_of_unsettled unsettled, asked] at left
  simp only [Cluster.put_self] at left
  rw [Store.get?_put, if_pos rfl] at left
  cases left
  rw [lookup_withStatus, lookup_withDesired]

/-- An update of the whole object leaves the status of a kind that has one. -/
theorem status_of_refused (unsettled : ¬ StatusSettled obj session.now addresses conds)
    (refused : ¬ StatusGranted kind obj.key client session ∨ kind.hasStatus = false)
    (stored : (session.cluster (.custom kind)).get? obj.key = some obj)
    (succeeded : (updateUnstructuredStatusIfChanged kind obj addresses conds client
      session).1 = .ok ())
    {next : Unstructured}
    (left : ((updateUnstructuredStatusIfChanged kind obj addresses conds client
      session).2.cluster (.custom kind)).get? obj.key = some next) :
    lookupEntry "status" next.body =
      if kind.hasStatus then lookupEntry "status" obj.body
      else some (.map (statusMap (existingConditions obj) session.now addresses conds)) := by
  have asked : ∃ error, updateStatus kind (withDesired obj session.now addresses conds) client
      session = (.error error, session.logged _ (some error)) := updateStatus_refused refused
  obtain ⟨error, asked⟩ := asked
  rw [update_of_unsettled unsettled, asked] at succeeded left
  dsimp only at succeeded left
  generalize sent : withDesired obj session.now addresses conds = desired at succeeded left
  have key : desired.key = obj.key := sent ▸ rfl
  generalize asking : session.logged (.updateStatus (.custom kind) desired.key) (some error) = after
    at succeeded left
  cases written : update (.custom kind) desired client after with
  | mk outcome done =>
      rw [written] at succeeded left
      cases outcome with
      | error error => cases succeeded
      | ok result =>
          dsimp only at left
          have whole : (update (.custom kind) desired client after).1 =
              .ok result := by rw [written]
          obtain ⟨found, present, stores⟩ := update_stores whole
          rw [written, ← asking] at stores
          rw [← asking, key] at present
          cases present.symm.trans stored
          rw [show done.cluster = _ from stores, ← key] at left
          rw [get?_settle left]
          simp only [updated, updatedBody]
          split
          next => rw [lookup_withStatus]
          next => rw [← sent, lookup_withDesired]

/-- A call that succeeds leaves a settled status when it stores one, and
otherwise leaves the object as it was. -/
theorem settled_after_update (proper : (Value.map obj.body).Proper)
    (properAddresses : ∀ values ∈ addresses, Value.ProperItems values)
    (distinct : (conds.map Condition.type).Nodup) (timed : session.now ≠ "")
    (stored : (session.cluster (.custom kind)).get? obj.key = some obj)
    (succeeded : (updateUnstructuredStatusIfChanged kind obj addresses conds client
      session).1 = .ok ())
    {next : Unstructured}
    (left : ((updateUnstructuredStatusIfChanged kind obj addresses conds client
      session).2.cluster (.custom kind)).get? obj.key = some next)
    (lasting : StatusSettled obj session.now addresses conds ∨
      StatusGranted kind obj.key client session ∨ kind.hasStatus = false) (later : String) :
    StatusSettled next later addresses conds := by
  by_cases settled : StatusSettled obj session.now addresses conds
  · rw [update_of_settled settled, stored] at left
    cases left
    exact settled.later proper distinct timed later
  · have written : lookupEntry "status" next.body =
        some (.map (statusMap (existingConditions obj) session.now addresses conds)) := by
      by_cases granted : StatusGranted kind obj.key client session ∧ kind.hasStatus = true
      · exact status_of_granted settled granted.1 granted.2 stored left
      · have noStatus : kind.hasStatus = false := by
          rcases lasting.resolve_left settled with isGranted | noStatus
          · exact Bool.eq_false_iff.mpr fun hasStatus => granted ⟨isGranted, hasStatus⟩
          · exact noStatus
        rw [status_of_refused settled (.inr noStatus) stored succeeded left, noStatus]
        rfl
    have present : nestedMap next.body ["status"] =
        some (statusMap (existingConditions obj) session.now addresses conds) := by
      rw [nestedMap_status, written]
      rfl
    exact settled_of_written properAddresses distinct timed present later

/-- After a call that succeeds a second one writes nothing, exactly when there
was nothing to write, or the status was written as a status, or the kind has
no status of its own that an update of the whole object would leave alone. -/
theorem statusUpdate_idempotent_iff (proper : (Value.map obj.body).Proper)
    (properAddresses : ∀ values ∈ addresses, Value.ProperItems values)
    (distinct : (conds.map Condition.type).Nodup) (timed : session.now ≠ "")
    (stored : (session.cluster (.custom kind)).get? obj.key = some obj)
    (succeeded : (updateUnstructuredStatusIfChanged kind obj addresses conds client
      session).1 = .ok ())
    {next : Unstructured}
    (left : ((updateUnstructuredStatusIfChanged kind obj addresses conds client
      session).2.cluster (.custom kind)).get? obj.key = some next) :
    IdempotentFrom kind obj next addresses conds session.now ↔
      StatusSettled obj session.now addresses conds ∨
        StatusGranted kind obj.key client session ∨ kind.hasStatus = false := by
  constructor
  · intro idempotent
    by_contra lost
    simp only [not_or, Bool.not_eq_false] at lost
    obtain ⟨unsettled, refused, hasStatus⟩ := lost
    have same : lookupEntry "status" next.body = lookupEntry "status" obj.body := by
      rw [status_of_refused unsettled (.inl refused) stored succeeded left, hasStatus]
      rfl
    refine update_calls_of_unsettled ?_ (idempotent.quiet client session timed)
    rwa [statusSettled_congr same]
  · intro lasting
    refine ⟨fun client later _ => update_of_settled ?_, ?_⟩
    · exact settled_after_update proper properAddresses distinct timed stored succeeded left
        lasting later.now
    · rw [existingConditions_withDesired, List.forall₂_map_right_iff, List.forall₂_same]
      exact fun cond _ => timedCondition_conditionValue _ _ cond

end Update

def unseenGateway : Unstructured where
  metadata := { key := ⟨"default", "gateway"⟩ }
  body := [("spec", .map [])]

def unseenSession : Session where
  cluster := (∅ : Cluster).put (.custom .gateway) unseenGateway
  now := "2026-01-01T00:00:00Z"

def unseenCondition : Condition where
  type := "Ready"
  status := "True"
  reason := "Reconciled"
  message := ""

def refusedOnce : Faults := fun number call =>
  if number = 0 ∧ call = .updateStatus (.custom .gateway) unseenGateway.key then
    some (.other "etcdserver: request timed out")
  else none

theorem unseenGateway_unsettled (now : String) :
    ¬ StatusSettled unseenGateway now none [unseenCondition] := by
  rintro ⟨status, found, -⟩
  cases found

/-- The refused status is lost, although the call succeeds, and is written again. -/
theorem refusedStatus_rewritten :
    (updateUnstructuredStatusIfChanged .gateway unseenGateway none [unseenCondition] refusedOnce
      unseenSession).1 = .ok () ∧
    ∃ next, ((updateUnstructuredStatusIfChanged .gateway unseenGateway none [unseenCondition]
        refusedOnce unseenSession).2.cluster (.custom .gateway)).get? unseenGateway.key =
          some next ∧
      ∀ client later, updateUnstructuredStatusIfChanged .gateway next none [unseenCondition] client
        later ≠ (.ok (), later) := by
  refine ⟨rfl, unseenGateway, rfl, fun client later => ?_⟩
  exact update_calls_of_unsettled (unseenGateway_unsettled later.now)

theorem statusUpdate_granted : ∃ next,
    ((updateUnstructuredStatusIfChanged .gateway unseenGateway none [unseenCondition] noFaults
      unseenSession).2.cluster (.custom .gateway)).get? unseenGateway.key = some next ∧
    IdempotentFrom .gateway unseenGateway next none [unseenCondition] unseenSession.now := by
  have granted : StatusGranted .gateway unseenGateway.key (noFaults : Faults) unseenSession := rfl
  refine ⟨_, rfl, (statusUpdate_idempotent_iff ?_ ?_ ?_ ?_ rfl rfl rfl).mpr (.inr (.inl granted))⟩
  · simp [unseenGateway, Value.Proper, Value.ProperFields]
  · simp
  · simp
  · decide

end GemEmulation.Operator
