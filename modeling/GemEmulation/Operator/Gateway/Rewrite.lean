import GemEmulation.Foundations.Lines
import GemEmulation.Operator.Gateway.CoreDNS

/-!
# The rewrite rule in place

What the operator makes of the texts of CoreDNS, that it makes it once, and
that it restarts CoreDNS only after a change of the live configuration.
-/

namespace GemEmulation.Operator

open Foundations Kube

def rewritten (text : String) : String := (withRewriteRule text).getD text

/-- The lines of a text, with the rule after every `ready` line. -/
def ruledLines (text : String) : List String :=
  Text.insertAfter (fun line => decide (Text.trimSpace line = "ready")) coreDNSRewriteRule
    (Text.split text '\n')

theorem withRewriteRule_eq (text : String) :
    withRewriteRule text =
      if text = "" ∨ Text.contains text gatewayDomain then none
      else if Text.join (ruledLines text) "\n" = text then none
      else some (Text.join (ruledLines text) "\n") := by
  simp only [withRewriteRule, ruledLines, Text.insertAfter, decide_eq_true_eq]

theorem join_lines (text : String) : Text.join (Text.split text '\n') "\n" = text :=
  Text.join_split text '\n'

theorem rewritten_of_contains {text : String}
    (present : Text.contains text gatewayDomain = true) : rewritten text = text := by
  rw [rewritten, withRewriteRule_eq, if_pos (.inr present), Option.getD_none]

theorem rewritten_of_lacks {text : String} (lacks : Text.contains text gatewayDomain = false) :
    rewritten text = Text.join (ruledLines text) "\n" := by
  rw [rewritten, withRewriteRule_eq]
  by_cases empty : text = ""
  · subst empty
    decide
  · rw [if_neg (by simp [empty, lacks])]
    split
    next same => rw [Option.getD_none, same]
    next => rw [Option.getD_some]

theorem gatewayDomain_infix_rule : gatewayDomain.toList <:+: coreDNSRewriteRule.toList :=
  ⟨"    rewrite name suffix ".toList, " .svc.cluster.local".toList, by decide⟩

theorem contains_of_rule {lines : List String} (listed : coreDNSRewriteRule ∈ lines) :
    Text.contains (Text.join lines "\n") gatewayDomain = true := by
  rw [Text.contains_iff]
  exact gatewayDomain_infix_rule.trans (Text.infix_join listed "\n")

theorem rule_not_mem {text : String} (lacks : Text.contains text gatewayDomain = false) :
    coreDNSRewriteRule ∉ Text.split text '\n' := by
  intro listed
  have present := contains_of_rule listed
  rw [join_lines, lacks] at present
  cases present

theorem split_rewritten {text : String} (lacks : Text.contains text gatewayDomain = false) :
    Text.split (rewritten text) '\n' = ruledLines text := by
  have rule : '\n' ∉ coreDNSRewriteRule.toList := by decide
  rw [rewritten_of_lacks lacks]
  refine Text.split_join ?_ fun line listed => ?_
  · intro none
    have kept : (ruledLines text).filter (fun line => decide (line ≠ coreDNSRewriteRule)) =
        Text.split text '\n' := Text.filter_insertAfter (rule_not_mem lacks)
    rw [none, List.filter_nil] at kept
    exact absurd (congrArg (List.map String.toList) kept.symm) (by
      simp [Text.split, List.splitOn_ne_nil])
  · rcases Text.mem_insertAfter listed with isLine | rfl
    · exact Text.not_mem_of_mem_split isLine
    · exact rule

theorem join_filter_rewritten {text : String}
    (lacks : Text.contains text gatewayDomain = false) :
    Text.join ((Text.split (rewritten text) '\n').filter
      fun line => decide (line ≠ coreDNSRewriteRule)) "\n" = text := by
  rw [split_rewritten lacks, ruledLines, Text.filter_insertAfter (rule_not_mem lacks), join_lines]

theorem withRewriteRule_rewritten (text : String) : withRewriteRule (rewritten text) = none := by
  cases changed : withRewriteRule text with
  | none => rw [rewritten, changed, Option.getD_none, changed]
  | some newText =>
      rw [withRewriteRule_eq] at changed
      split at changed
      next => cases changed
      next lacking =>
        split at changed
        next => cases changed
        next different =>
          rw [not_or, Bool.not_eq_true] at lacking
          rw [rewritten_of_lacks lacking.2, withRewriteRule_eq, if_pos]
          rcases Text.insertAfter_eq_or_mem (fun line => decide (Text.trimSpace line = "ready"))
            coreDNSRewriteRule (Text.split text '\n') with same | listed
          · exact absurd (by rw [ruledLines, same, join_lines]) different
          · exact .inr (contains_of_rule listed)

theorem withRewriteRule_ne {text newText : String}
    (changes : withRewriteRule text = some newText) : newText ≠ text := by
  rw [withRewriteRule_eq] at changes
  split at changes
  next => cases changes
  next =>
    split at changes
    next => cases changes
    next different =>
      cases changes
      exact different

section Patch

variable (name field : String)

abbrev kubeSystem (name : String) : ObjectKey := ⟨"kube-system", name⟩

def fieldText (field : String) (cm : ConfigMap) : String := (cm.body.data.get? field).getD ""

def withText (field text : String) (cm : ConfigMap) : ConfigMap :=
  { cm with body := { data := cm.body.data.set field text } }

theorem patchConfigMap_apply (client : Client) (session : Session) :
    patchConfigMap name field client session =
      match get .configMap (kubeSystem name) client session with
      | (.error _, after) => (false, after)
      | (.ok cm, after) =>
          match withRewriteRule (fieldText field cm) with
          | none => (false, after)
          | some newText =>
              match update .configMap (withText field newText cm) client after with
              | (.error _, failed) => (false, failed)
              | (.ok _, done) => (true, done) := by
  rw [patchConfigMap, Program.bind_apply]
  obtain ⟨outcome, after⟩ := get .configMap (kubeSystem name) client session
  cases outcome with
  | error error => rfl
  | ok cm =>
      simp only [fieldText]
      cases withRewriteRule ((cm.body.data.get? field).getD "") with
      | none => rfl
      | some newText =>
          simp only [Program.bind_apply, withText]
          obtain ⟨outcome, done⟩ := update .configMap
            { cm with body := { data := cm.body.data.set field newText } } client after
          cases outcome <;> rfl

structure Patches (before after : Session) (cm : ConfigMap) (newText : String) : Prop where
  found : (before.cluster .configMap).get? (kubeSystem name) = some cm
  changes : withRewriteRule (fieldText field cm) = some newText
  calls : after.calls = before.calls ++
    [(.get .configMap (kubeSystem name), none), (.update .configMap (kubeSystem name), none)]
  cluster : after.cluster = settle before.cluster .configMap (withText field newText cm)

structure Leaves (before after : Session) : Prop where
  calls : ∃ made, after.calls = before.calls ++ made ∧ ∀ entry ∈ made,
    entry.1 = .get .configMap (kubeSystem name) ∨
      (entry.1 = .update .configMap (kubeSystem name) ∧ entry.2 ≠ none ∧
        ∃ cm, (before.cluster .configMap).get? (kubeSystem name) = some cm ∧
          withRewriteRule (fieldText field cm) ≠ none)
  cluster : after.cluster = before.cluster

theorem get_calls (kind : Kind) (key : ObjectKey) (client : Client) (session : Session) :
    (get kind key client session).2.calls =
      session.calls ++ [(.get kind key, errorOf (get kind key client session).1)] :=
  request_calls _ _ _ _

theorem update_calls (kind : Kind) (object : Object kind.Body) (client : Client)
    (session : Session) :
    (update kind object client session).2.calls =
      session.calls ++ [(.update kind object.key, errorOf (update kind object client session).1)] :=
  request_calls _ _ _ _

theorem update_failed {kind : Kind} {object : Object kind.Body} {client : Client}
    {session : Session} {error : ApiError}
    (failed : (update kind object client session).1 = .error error) :
    (update kind object client session).2.cluster = session.cluster :=
  request_failed failed

theorem patchConfigMap_cases (client : Client) (session : Session) :
    ((patchConfigMap name field client session).1 = false ∧
        Leaves name field session (patchConfigMap name field client session).2) ∨
      ((patchConfigMap name field client session).1 = true ∧ ∃ cm newText,
        Patches name field session (patchConfigMap name field client session).2 cm newText) := by
  rw [patchConfigMap_apply]
  have same := get_cluster .configMap (kubeSystem name) client session
  have asked := get_calls .configMap (kubeSystem name) client session
  have stored := @get_ok .configMap (kubeSystem name) client session
  generalize get .configMap (kubeSystem name) client session = read at same asked stored ⊢
  obtain ⟨outcome, after⟩ := read
  cases outcome with
  | error error =>
      refine .inl ⟨rfl, ⟨_, asked, fun entry made => .inl ?_⟩, same⟩
      rw [List.mem_singleton.mp made]
  | ok cm =>
      have found := stored rfl
      cases changes : withRewriteRule (fieldText field cm) with
      | none =>
          simp only [changes]
          refine .inl ⟨trivial, ⟨_, asked, fun entry made => .inl ?_⟩, same⟩
          rw [List.mem_singleton.mp made]
      | some newText =>
          simp only [changes]
          have filed : cm.key = kubeSystem name := Store.key_of_get? found
          have key : (withText field newText cm).key = kubeSystem name := filed
          have sent := update_calls .configMap (withText field newText cm) client after
          have refused := @update_failed .configMap (withText field newText cm) client after
          have wrote := @update_stores .configMap (withText field newText cm) client after
          generalize
            update .configMap (withText field newText cm) client after = written
              at sent refused wrote ⊢
          obtain ⟨outcome, done⟩ := written
          rw [key] at sent
          rw [asked, List.append_assoc] at sent
          cases outcome with
          | error error =>
              refine .inl ⟨rfl, ⟨_, sent, fun entry made => ?_⟩, (refused rfl).trans same⟩
              simp only [List.cons_append, List.nil_append, List.mem_cons, List.not_mem_nil,
                or_false] at made
              rcases made with rfl | rfl
              · exact .inl rfl
              · exact .inr ⟨rfl, Option.some_ne_none error, cm, found, by simp [changes]⟩
          | ok result =>
              obtain ⟨stored, present, settled⟩ := wrote rfl
              rw [key, same, found] at present
              cases present
              refine .inr ⟨rfl, cm, newText, found, changes, sent, ?_⟩
              rw [settled, same]
              rfl

theorem patchConfigMap_noFaults {rank : Rank} {session : Session} {cm : ConfigMap}
    {newText : String} (found : (session.cluster .configMap).get? (kubeSystem name) = some cm)
    (changes : withRewriteRule (fieldText field cm) = some newText) :
    (patchConfigMap name field ⟨noFaults, rank⟩ session).1 = true := by
  rw [patchConfigMap_apply]
  have same := get_cluster .configMap (kubeSystem name) ⟨noFaults, rank⟩ session
  have read := @get_noFaults rank .configMap (kubeSystem name) session
  rw [found] at read
  generalize get .configMap (kubeSystem name) ⟨noFaults, rank⟩ session = outcome at same read ⊢
  obtain ⟨_, after⟩ := outcome
  cases read
  have key : (withText field newText cm).key = kubeSystem name :=
    (Store.key_of_get? found : cm.key = kubeSystem name)
  have present : (after.cluster .configMap).get? (withText field newText cm).key = some cm := by
    rw [key, same, found]
  have written := @update_granted .configMap (withText field newText cm) cm noFaults rank after rfl
    present
  simp only [changes, written]

def PatchCall (name : String) (call : Call) : Prop :=
  call = .get .configMap (kubeSystem name) ∨ call = .update .configMap (kubeSystem name)

/-- A ConfigMap that an update does not remove. -/
def Lasting (cm : ConfigMap) : Prop :=
  cm.metadata.deletionTimestamp = none ∨ cm.metadata.finalizers ≠ []

/-- The ConfigMap with its text rewritten, and all else as it was. -/
structure IsRewritten (cm result : ConfigMap) : Prop where
  metadata : result.metadata = cm.metadata
  text : fieldText field result = rewritten (fieldText field cm)
  others : ∀ other ≠ field, result.body.data.get? other = cm.body.data.get? other

theorem isRewritten_withText {cm : ConfigMap} {newText : String}
    (changes : withRewriteRule (fieldText field cm) = some newText) :
    IsRewritten field cm (withText field newText cm) where
  metadata := rfl
  text := by
    rw [rewritten, changes, Option.getD_some, fieldText, withText, Dict.get?_set_self,
      Option.getD_some]
  others := fun other different => Dict.get?_set_of_ne _ _ different

theorem isRewritten_self {cm : ConfigMap} (settled : withRewriteRule (fieldText field cm) = none) :
    IsRewritten field cm cm :=
  ⟨rfl, by rw [rewritten, settled, Option.getD_none], fun _ _ => rfl⟩

theorem settle_lasting {cluster : Cluster} {cm : ConfigMap} (lasting : Lasting cm) :
    (settle cluster .configMap cm .configMap).get? cm.key = some cm := by
  have stays : ¬ (cm.metadata.deletionTimestamp.isSome = true ∧ cm.metadata.finalizers = []) := by
    rintro ⟨deleted, bare⟩
    rcases lasting with alive | kept
    · simp [alive] at deleted
    · exact kept bare
  rw [settle, if_neg stays, Cluster.put_self, Store.get?_put_self]

theorem patchConfigMap_patched {client : Client} {session : Session} {cm : ConfigMap}
    (patched : (patchConfigMap name field client session).1 = true)
    (found : (session.cluster .configMap).get? (kubeSystem name) = some cm)
    (lasting : Lasting cm) :
    ∃ result, ((patchConfigMap name field client session).2.cluster .configMap).get?
        (kubeSystem name) = some result ∧ IsRewritten field cm result := by
  rcases patchConfigMap_cases name field client session with
    ⟨left, -⟩ | ⟨-, stored, newText, patches⟩
  · rw [left] at patched
    cases patched
  · have same := patches.found
    rw [found] at same
    cases same
    have key : (withText field newText cm).key = kubeSystem name :=
      (Store.key_of_get? found : cm.key = kubeSystem name)
    refine ⟨withText field newText cm, ?_, isRewritten_withText field patches.changes⟩
    rw [patches.cluster, ← key]
    exact settle_lasting lasting

theorem patchConfigMap_left {client : Client} {session : Session}
    (left : (patchConfigMap name field client session).1 = false) :
    (patchConfigMap name field client session).2.cluster = session.cluster := by
  rcases patchConfigMap_cases name field client session with ⟨-, leaves⟩ | ⟨patched, -⟩
  · exact leaves.cluster
  · rw [left] at patched
    cases patched

/-- The stored ConfigMap is as it was or rewritten, and rewritten when no call fails. -/
theorem patchConfigMap_rewrites (client : Client) (session : Session) {cm : ConfigMap}
    (found : (session.cluster .configMap).get? (kubeSystem name) = some cm)
    (lasting : Lasting cm) :
    ∃ result, ((patchConfigMap name field client session).2.cluster .configMap).get?
        (kubeSystem name) = some result ∧ (result = cm ∨ IsRewritten field cm result) ∧
      (client.faults = noFaults → IsRewritten field cm result) := by
  cases patched : (patchConfigMap name field client session).1 with
  | true =>
      obtain ⟨result, stored, done⟩ := patchConfigMap_patched name field patched found lasting
      exact ⟨result, stored, .inr done, fun _ => done⟩
  | false =>
      refine ⟨cm, by rw [patchConfigMap_left name field patched, found],
        .inl rfl, fun working => ?_⟩
      cases changes : withRewriteRule (fieldText field cm) with
      | none => exact isRewritten_self field changes
      | some newText =>
          have granted := @patchConfigMap_noFaults name field client.rank session cm newText found
            changes
          rw [← working, patched] at granted
          cases granted

/-- A ConfigMap whose text has no place for the rule. -/
def Settled (cluster : Cluster) : Prop :=
  ∀ cm, (cluster .configMap).get? (kubeSystem name) = some cm →
    withRewriteRule (fieldText field cm) = none

theorem patchConfigMap_settles {rank : Rank} (session : Session) :
    Settled name field (patchConfigMap name field ⟨noFaults, rank⟩ session).2.cluster := by
  intro cm stored
  rcases patchConfigMap_cases name field ⟨noFaults, rank⟩ session with
    ⟨left, leaves⟩ | ⟨-, before, newText, patches⟩
  · rw [leaves.cluster] at stored
    cases changes : withRewriteRule (fieldText field cm) with
    | none => rfl
    | some newText =>
        rw [patchConfigMap_noFaults name field stored changes] at left
        cases left
  · have key : (withText field newText before).key = kubeSystem name :=
      (Store.key_of_get? patches.found : before.key = kubeSystem name)
    rw [patches.cluster, ← key] at stored
    rw [get?_settle stored, (isRewritten_withText field patches.changes).text]
    exact withRewriteRule_rewritten _

theorem patchConfigMap_reads {client : Client} {session : Session}
    (settled : Settled name field session.cluster) :
    (patchConfigMap name field client session).1 = false ∧
      ∃ made, (patchConfigMap name field client session).2.calls = session.calls ++ made ∧
        ∀ entry ∈ made, entry.1.isRead = true := by
  rcases patchConfigMap_cases name field client session with
    ⟨left, leaves⟩ | ⟨-, cm, newText, patches⟩
  · obtain ⟨made, grown, forms⟩ := leaves.calls
    refine ⟨left, made, grown, fun entry listed => ?_⟩
    rcases forms entry listed with read | ⟨-, -, cm, found, changes⟩
    · rw [read]
      rfl
    · exact absurd (settled cm found) changes
  · have unchanged := settled cm patches.found
    rw [patches.changes] at unchanged
    cases unchanged

theorem patchConfigMap_calls :
    (patchConfigMap name field).Guarantees (Makes (PatchCall name)) := by
  intro client session
  rcases patchConfigMap_cases name field client session with
    ⟨-, leaves⟩ | ⟨-, cm, newText, patches⟩
  · obtain ⟨made, grown, forms⟩ := leaves.calls
    refine ⟨made, grown, fun entry listed => ?_, fun kind key _ => by rw [leaves.cluster]⟩
    exact (forms entry listed).imp_right fun updating => updating.1
  · have key : (withText field newText cm).key = kubeSystem name :=
      (Store.key_of_get? patches.found : cm.key = kubeSystem name)
    refine ⟨_, patches.calls, fun entry listed => ?_, fun kind other untouched => ?_⟩
    · simp only [List.mem_cons, List.not_mem_nil, or_false] at listed
      rcases listed with rfl | rfl
      · exact .inl rfl
      · exact .inr rfl
    · rw [patches.cluster]
      refine settle_of_ne _ _ fun same => untouched _ (List.mem_cons_of_mem _ List.mem_cons_self) ?_
      rw [key] at same
      rw [← same]
      rfl

end Patch

def coreDNSTexts : List (String × String) :=
  [("coredns-template", "coredns-template"), ("coredns-config", "Corefile")]

theorem reconcileCoreDNS_apply (client : Client) (session : Session) :
    reconcileCoreDNS client session =
      let template := patchConfigMap "coredns-template" "coredns-template" client session
      let config := patchConfigMap "coredns-config" "Corefile" client template.2
      if config.1 = true then restartCoreDNS client config.2 else ((), config.2) := by
  rw [reconcileCoreDNS, reconcileCoreDNSTemplate]
  simp only [Program.bind_apply, Program.pure_apply]
  split <;> rfl

theorem patchCall_ne {name other : String} (different : name ≠ other) (call : Call)
    (patch : PatchCall name call) : call.target ≠ some (.configMap, kubeSystem other) := by
  rcases patch with rfl | rfl
  · simp [Call.target]
  · simpa [Call.target] using different

theorem not_patchCall_delete {name : String} {key : ObjectKey} :
    ¬ PatchCall name (.delete .pod key) := by
  rintro (same | same) <;> cases same

def PodCall : Call → Prop
  | .list kind _ _ | .delete kind _ => kind = .pod
  | _ => False

theorem restartCoreDNS_pods : restartCoreDNS.Guarantees (Makes PodCall) := by
  refine .bind (list_makes rfl) fun outcome => ?_
  split
  · exact .pure _
  · refine Program.Guarantees.foldlM _ (fun pod _ _ => ?_) _
    exact .bind (delete_makes rfl) fun _ => .pure _

theorem podCall_ne (key : ObjectKey) (call : Call) (pods : PodCall call) :
    call.target ≠ some (.configMap, key) := by
  cases call <;> simp_all [PodCall, Call.target]

theorem reconcileCoreDNS_configMap (client : Client) (session : Session) (key : ObjectKey) :
    ((reconcileCoreDNS client session).2.cluster .configMap).get? key =
      ((patchConfigMap "coredns-config" "Corefile" client
        (patchConfigMap "coredns-template" "coredns-template" client session).2).2.cluster
          .configMap).get? key := by
  rw [reconcileCoreDNS_apply]
  dsimp only
  split
  · exact (restartCoreDNS_pods _ _).unchanged (podCall_ne key)
  · rfl

/-- In any run each ConfigMap stays or is rewritten; without failing calls it is rewritten. -/
theorem reconcileCoreDNS_rewrites (client : Client) (session : Session) {name field : String}
    (listed : (name, field) ∈ coreDNSTexts) {cm : ConfigMap}
    (found : (session.cluster .configMap).get? (kubeSystem name) = some cm)
    (lasting : Lasting cm) :
    ∃ result, ((reconcileCoreDNS client session).2.cluster .configMap).get? (kubeSystem name) =
        some result ∧ (result = cm ∨ IsRewritten field cm result) ∧
      (client.faults = noFaults → IsRewritten field cm result) := by
  rw [reconcileCoreDNS_configMap]
  simp only [coreDNSTexts, List.mem_cons, Prod.mk.injEq, List.not_mem_nil, or_false] at listed
  rcases listed with ⟨rfl, rfl⟩ | ⟨rfl, rfl⟩
  · rw [(patchConfigMap_calls "coredns-config" "Corefile" client _).unchanged
      (patchCall_ne (by decide))]
    exact patchConfigMap_rewrites _ _ client session found lasting
  · have before : ((patchConfigMap "coredns-template" "coredns-template" client session).2.cluster
        .configMap).get? (kubeSystem "coredns-config") = some cm := by
      rw [(patchConfigMap_calls "coredns-template" "coredns-template" client session).unchanged
        (patchCall_ne (by decide)), found]
    exact patchConfigMap_rewrites _ _ client _ before lasting

theorem reconcileCoreDNS_settles {rank : Rank} (session : Session) {name field : String}
    (listed : (name, field) ∈ coreDNSTexts) :
    Settled name field (reconcileCoreDNS ⟨noFaults, rank⟩ session).2.cluster := by
  intro cm stored
  rw [reconcileCoreDNS_configMap] at stored
  simp only [coreDNSTexts, List.mem_cons, Prod.mk.injEq, List.not_mem_nil, or_false] at listed
  rcases listed with ⟨rfl, rfl⟩ | ⟨rfl, rfl⟩
  · rw [(patchConfigMap_calls "coredns-config" "Corefile" _ _).unchanged
      (patchCall_ne (by decide))] at stored
    exact patchConfigMap_settles _ _ session cm stored
  · exact patchConfigMap_settles _ _ _ cm stored

theorem reconcileCoreDNS_reads {client : Client} {session : Session}
    (settled : ∀ entry ∈ coreDNSTexts, Settled entry.1 entry.2 session.cluster) :
    ∃ made, (reconcileCoreDNS client session).2.calls = session.calls ++ made ∧
      ∀ entry ∈ made, entry.1.isRead = true := by
  obtain ⟨left, made, grown, reads⟩ := @patchConfigMap_reads "coredns-template" "coredns-template"
    client session (settled ("coredns-template", "coredns-template") List.mem_cons_self)
  have unchanged := patchConfigMap_left _ _ left
  have config : Settled "coredns-config" "Corefile"
      (patchConfigMap "coredns-template" "coredns-template" client session).2.cluster := by
    rw [unchanged]
    exact settled ("coredns-config", "Corefile") (List.mem_cons_of_mem _ List.mem_cons_self)
  obtain ⟨quiet, made', grown', reads'⟩ := patchConfigMap_reads _ _ config
  rw [reconcileCoreDNS_apply]
  dsimp only
  rw [quiet, if_neg Bool.false_ne_true]
  refine ⟨made ++ made', by rw [grown', grown, List.append_assoc], fun entry listed => ?_⟩
  rcases List.mem_append.mp listed with early | late
  · exact reads entry early
  · exact reads' entry late

/-- A run deletes Pods only after it has changed the live configuration. -/
theorem reconcileCoreDNS_deletes (client : Client) (session : Session) :
    ∃ made, (reconcileCoreDNS client session).2.calls = session.calls ++ made ∧
      ∀ key error, (Call.delete .pod key, error) ∈ made →
        (Call.update .configMap (kubeSystem "coredns-config"), none) ∈ made ∧
          ∃ cm, (session.cluster .configMap).get? (kubeSystem "coredns-config") = some cm ∧
            rewritten (fieldText "Corefile" cm) ≠ fieldText "Corefile" cm := by
  have templateCalls := patchConfigMap_calls "coredns-template" "coredns-template" client session
  have same := templateCalls.unchanged
    (fun call => @patchCall_ne "coredns-template" "coredns-config" (by decide) call)
  obtain ⟨made, grown, forms, -⟩ := templateCalls
  rw [reconcileCoreDNS_apply]
  dsimp only
  generalize
    (patchConfigMap "coredns-template" "coredns-template" client session).2 = template
      at same grown ⊢
  rcases patchConfigMap_cases "coredns-config" "Corefile" client template with
    ⟨left, leaves⟩ | ⟨patched, cm, newText, patches⟩
  · obtain ⟨made', grown', forms'⟩ := leaves.calls
    rw [left, if_neg Bool.false_ne_true]
    refine ⟨made ++ made', by rw [grown', grown, List.append_assoc], fun key error listed => ?_⟩
    rcases List.mem_append.mp listed with early | late
    · exact absurd (forms _ early) not_patchCall_delete
    · exact absurd ((forms' _ late).imp_right fun updating => updating.1) not_patchCall_delete
  · obtain ⟨made', grown', -⟩ := restartCoreDNS_pods client
      (patchConfigMap "coredns-config" "Corefile" client template).2
    rw [patched, if_pos rfl]
    refine ⟨made ++ ([(.get .configMap (kubeSystem "coredns-config"), none),
        (.update .configMap (kubeSystem "coredns-config"), none)] ++ made'), ?_, ?_⟩
    · rw [grown', patches.calls, grown, List.append_assoc, List.append_assoc]
    · intro key error _
      refine ⟨by simp, cm, same ▸ patches.found, ?_⟩
      rw [rewritten, patches.changes, Option.getD_some]
      exact withRewriteRule_ne patches.changes

/-- The operator rewrites the texts of CoreDNS once, the template's as the live configuration's,
and restarts CoreDNS only after a change of the latter. -/
theorem reconcileCoreDNS_conservative :
    (∀ text, Text.contains text gatewayDomain = true → rewritten text = text) ∧
      (∀ text, Text.contains text gatewayDomain = false →
        rewritten text = Text.join (ruledLines text) "\n" ∧
          Text.join ((Text.split (rewritten text) '\n').filter
            fun line => decide (line ≠ coreDNSRewriteRule)) "\n" = text) ∧
      (∀ client session name field cm, (name, field) ∈ coreDNSTexts →
        (session.cluster .configMap).get? (kubeSystem name) = some cm → Lasting cm →
          ∃ result, ((reconcileCoreDNS client session).2.cluster .configMap).get?
              (kubeSystem name) = some result ∧ (result = cm ∨ IsRewritten field cm result) ∧
            (client.faults = noFaults → IsRewritten field cm result)) ∧
      (∀ rank session client later,
        (∀ name, (later.cluster .configMap).get? (kubeSystem name) =
          ((reconcileCoreDNS ⟨noFaults, rank⟩ session).2.cluster .configMap).get?
            (kubeSystem name)) →
          ∃ made, (reconcileCoreDNS client later).2.calls = later.calls ++ made ∧
            ∀ entry ∈ made, entry.1.isRead = true) ∧
      ∀ client session, ∃ made, (reconcileCoreDNS client session).2.calls =
          session.calls ++ made ∧ ∀ key error, (Call.delete .pod key, error) ∈ made →
        (Call.update .configMap (kubeSystem "coredns-config"), none) ∈ made ∧
          ∃ cm, (session.cluster .configMap).get? (kubeSystem "coredns-config") = some cm ∧
            rewritten (fieldText "Corefile" cm) ≠ fieldText "Corefile" cm := by
  refine ⟨fun text => rewritten_of_contains, fun text lacks => ?_, ?_, ?_, reconcileCoreDNS_deletes⟩
  · exact ⟨rewritten_of_lacks lacks, join_filter_rewritten lacks⟩
  · intro client session name field cm listed found lasting
    exact reconcileCoreDNS_rewrites client session listed found lasting
  · intro rank session client later unchanged
    apply reconcileCoreDNS_reads
    intro entry listed cm stored
    rw [unchanged] at stored
    exact reconcileCoreDNS_settles session listed cm stored

def plainConfig : ConfigMap where
  metadata := { key := kubeSystem "coredns-config" }
  body := { data := .singleton "Corefile" ".:53 \x7b\n    ready\n    cache 30\n\x7d" }

def plainConfigSession : Session where
  cluster := (∅ : Cluster).put .configMap plainConfig
  now := ""

theorem reconcileCoreDNS_conservative_plain : ∃ result,
    ((reconcileCoreDNS noFaults plainConfigSession).2.cluster .configMap).get?
      (kubeSystem "coredns-config") = some result ∧
    result.metadata = plainConfig.metadata ∧
    fieldText "Corefile" result =
      ".:53 \x7b\n    ready\n" ++ coreDNSRewriteRule ++ "\n    cache 30\n\x7d" := by
  have listed : ("coredns-config", "Corefile") ∈ coreDNSTexts := by decide
  obtain ⟨result, stored, -, isRewritten⟩ := reconcileCoreDNS_conservative.2.2.1 noFaults
    plainConfigSession _ _ plainConfig listed rfl (.inl rfl)
  obtain ⟨metadata, text, -⟩ := isRewritten rfl
  refine ⟨result, stored, metadata, text.trans ?_⟩
  decide +kernel

end GemEmulation.Operator
