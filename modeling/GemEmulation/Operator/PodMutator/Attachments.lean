import GemEmulation.Operator.PodMutator.Mutator

/-!
# The attachments of a Pod

What a Multus annotation requests, in its JSON form and in its short form, and
when a mutation keeps it.  What an object of the JSON form asks for besides a
name, an interface and addresses is read by Multus, and is a parameter here.
-/

namespace GemEmulation.Operator

open Foundations Foundations.Json Kube

/-- How Multus reads the other options of an attachment: an object with no
other members asks for none. -/
structure OptionReader (Options : Type) where
  read : List (String × Json) → Options
  noOptions : Options
  plain : ∀ members, (∀ member ∈ members, member.1 ∈ ["name", "interface", "ips"]) →
    read members = noOptions

/-- A requested attachment, in the namespace that its network is looked up in. -/
structure Attachment (Options : Type) where
  network : String
  ns : String
  interface : String
  ips : List String
  options : Options
  deriving DecidableEq

def Attachment.spec {Options : Type} (attachment : Attachment Options) : MultusNetworkSpec :=
  ⟨attachment.network, attachment.interface, attachment.ips⟩

def decodeNamespace : Decoder String :=
  decodeStruct fun name => if namesField name "namespace" then some decodeString else none

def effectiveNamespace (podNamespace ns : String) : String :=
  if ns = "" then podNamespace else ns

/-- The namespace of an item `ns/name`, and the rest. -/
def splitNamespace (item : String) : Option (String × String) :=
  match Text.split item '/' with
  | [name] => some ("", name)
  | [ns, name] => some (Text.trimSpace ns, name)
  | _ => none

/-- The network of an item `name@interface`, and the interface. -/
def splitInterface (named : String) : Option (String × String) :=
  match Text.split named '@' with
  | [network] => some (Text.trimSpace network, "")
  | [network, interface] => some (Text.trimSpace network, Text.trimSpace interface)
  | _ => none

section Requests

variable {Options : Type} (reader : OptionReader Options) (podNamespace : String)

def objectAttachment : Json → Option (Attachment Options)
  | .object members =>
      let (spec, bad) := decodeMultusNetworkSpec {} (.object members)
      let (ns, worse) := decodeNamespace "" (.object members)
      if bad || worse then none
      else some {
        network := spec.name
        ns := effectiveNamespace podNamespace ns
        interface := spec.interface
        ips := spec.ips
        options := reader.read members }
  | _ => none

/-- An item `ns/name@interface` of the short form. -/
def shortAttachment (item : String) : Option (Attachment Options) := do
  let (ns, named) ← splitNamespace item
  let (network, interface) ← splitInterface named
  some {
    network
    ns := effectiveNamespace podNamespace ns
    interface
    ips := []
    options := reader.noOptions }

def isShortForm (networks : String) : Bool :=
  networks.toList.all fun c => decide (c ∉ ['[', '{', '"'])

/-- The attachments that an annotation requests, if Multus accepts its form. -/
def requestedAttachments (networks : String) : Option (List (Attachment Options)) :=
  if Text.trimSpace networks = "" then some []
  else if isShortForm networks then
    (Text.split networks ',').mapM (shortAttachment reader podNamespace)
  else
    match parse networks with
    | some (.array elements) => elements.mapM (objectAttachment reader podNamespace)
    | _ => none

end Requests

def podAttachments {Options : Type} (reader : OptionReader Options) (pod : Pod) :
    Option (List (Attachment Options)) :=
  match pod.metadata.annotations.get? annotationMultusNetworks with
  | none => some []
  | some networks => requestedAttachments reader pod.key.ns networks

/-- The attachment is still requested: its interface changes only when it had
none and a requested interface claims it, and addresses are only added to an
attachment that asked for none. -/
structure Survives {Options : Type} (requested : List MultusNetworkSpec)
    (old new : Attachment Options) : Prop where
  network : new.network = old.network
  ns : new.ns = old.ns
  options : new.options = old.options
  ips : old.ips = [] ∨ new.ips = old.ips
  interface : new.interface = old.interface ∨ (old.interface = "" ∧
    ∃ sec ∈ requested, sec.name = old.network ∧ sec.interface = new.interface)

/-- An entry that was there before: it may have adopted a requested interface
and been given addresses. -/
structure Grown (requested : List MultusNetworkSpec) (old new : MultusNetworkSpec) : Prop where
  name : new.name = old.name
  ips : old.ips = [] ∨ new.ips = old.ips
  interface : new.interface = old.interface ∨ (old.interface = "" ∧
    ∃ sec ∈ requested, sec.name = old.name ∧ sec.interface = new.interface)

namespace Grown

variable {requested : List MultusNetworkSpec}

theorem refl (entry : MultusNetworkSpec) : Grown requested entry entry :=
  ⟨rfl, .inr rfl, .inl rfl⟩

theorem trans {first second third : MultusNetworkSpec} (before : Grown requested first second)
    (after : Grown requested second third) : Grown requested first third := by
  refine ⟨after.name.trans before.name, ?_, ?_⟩
  · rcases before.ips with none | same
    · exact .inl none
    · rw [← same]
      exact after.ips
  · rcases after.interface with same | ⟨missing, sec, member, named, claimed⟩
    · rw [same]
      exact before.interface
    · rcases before.interface with kept | ⟨empty, -⟩
      · exact .inr ⟨kept ▸ missing, sec, member, named.trans before.name, claimed⟩
      · exact .inr ⟨empty, sec, member, named.trans before.name, claimed⟩

theorem mono {more : List MultusNetworkSpec} (subset : requested ⊆ more)
    {old new : MultusNetworkSpec} (grown : Grown requested old new) : Grown more old new :=
  ⟨grown.name, grown.ips, grown.interface.imp id fun ⟨empty, sec, member, rest⟩ =>
    ⟨empty, sec, subset member, rest⟩⟩

end Grown

theorem assignIPs_grown {hasClient : Bool} {netName : String} {entry result : MultusNetworkSpec}
    {inUseSet inUse : List String} {client : Client} {session : Session}
    (assigned : (assignIPs hasClient netName entry inUseSet client session).1 =
      .ok (result, inUse)) :
    result.name = entry.name ∧ result.interface = entry.interface ∧
      (entry.ips = [] ∨ result.ips = entry.ips) := by
  rcases assignIPs_cases assigned with ⟨-, rfl, -⟩ | ⟨missing, ipWithPrefix, -, rfl⟩
  · exact ⟨rfl, rfl, .inr rfl⟩
  · exact ⟨rfl, rfl, .inl missing⟩

/-- An entry that has the name of a requested network and its interface, if it
asks for one. -/
def Provides (sec entry : MultusNetworkSpec) : Prop :=
  entry.name = sec.name ∧ (sec.interface = "" ∨ entry.interface = sec.interface)

theorem adoptInterface_grown {sec existing : MultusNetworkSpec}
    (matching : matchesSecondary sec existing = true) :
    Grown [sec] existing (adoptInterface sec existing) ∧
      Provides sec (adoptInterface sec existing) := by
  simp only [matchesSecondary, decide_eq_true_eq] at matching
  obtain ⟨named, interfaces⟩ := matching
  unfold adoptInterface
  split
  next adopts =>
    exact ⟨⟨rfl, .inr rfl, .inr ⟨adopts.1, sec, by simp, named.symm, rfl⟩⟩, named, .inr rfl⟩
  next keeps =>
    refine ⟨.refl existing, named, ?_⟩
    rcases interfaces with same | missing | empty
    · exact .inr same
    · exact .inl missing
    · by_cases missing : sec.interface = ""
      · exact .inl missing
      · exact absurd ⟨empty, missing⟩ keeps

/-- What the merge makes of the entries: the old ones have grown, every
requested network is provided, and nothing else was added. -/
structure Merged (requested existing entries : List MultusNetworkSpec) : Prop where
  kept : ∀ old ∈ existing, ∃ new ∈ entries, Grown requested old new
  provided : ∀ sec ∈ requested, ∃ new ∈ entries, Provides sec new
  origin : ∀ new ∈ entries, (∃ old ∈ existing, Grown requested old new) ∨
    ∃ sec ∈ requested, sec.name = new.name ∧ sec.interface = new.interface

theorem Provides.grown {requested : List MultusNetworkSpec} {sec old new : MultusNetworkSpec}
    (provides : Provides sec old) (grown : Grown requested old new) : Provides sec new := by
  refine ⟨grown.name.trans provides.1, ?_⟩
  rcases grown.interface with same | ⟨missing, -⟩
  · rw [same]
    exact provides.2
  · rcases provides.2 with none | given
    · exact .inl none
    · exact .inl (given ▸ missing)

theorem Merged.nil (existing : List MultusNetworkSpec) : Merged [] existing existing :=
  ⟨fun old member => ⟨old, member, .refl old⟩, by simp, fun new member =>
    .inl ⟨new, member, .refl new⟩⟩

theorem Merged.trans {sec : MultusNetworkSpec} {rest first second third : List MultusNetworkSpec}
    (before : Merged [sec] first second) (after : Merged rest second third) :
    Merged (sec :: rest) first third where
  kept old member := by
    obtain ⟨between, inSecond, grown⟩ := before.kept old member
    obtain ⟨new, inThird, regrown⟩ := after.kept between inSecond
    exact ⟨new, inThird, (grown.mono (by simp)).trans (regrown.mono (by simp))⟩
  provided asked member := by
    rcases List.mem_cons.mp member with rfl | later
    · obtain ⟨between, inSecond, provides⟩ := before.provided asked List.mem_cons_self
      obtain ⟨new, inThird, grown⟩ := after.kept between inSecond
      exact ⟨new, inThird, provides.grown grown⟩
    · exact after.provided asked later
  origin new member := by
    rcases after.origin new member with ⟨between, inSecond, grown⟩ | ⟨asked, later, named, claimed⟩
    · rcases before.origin between inSecond with ⟨old, inFirst, grew⟩ |
        ⟨asked, listed, named, given⟩
      · exact .inl ⟨old, inFirst, (grew.mono (by simp)).trans (grown.mono (by simp))⟩
      · rcases grown.interface with same | ⟨-, claimant, later, called, claimed⟩
        · exact .inr ⟨asked, List.mem_cons.mpr (.inl (List.mem_singleton.mp listed)),
            named.trans grown.name.symm, given.trans same.symm⟩
        · exact .inr ⟨claimant, List.mem_cons_of_mem _ later, called.trans grown.name.symm, claimed⟩
    · exact .inr ⟨asked, List.mem_cons_of_mem _ later, named, claimed⟩

theorem mergeSecondary_merged {hasClient : Bool} {sec : MultusNetworkSpec}
    {state merged : MergeState} {client : Client} {session : Session}
    (succeeded : (mergeSecondary hasClient sec state client session).1 = .ok merged) :
    Merged [sec] state.existingMultus merged.existingMultus := by
  cases found : state.existingMultus.findIdx? (matchesSecondary sec) with
  | some foundIdx =>
      obtain ⟨inRange, matching, -⟩ := List.findIdx?_eq_some_iff_getElem.mp found
      have existing : state.existingMultus.getD foundIdx {} = state.existingMultus[foundIdx] := by
        simp [inRange]
      simp only [mergeSecondary, found, existing, Program.bind_apply] at succeeded
      generalize assignment : assignIPs hasClient sec.name
        (adoptInterface sec state.existingMultus[foundIdx]) state.inUseSet client session =
          outcome at succeeded
      obtain ⟨failure | ⟨entry, inUse⟩, after⟩ := outcome
      · contradiction
      · cases succeeded
        obtain ⟨named, interface, ips⟩ := assignIPs_grown (congrArg Prod.fst assignment)
        obtain ⟨adopted, provides⟩ := adoptInterface_grown matching
        have assigned : Grown [sec] (adoptInterface sec state.existingMultus[foundIdx]) entry :=
          ⟨named, ips, .inl interface⟩
        have grown := adopted.trans assigned
        have inside : entry ∈ state.existingMultus.set foundIdx entry := List.mem_set inRange _
        refine ⟨?_, ?_, ?_⟩
        · intro old member
          rcases mem_set_or_eq foundIdx inRange member with rfl | remains
          · exact ⟨entry, inside, grown⟩
          · exact ⟨old, remains, .refl old⟩
        · intro asked member
          rw [List.mem_singleton.mp member]
          exact ⟨entry, inside, provides.grown assigned⟩
        · intro new member
          rcases List.mem_or_eq_of_mem_set member with remains | rfl
          · exact .inl ⟨new, remains, .refl new⟩
          · exact .inl ⟨_, List.getElem_mem inRange, grown⟩
  | none =>
      simp only [mergeSecondary, found, Program.bind_apply] at succeeded
      generalize assignment : assignIPs hasClient sec.name sec state.inUseSet client session =
        outcome at succeeded
      obtain ⟨failure | ⟨entry, inUse⟩, after⟩ := outcome
      · contradiction
      · cases succeeded
        obtain ⟨named, interface, -⟩ := assignIPs_grown (congrArg Prod.fst assignment)
        refine ⟨fun old member => ⟨old, List.mem_append_left _ member, .refl old⟩, ?_, ?_⟩
        · intro asked member
          rw [List.mem_singleton.mp member]
          exact ⟨entry, by simp, named, .inr interface⟩
        · intro new member
          rcases List.mem_append.mp member with old | added
          · exact .inl ⟨new, old, .refl new⟩
          · rw [List.mem_singleton.mp added]
            exact .inr ⟨sec, by simp, named.symm, interface.symm⟩

/-- The whole loop. -/
theorem mergeSecondaries_merged {hasClient : Bool} {requested : List MultusNetworkSpec}
    {state merged : MergeState} {client : Client} {session : Session}
    (succeeded : (mergeSecondaries hasClient requested state client session).1 = .ok merged) :
    Merged requested state.existingMultus merged.existingMultus := by
  induction requested generalizing state session with
  | nil =>
      cases succeeded
      exact .nil _
  | cons sec rest inductionHypothesis =>
      simp only [mergeSecondaries, Program.bind_apply] at succeeded
      generalize turn : mergeSecondary hasClient sec state client session = outcome at succeeded
      obtain ⟨failure | next, after⟩ := outcome
      · contradiction
      · exact (mergeSecondary_merged (congrArg Prod.fst turn)).trans
          (inductionHypothesis succeeded)

section Reading

variable {Options : Type} {reader : OptionReader Options} {podNamespace : String}

theorem objectAttachment_spec {json : Json} {attachment : Attachment Options}
    (read : objectAttachment reader podNamespace json = some attachment) :
    decodeMultusNetworkSpec {} json = (attachment.spec, false) := by
  cases json with
  | object members =>
      simp only [objectAttachment] at read
      split at read
      next => cases read
      next good =>
        cases read
        simp only [Bool.or_eq_true, not_or, Bool.not_eq_true] at good
        exact Prod.ext rfl good.1
  | _ => cases read

theorem decodeElements_spec {elements : List Json} {attachments : List (Attachment Options)}
    (read : elements.mapM (objectAttachment reader podNamespace) = some attachments) :
    decodeElements decodeMultusNetworkSpec {} [] elements =
      (attachments.map Attachment.spec, false) := by
  induction elements generalizing attachments with
  | nil =>
      cases read
      rfl
  | cons element rest inductionHypothesis =>
      simp only [List.mapM_cons, Option.bind_eq_bind, Option.bind_eq_some_iff, Option.pure_def,
        Option.some.injEq] at read
      obtain ⟨attachment, first, others, later, rfl⟩ := read
      simp [decodeElements, objectAttachment_spec first, inductionHypothesis later]

theorem encodeMultusNetworkSpec_members (spec : MultusNetworkSpec) :
    ∃ members, encodeMultusNetworkSpec spec = .object members ∧
      ∀ member ∈ members, member.1 ∈ ["name", "interface", "ips"] := by
  refine ⟨_, rfl, ?_⟩
  intro member listed
  rcases List.mem_cons.mp listed with rfl | optional
  · simp
  · rcases List.mem_append.mp optional with interface | ips
    · split at interface
      next => cases interface
      next =>
        rw [List.mem_singleton.mp interface]
        simp
    · split at ips
      next => cases ips
      next =>
        rw [List.mem_singleton.mp ips]
        simp

theorem decodeMembers_unknown {Target : Type} {field : String → Option (Decoder Target)}
    {members : List (String × Json)} (unknown : ∀ member ∈ members, field member.1 = none)
    (current : Target) : decodeMembers field current members = (current, false) := by
  induction members with
  | nil => rfl
  | cons member rest inductionHypothesis =>
      rw [decodeMembers, unknown member List.mem_cons_self]
      exact inductionHypothesis fun other listed =>
        unknown other (List.mem_cons_of_mem _ listed)

/-- The entry that the mutator writes asks for a name, an interface and
addresses only. -/
theorem objectAttachment_encode (spec : MultusNetworkSpec) :
    objectAttachment reader podNamespace (encodeMultusNetworkSpec spec) =
      some ⟨spec.name, podNamespace, spec.interface, spec.ips, reader.noOptions⟩ := by
  have decoded := decode_encodeMultusNetworkSpec spec
  obtain ⟨members, shape, names⟩ := encodeMultusNetworkSpec_members spec
  rw [shape] at decoded ⊢
  have other : ∀ name ∈ ["name", "interface", "ips"], namesField name "namespace" = false := by
    decide
  have ns : decodeNamespace "" (.object members) = ("", false) := by
    rw [decodeNamespace, decodeStruct]
    apply decodeMembers_unknown
    intro member listed
    rw [other _ (names member listed)]
    rfl
  simp [objectAttachment, decoded, ns, reader.plain members names, effectiveNamespace]

theorem not_shortForm {networks : String} (bracket : '[' ∈ networks.toList) :
    isShortForm networks = false := by
  simp only [isShortForm, List.all_eq_false]
  exact ⟨'[', bracket, by decide⟩

theorem existingMultusOf_json {pod : Pod} {networks : String}
    {attachments : List (Attachment Options)}
    (found : pod.metadata.annotations.get? annotationMultusNetworks = some networks)
    (visible : Text.trimSpace networks ≠ "") (json : isShortForm networks = false)
    (read : requestedAttachments reader podNamespace networks = some attachments) :
    existingMultusOf pod = attachments.map Attachment.spec := by
  simp only [requestedAttachments, if_neg visible, json, Bool.false_eq_true, if_false] at read
  split at read
  next elements parsed =>
    simp [existingMultusOf, found, visible, unmarshalInto, unmarshal, parsed,
      decodeMultusNetworks, decodeSlice, decodeElements_spec read]
  next => cases read

theorem existingMultusOf_shortForm {pod : Pod} {networks : String}
    (found : pod.metadata.annotations.get? annotationMultusNetworks = some networks)
    (short : isShortForm networks = true) : existingMultusOf pod = [] := by
  simp only [existingMultusOf, found]
  split
  next => rfl
  next =>
    simp only [unmarshalInto, unmarshal, decodeMultusNetworks]
    cases parsed : parse networks with
    | none => rfl
    | some json =>
        cases json with
        | array elements =>
            rw [not_shortForm (parse_array parsed)] at short
            contradiction
        | _ => rfl

theorem requestedAttachments_marshal (specs : List MultusNetworkSpec) :
    requestedAttachments reader podNamespace (marshalMultusNetworks specs) =
      some (specs.map fun spec =>
        ⟨spec.name, podNamespace, spec.interface, spec.ips, reader.noOptions⟩) := by
  have parsed := parse_marshalMultusNetworks specs
  have bracket := parse_array parsed
  have visible : Text.trimSpace (marshalMultusNetworks specs) ≠ "" :=
    Text.trimSpace_ne_empty bracket (by decide)
  rw [requestedAttachments, if_neg visible, not_shortForm bracket, parsed]
  simp only [Bool.false_eq_true, if_false, List.mapM_map]
  rw [show (objectAttachment reader podNamespace ∘ encodeMultusNetworkSpec) = fun spec =>
      pure ⟨spec.name, podNamespace, spec.interface, spec.ips, reader.noOptions⟩ from
    funext objectAttachment_encode]
  exact List.mapM_pure

theorem mem_of_mapM_eq_some {Source Target : Type} {read : Source → Option Target}
    {sources : List Source} {targets : List Target} (reads : sources.mapM read = some targets) :
    ∀ target ∈ targets, ∃ source ∈ sources, read source = some target := by
  induction sources generalizing targets with
  | nil =>
      cases reads
      simp
  | cons source rest inductionHypothesis =>
      simp only [List.mapM_cons, Option.bind_eq_bind, Option.bind_eq_some_iff, Option.pure_def,
        Option.some.injEq] at reads
      obtain ⟨first, readFirst, others, readOthers, rfl⟩ := reads
      intro target listed
      rcases List.mem_cons.mp listed with rfl | later
      · exact ⟨source, List.mem_cons_self, readFirst⟩
      · obtain ⟨other, member, readOther⟩ := inductionHypothesis readOthers target later
        exact ⟨other, List.mem_cons_of_mem _ member, readOther⟩

/-- An item of the short form asks for no addresses and no other options. -/
theorem shortAttachment_plain {item : String} {attachment : Attachment Options}
    (read : shortAttachment reader podNamespace item = some attachment) :
    attachment.ips = [] ∧ attachment.options = reader.noOptions := by
  obtain ⟨_, -, rest⟩ := Option.bind_eq_some_iff.mp read
  obtain ⟨_, -, equality⟩ := Option.bind_eq_some_iff.mp rest
  cases equality
  exact ⟨rfl, rfl⟩

theorem requestedAttachments_shortForm {networks : String}
    {attachments : List (Attachment Options)} (short : isShortForm networks = true)
    (read : requestedAttachments reader podNamespace networks = some attachments) :
    ∀ attachment ∈ attachments,
      attachment.ips = [] ∧ attachment.options = reader.noOptions := by
  by_cases visible : Text.trimSpace networks = ""
  · simp only [requestedAttachments, if_pos visible, Option.some.injEq] at read
    simp [← read]
  · simp only [requestedAttachments, if_neg visible, if_pos short] at read
    intro attachment listed
    obtain ⟨item, -, made⟩ := mem_of_mapM_eq_some read attachment listed
    exact shortAttachment_plain made

end Reading

section Survival

variable {Options : Type} (reader : OptionReader Options)

/-- Every attachment that the first Pod requests, the second requests too. -/
def KeepsAttachments (before after : Pod) : Prop :=
  ∀ old, podAttachments reader before = some old →
    ∃ new, podAttachments reader after = some new ∧
      ∀ attachment ∈ old, ∃ kept ∈ new, Survives (requestedNetworks before) attachment kept

/-- The attachment can be written with a name, an interface and addresses, and
the mutator reads it or is asked for it anyway. -/
structure Keepable (pod : Pod) (attachment : Attachment Options) : Prop where
  ns : attachment.ns = pod.key.ns
  options : attachment.options = reader.noOptions
  read : ∀ networks, pod.metadata.annotations.get? annotationMultusNetworks = some networks →
    isShortForm networks = true →
      ∃ sec ∈ requestedNetworks pod, sec.name = attachment.network ∧
        (attachment.interface = "" ∨ sec.interface = attachment.interface)

theorem mutatePodInterfacesWithContext_merged {hasClient : Bool} {pod mutated : Pod}
    {client : Client} {session : Session}
    (mutates : (mutatePodInterfacesWithContext hasClient pod client session).1 =
      .ok (true, mutated)) :
    ∃ entries, Merged (requestedNetworks pod) (existingMultusOf pod) entries ∧
      podAttachments reader mutated = some (entries.map fun entry =>
        ⟨entry.name, pod.key.ns, entry.interface, entry.ips, reader.noOptions⟩) := by
  obtain ⟨plan, merged, planned, loop, rfl⟩ := mutatePodInterfacesWithContext_ok mutates
  refine ⟨merged.existingMultus, ?_, ?_⟩
  · rw [requestedNetworks_of_plan planned, ← planMutation_start planned]
    exact mergeSecondaries_merged loop
  · rw [podAttachments, mutatedPod_multus]
    exact requestedAttachments_marshal _

variable {reader}

/-- An attachment of the JSON form survives as the entry that it grew into. -/
theorem Keepable.survives_json {pod : Pod} {attachment : Attachment Options}
    {entries : List MultusNetworkSpec} (keepable : Keepable reader pod attachment)
    (merged : Merged (requestedNetworks pod) (existingMultusOf pod) entries)
    (read : attachment.spec ∈ existingMultusOf pod) :
    ∃ entry ∈ entries, Survives (requestedNetworks pod) attachment
      ⟨entry.name, pod.key.ns, entry.interface, entry.ips, reader.noOptions⟩ := by
  obtain ⟨entry, listed, grown⟩ := merged.kept _ read
  exact ⟨entry, listed, grown.name, keepable.ns.symm, keepable.options.symm, grown.ips,
    grown.interface⟩

/-- An attachment of the short form survives as the entry of the requested
interface that asks for the same. -/
theorem Keepable.survives_shortForm {pod : Pod} {networks : String}
    {attachment : Attachment Options} {entries : List MultusNetworkSpec}
    (keepable : Keepable reader pod attachment)
    (found : pod.metadata.annotations.get? annotationMultusNetworks = some networks)
    (short : isShortForm networks = true)
    (merged : Merged (requestedNetworks pod) (existingMultusOf pod) entries)
    (plain : attachment.ips = []) :
    ∃ entry ∈ entries, Survives (requestedNetworks pod) attachment
      ⟨entry.name, pod.key.ns, entry.interface, entry.ips, reader.noOptions⟩ := by
  obtain ⟨sec, requested, named, interfaces⟩ := keepable.read networks found short
  obtain ⟨entry, listed, sameName, provided⟩ := merged.provided sec requested
  refine ⟨entry, listed, sameName.trans named, keepable.ns.symm, keepable.options.symm,
    .inl plain, ?_⟩
  by_cases empty : attachment.interface = ""
  · rcases merged.origin entry listed with ⟨old, existing, -⟩ | ⟨claimant, member, called, claimed⟩
    · rw [existingMultusOf_shortForm found short] at existing
      cases existing
    · exact .inr ⟨empty, claimant, member, called.trans (sameName.trans named), claimed⟩
  · have same : sec.interface = attachment.interface := interfaces.resolve_left empty
    rcases provided with none | given
    · exact absurd (same.symm.trans none) empty
    · exact .inl (given.trans same)

/-- What survives is in the Pod's namespace and has no other options, and
when the mutator does not read it, a requested interface asks for the same. -/
theorem Survives.keepable {pod : Pod} {attachment : Attachment Options}
    {entry : MultusNetworkSpec} {entries : List MultusNetworkSpec}
    (survives : Survives (requestedNetworks pod) attachment
      ⟨entry.name, pod.key.ns, entry.interface, entry.ips, reader.noOptions⟩)
    (merged : Merged (requestedNetworks pod) (existingMultusOf pod) entries)
    (listed : entry ∈ entries) : Keepable reader pod attachment where
  ns := survives.ns.symm
  options := survives.options.symm
  read networks found short := by
    rcases merged.origin entry listed with ⟨old, existing, -⟩ | ⟨sec, member, called, claimed⟩
    · rw [existingMultusOf_shortForm found short] at existing
      cases existing
    · refine ⟨sec, member, called.trans survives.network, ?_⟩
      rcases survives.interface with same | ⟨empty, -⟩
      · exact .inr (claimed.trans same)
      · exact .inl empty

theorem KeepsAttachments.keepable {hasClient : Bool} {pod mutated : Pod}
    {client : Client} {session : Session} (keeps : KeepsAttachments reader pod mutated)
    (mutates : (mutatePodInterfacesWithContext hasClient pod client session).1 =
      .ok (true, mutated)) :
    ∀ old, podAttachments reader pod = some old →
      ∀ attachment ∈ old, Keepable reader pod attachment := by
  intro old requested attachment listed
  obtain ⟨entries, merged, written⟩ := mutatePodInterfacesWithContext_merged reader mutates
  obtain ⟨new, rewritten, survivors⟩ := keeps old requested
  obtain ⟨kept, member, survives⟩ := survivors attachment listed
  rw [written, Option.some.injEq] at rewritten
  rw [← rewritten, List.mem_map] at member
  obtain ⟨entry, inEntries, rfl⟩ := member
  exact survives.keepable merged inEntries

theorem Keepable.survives {pod : Pod} {attachment : Attachment Options}
    {old : List (Attachment Options)} {entries : List MultusNetworkSpec}
    (keepable : Keepable reader pod attachment)
    (merged : Merged (requestedNetworks pod) (existingMultusOf pod) entries)
    (requested : podAttachments reader pod = some old) (listed : attachment ∈ old) :
    ∃ entry ∈ entries, Survives (requestedNetworks pod) attachment
      ⟨entry.name, pod.key.ns, entry.interface, entry.ips, reader.noOptions⟩ := by
  cases found : pod.metadata.annotations.get? annotationMultusNetworks with
  | none =>
      simp only [podAttachments, found, Option.some.injEq] at requested
      rw [← requested] at listed
      cases listed
  | some networks =>
      simp only [podAttachments, found] at requested
      by_cases visible : Text.trimSpace networks = ""
      · simp only [requestedAttachments, if_pos visible, Option.some.injEq] at requested
        rw [← requested] at listed
        cases listed
      · cases form : isShortForm networks with
        | true =>
            exact keepable.survives_shortForm found form merged
              (requestedAttachments_shortForm form requested attachment listed).1
        | false =>
            apply keepable.survives_json merged
            rw [existingMultusOf_json found visible form requested]
            exact List.mem_map_of_mem listed

/-- Every attachment of the old annotation survives exactly when each is
keepable. -/
theorem keepsAttachments_iff {hasClient : Bool} {pod mutated : Pod}
    {client : Client} {session : Session}
    (mutates : (mutatePodInterfacesWithContext hasClient pod client session).1 =
      .ok (true, mutated)) :
    KeepsAttachments reader pod mutated ↔
      ∀ old, podAttachments reader pod = some old →
        ∀ attachment ∈ old, Keepable reader pod attachment := by
  constructor
  · intro keeps
    exact keeps.keepable mutates
  · intro keepable old requested
    obtain ⟨entries, merged, written⟩ := mutatePodInterfacesWithContext_merged reader mutates
    refine ⟨_, written, fun attachment listed => ?_⟩
    obtain ⟨entry, inEntries, survives⟩ :=
      (keepable old requested attachment listed).survives merged requested listed
    exact ⟨_, List.mem_map_of_mem inEntries, survives⟩

end Survival

def optionNames : OptionReader (List String) where
  read members := (members.map Prod.fst).filter fun name =>
    decide (name ∉ ["name", "namespace", "interface", "ips"])
  noOptions := []
  plain members names := by
    simp only [List.filter_eq_nil_iff, List.mem_map, decide_eq_true_eq, not_not]
    rintro name ⟨member, listed, rfl⟩
    have named := names member listed
    simp only [List.mem_cons, List.not_mem_nil, or_false] at named ⊢
    tauto

/-- A Pod with a Multus annotation that asks for the secondary network
`vlan-123` at `eth1`. -/
def multusPod (networks : String) : Pod where
  metadata := {
    key := ⟨"default", "test-pod"⟩
    annotations := (Dict.singleton annotationMultusNetworks networks).set annotationGKEInterfaces
      (marshalGKEInterfaces [⟨"eth1", "vlan-123"⟩]) }
  body := {}

theorem multusPod_mutates (networks : String) (start merged : MergeState)
    (planned : planMutation (multusPod networks) =
      some ⟨[], [⟨"vlan-123", "eth1", []⟩], start⟩)
    (merges : (mergeSecondary false ⟨"vlan-123", "eth1", []⟩ start noFaults ⟨∅, "", [], []⟩).1 =
      .ok merged) :
    (mutatePodInterfacesWithContext false (multusPod networks) noFaults ⟨∅, "", [], []⟩).1 =
      .ok (true, mutatedPod (multusPod networks) [] merged.existingMultus) := by
  have mergesAll : (mergeSecondaries false [⟨"vlan-123", "eth1", []⟩] start noFaults
      ⟨∅, "", [], []⟩).1 = .ok merged := by
    simp only [mergeSecondaries, Program.bind_apply]
    generalize mergeSecondary false ⟨"vlan-123", "eth1", []⟩ start noFaults ⟨∅, "", [], []⟩ =
      outcome at merges ⊢
    obtain ⟨result, after⟩ := outcome
    dsimp only at merges
    subst merges
    rfl
  have mutates := mutatePodInterfacesWithContext_of_merge planned mergesAll
  exact mutates

/-- An annotation with the attachment `existing-net` at `eth10`. -/
def existingAnnotation : String := marshalMultusNetworks [⟨"existing-net", "eth10", []⟩]

theorem keepsAttachments_iff_multusPod :
    KeepsAttachments optionNames (multusPod existingAnnotation)
        (mutatedPod (multusPod existingAnnotation) []
          [⟨"existing-net", "eth10", []⟩, ⟨"vlan-123", "eth1", []⟩]) ↔
      ∀ old, podAttachments optionNames (multusPod existingAnnotation) = some old →
        ∀ attachment ∈ old, Keepable optionNames (multusPod existingAnnotation) attachment :=
  keepsAttachments_iff (multusPod_mutates existingAnnotation
    ⟨[⟨"existing-net", "eth10", []⟩], []⟩
    ⟨[⟨"existing-net", "eth10", []⟩, ⟨"vlan-123", "eth1", []⟩], []⟩
    (by decide +kernel) (by rfl))

/-- An annotation with the attachment `existing-net` of the namespace `other`. -/
def foreignAnnotation : String :=
  (Json.array [.object [("name", .string "existing-net"), ("namespace", .string "other")]]).render

/-- An attachment in another namespace moves to that of the Pod. -/
theorem foreignAttachment_lost :
    ¬ ∀ (hasClient : Bool) (pod mutated : Pod) (client : Client) (session : Session),
      (mutatePodInterfacesWithContext hasClient pod client session).1 = .ok (true, mutated) →
        KeepsAttachments optionNames pod mutated := by
  intro always
  have mutates := multusPod_mutates foreignAnnotation
    ⟨[⟨"existing-net", "", []⟩], []⟩
    ⟨[⟨"existing-net", "", []⟩, ⟨"vlan-123", "eth1", []⟩], []⟩
    (by decide +kernel) (by rfl)
  have requested : podAttachments optionNames (multusPod foreignAnnotation) =
      some [⟨"existing-net", "other", "", [], []⟩] := by decide +kernel
  have keepable := (always _ _ _ _ _ mutates).keepable mutates _ requested _
    List.mem_cons_self
  have foreign : "other" = "default" := keepable.ns
  revert foreign
  decide

end GemEmulation.Operator
