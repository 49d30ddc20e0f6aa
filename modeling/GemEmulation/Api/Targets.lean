import GemEmulation.Api.Models.Validators
import GemEmulation.Foundations.Dict

/-!
# The target of a pipeline

How the process runner resolves the project, zone and region of a request and
hands them to its subprocesses.
-/

namespace GemEmulation.Api

open Foundations Python

structure Settings where
  defaultProjectId : String
  defaultZone : String
  logDir : String

namespace Settings

def defaultRegion (settings : Settings) : String :=
  if '-' ∈ settings.defaultZone.toList then joinInit '-' settings.defaultZone else "us-central1"

def getProvisioningSa (settings : Settings) (projectId : String) : String :=
  let pid := if projectId = "" then settings.defaultProjectId else projectId
  s!"tf-provisioner@{pid}.iam.gserviceaccount.com"

def getTfStateBucket (settings : Settings) (projectId : String) : String :=
  let pid := if projectId = "" then settings.defaultProjectId else projectId
  s!"gem-{pid}-tfstate"

end Settings

def cleanStr : Option String → Option String
  | none => none
  | some val =>
      let v := Python.strip val
      if v = "" ∨ v.toLower ∈ placeholders then none else some v

/-- `_resolve_zone_and_region`, which swaps a zone and a region given for each
other. -/
def resolveZoneAndRegion (rawZone rawRegion : Option String) (defaultZone defaultRegion : String) :
    String × String :=
  let z := (cleanStr rawZone).getD defaultZone
  match cleanStr rawRegion with
  | some r =>
      if isMatch gcpRegionRegex z && isMatch gcpZoneRegex r then (r, z) else (z, r)
  | none => (z, if '-' ∈ z.toList then joinInit '-' z else defaultRegion)

structure GcpContext where
  projectId : String
  zone : String
  region : String
  provisioningSa : String
  bucket : String
  env : Dict String String

def prepareGcpContext (settings : Settings) (environ : Dict String String)
    (request : GcpTargetRequest) (operationId clusterName : String)
    (tfStateBucket : Option String) : GcpContext :=
  let projectId := (cleanStr request.projectId).getD settings.defaultProjectId
  let (zone, region) := resolveZoneAndRegion request.zone request.region settings.defaultZone
    settings.defaultRegion
  let provisioningSa := (cleanStr request.provisioningSaEmail).getD
    (settings.getProvisioningSa projectId)
  let bucket := (cleanStr tfStateBucket).getD (settings.getTfStateBucket projectId)
  let env := environ
    |>.set "CLUSTER_NAME" clusterName
    |>.set "PROJECT_ID" projectId
    |>.set "GEM_GCP_ZONE" zone
    |>.set "TF_DATA_DIR" s!"{settings.logDir}/.terraform-{operationId}"
    |>.set "TF_VAR_project_id" projectId
    |>.set "TF_VAR_zone" zone
    |>.set "TF_VAR_region" region
  let env := if provisioningSa = "" then env
    else env
      |>.set "TF_VAR_provisioning_sa_email" provisioningSa
      |>.set "GOOGLE_IMPERSONATE_SERVICE_ACCOUNT" provisioningSa
  { projectId, zone, region, provisioningSa, bucket, env }

/-- The zone is the region with a zone letter. -/
def Agree (zone region : String) : Prop :=
  ∃ letter : Char, letter.isAlpha = true ∧ zone = region ++ .ofList ['-', letter]

/-- Terraform and Ansible are sent one zone and one region, which agree. -/
def SendsAgreeing (context : GcpContext) : Prop :=
  Agree context.zone context.region ∧
    context.env.get? "GEM_GCP_ZONE" = some context.zone ∧
      context.env.get? "TF_VAR_zone" = some context.zone ∧
        context.env.get? "TF_VAR_region" = some context.region

/-- The default zone is of the form `<a>-<b>-<letter>`. -/
def ZoneForm (zone : String) : Prop :=
  ∃ (a b : String) (letter : Char), letter.isAlpha = true ∧
    zone = a ++ .ofList ('-' :: (b.toList ++ ['-', letter]))

theorem prepareGcpContext_sends (settings : Settings) (environ : Dict String String)
    (request : GcpTargetRequest) (operationId clusterName : String)
    (tfStateBucket : Option String) :
    SendsAgreeing (prepareGcpContext settings environ request operationId clusterName
        tfStateBucket) ↔
      Agree (resolveZoneAndRegion request.zone request.region settings.defaultZone
          settings.defaultRegion).1
        (resolveZoneAndRegion request.zone request.region settings.defaultZone
          settings.defaultRegion).2 := by
  simp only [SendsAgreeing, prepareGcpContext]
  split <;> simp [Dict.get?_set]

theorem cleanStr_hyphen {text : String} (hyphen : '-' ∈ text.toList)
    (visible : ∀ c ∈ text.toList, Python.isSpace c = false) :
    cleanStr (some text) = some text := by
  have nonempty : text ≠ "" := by
    rintro rfl
    simp at hyphen
  simp [cleanStr, strip_eq_self visible, nonempty, hyphen_not_placeholder hyphen]

theorem visible_joined {first second : List Char} (left : ∀ c ∈ first, Python.isSpace c = false)
    (right : ∀ c ∈ second, Python.isSpace c = false) :
    ∀ c ∈ first ++ '-' :: second, Python.isSpace c = false := by
  intro c member
  rcases List.mem_append.mp member with inFirst | inRest
  · exact left c inFirst
  · rcases List.mem_cons.mp inRest with rfl | inSecond
    · decide
    · exact right c inSecond

theorem ZoneForm.split {zone : String} (form : ZoneForm zone) :
    ∃ region letter, letter.isAlpha = true ∧ '-' ∈ region.toList ∧
      zone = region ++ .ofList ['-', letter] := by
  obtain ⟨a, b, letter, alpha, rfl⟩ := form
  refine ⟨a ++ .ofList ('-' :: b.toList), letter, alpha, by simp, ?_⟩
  rw [← String.toList_inj]
  simp

theorem hyphen_ne_letter {letter : Char} (alpha : letter.isAlpha = true) : '-' ∉ [letter] := by
  intro member
  rw [List.mem_singleton] at member
  subst member
  exact absurd alpha (by decide)

theorem Agree.region_eq {zone region : String} (agree : Agree zone region) :
    beforeLast '-' zone = region := by
  obtain ⟨letter, alpha, rfl⟩ := agree
  exact beforeLast_append region (hyphen_ne_letter alpha)

theorem ZoneForm.agrees {zone : String} (form : ZoneForm zone) :
    Agree zone (beforeLast '-' zone) := by
  obtain ⟨region, letter, alpha, -, rfl⟩ := form.split
  rw [beforeLast_append region (hyphen_ne_letter alpha)]
  exact ⟨letter, alpha, rfl⟩

theorem ZoneForm.agree_iff {zone : String} (form : ZoneForm zone) (region : String) :
    Agree zone region ↔ region = beforeLast '-' zone := by
  constructor
  · exact fun agree => agree.region_eq.symm
  · rintro rfl
    exact form.agrees

theorem ZoneForm.joinInit_eq {zone : String} (form : ZoneForm zone) :
    joinInit '-' zone = beforeLast '-' zone := by
  obtain ⟨region, letter, alpha, -, rfl⟩ := form.split
  rw [joinInit_append region (hyphen_ne_letter alpha),
    beforeLast_append region (hyphen_ne_letter alpha)]

theorem ZoneForm.not_region {zone : String} (form : ZoneForm zone) :
    isMatch gcpRegionRegex zone = false := by
  obtain ⟨region, letter, alpha, hyphen, rfl⟩ := form.split
  have unbroken : (region ++ .ofList ['-', letter]).toList.getLast? ≠ some '\n' := by
    simp only [String.toList_append, String.toList_ofList, List.getLast?_append]
    simp only [List.getLast?_cons_cons, List.getLast?_singleton, Option.some_or, ne_eq,
      Option.some.injEq]
    rintro rfl
    exact absurd alpha (by decide)
  rw [Bool.eq_false_iff]
  intro matched
  have once := count_gcpRegionRegex ((isMatch_iff unbroken).mp matched)
  have before := List.count_pos_iff.mpr hyphen
  simp only [String.toList_append, String.toList_ofList, List.count_append,
    List.count_cons_self] at once
  omega

/-- A zone that the validation accepts keeps its form and is no placeholder. -/
theorem validZone_form {val zone : String} (sanitized : sanitizeText val = some zone)
    (matched : isMatch gcpZoneRegex zone = true) :
    ZoneForm zone ∧ cleanStr (some zone) = some zone ∧
      cleanStr (some (beforeLast '-' zone)) = some (beforeLast '-' zone) := by
  obtain ⟨location, name, letter, equality, locationPart, namePart, listed⟩ :=
    mem_gcpZoneRegex ((sanitizeText_isMatch sanitized _).mp matched)
  have letters : lower.toList.all Char.isAlpha = true := by decide
  have alpha : letter.isAlpha = true := List.all_eq_true.mp letters letter listed
  have letterPart : IsNamePart [letter] := .of_lower (by simpa using listed)
  have form : ZoneForm zone :=
    ⟨.ofList location, .ofList name, letter, alpha, by rw [← String.toList_inj]; simp [equality]⟩
  have region : beforeLast '-' zone = .ofList (location ++ '-' :: name) := by
    have shape : zone = .ofList (location ++ '-' :: name) ++ .ofList ['-', letter] := by
      rw [← String.toList_inj]
      simp [equality]
    rw [shape, beforeLast_append _ (hyphen_ne_letter alpha)]
  refine ⟨form, ?_, ?_⟩
  · apply cleanStr_hyphen
    · simp [equality]
    · rw [equality]
      exact visible_joined locationPart.visible (visible_joined namePart.visible letterPart.visible)
  · rw [region]
    apply cleanStr_hyphen
    · simp
    · rw [String.toList_ofList]
      exact visible_joined locationPart.visible namePart.visible

theorem validRegion_clean {val region : String} (sanitized : sanitizeText val = some region)
    (matched : isMatch gcpRegionRegex region = true) : cleanStr (some region) = some region := by
  obtain ⟨location, name, equality, locationPart, namePart⟩ :=
    mem_gcpRegionRegex ((sanitizeText_isMatch sanitized _).mp matched)
  apply cleanStr_hyphen
  · simp [equality]
  · rw [equality]
    exact visible_joined locationPart.visible namePart.visible

/-- The pair agrees when the request gives a zone, or no region, or the region
of the default zone. -/
theorem sendsAgreeing_iff {settings : Settings} (form : ZoneForm settings.defaultZone)
    {raw : GcpTargetFields} {request : GcpTargetRequest}
    (accepted : GcpTargetRequest.validate raw = .valid request) (environ : Dict String String)
    (operationId clusterName : String) (tfStateBucket : Option String) :
    SendsAgreeing (prepareGcpContext settings environ request operationId clusterName
        tfStateBucket) ↔
      raw.zone.kept ≠ none ∨ raw.region.kept = none ∨
        raw.region.kept = some (beforeLast '-' settings.defaultZone) := by
  rw [prepareGcpContext_sends]
  have validated := GcpTargetRequest.validate_valid accepted
  rcases validateZoneAndRegion_ok validated with
    ⟨zone, given, matched, zoneEquality, regionEquality⟩ |
      ⟨zoneAbsent, zoneEquality, regionEquality, matched⟩
  · have present : raw.zone.kept ≠ none := by
      simp [Given.kept, given]
    obtain ⟨text, -, sanitized⟩ := Option.bind_eq_some_iff.mp given
    obtain ⟨zoneForm, zoneClean, regionClean⟩ := validZone_form sanitized matched
    simp [present, resolveZoneAndRegion, zoneEquality, regionEquality, zoneClean, regionClean,
      zoneForm.not_region, zoneForm.agrees]
  · have absent : raw.zone.kept = none := zoneAbsent
    have noZone : cleanStr request.zone = none := by rw [zoneEquality]; rfl
    have regionGiven : request.region = raw.region.kept := regionEquality
    cases region : raw.region.kept with
    | none =>
        have noRegion : cleanStr request.region = none := by rw [regionGiven, region]; rfl
        obtain ⟨front, letter, -, -, shape⟩ := form.split
        have hyphen : '-' ∈ settings.defaultZone.toList := by simp [shape]
        simp [resolveZoneAndRegion, noZone, noRegion, hyphen, form.joinInit_eq, form.agrees]
    | some text =>
        obtain ⟨value, -, sanitized⟩ := Option.bind_eq_some_iff.mp region
        have clean := validRegion_clean sanitized (matched text (regionGiven.trans region))
        rw [← region, ← regionGiven] at clean
        simp [absent, resolveZoneAndRegion, noZone, clean.trans (regionGiven.trans region),
          form.not_region, form.agree_iff]

def iowaSettings : Settings where
  defaultProjectId := "gem-default-project"
  defaultZone := "us-central1-a"
  logDir := "/tmp/gem-api/logs"

def regionOnly : GcpTargetFields where
  projectId := .absent
  zone := .absent
  region := .text "us-east5"
  provisioningSaEmail := .absent

theorem iowaSettings_form : ZoneForm iowaSettings.defaultZone :=
  ⟨"us", "central1", 'a', by decide, by decide⟩

theorem regionOnly_disagrees :
    ZoneForm iowaSettings.defaultZone ∧
      ∃ request, GcpTargetRequest.validate regionOnly = .valid request ∧
        ¬ SendsAgreeing (prepareGcpContext iowaSettings ∅ request "cluster-create-1"
          "gem-cluster-1" none) := by
  refine ⟨iowaSettings_form, ⟨none, none, some "us-east5", none⟩, by decide +kernel, ?_⟩
  rintro ⟨agree, -⟩
  have zone : (prepareGcpContext iowaSettings ∅ ⟨none, none, some "us-east5", none⟩
      "cluster-create-1" "gem-cluster-1" none).zone = "us-central1-a" := by decide +kernel
  have region : (prepareGcpContext iowaSettings ∅ ⟨none, none, some "us-east5", none⟩
      "cluster-create-1" "gem-cluster-1" none).region = "us-east5" := by decide +kernel
  rw [zone, region] at agree
  exact absurd agree.region_eq (by decide)

theorem sendsAgreeing_regionOnly :
    GcpTargetRequest.validate regionOnly = .valid ⟨none, none, some "us-east5", none⟩ ∧
      (SendsAgreeing (prepareGcpContext iowaSettings ∅ ⟨none, none, some "us-east5", none⟩
          "cluster-create-1" "gem-cluster-1" none) ↔
        regionOnly.zone.kept ≠ none ∨ regionOnly.region.kept = none ∨
          regionOnly.region.kept = some (beforeLast '-' iowaSettings.defaultZone)) :=
  have accepted : GcpTargetRequest.validate regionOnly =
      .valid ⟨none, none, some "us-east5", none⟩ := by decide +kernel
  ⟨accepted, sendsAgreeing_iff iowaSettings_form accepted ∅ "cluster-create-1" "gem-cluster-1" none⟩

end GemEmulation.Api
