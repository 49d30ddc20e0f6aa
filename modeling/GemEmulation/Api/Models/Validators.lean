import GemEmulation.Foundations.Python

/-!
# Shared validators of the request models

The checks that the models make on a request's fields, and the model of the
requests that target a project and a zone.  The errors of all fields are
reported together; a model's own check runs when there are none.
-/

namespace GemEmulation.Api

open Python

structure FieldError where
  location : List String
  message : String
  deriving DecidableEq, Repr

/-- The outcome of a validation. -/
inductive Checked (Value : Type) where
  | valid (value : Value)
  | invalid (errors : List FieldError)
  deriving DecidableEq, Repr

namespace Checked

variable {Value Result : Type}

def and (make : Checked (Value → Result)) (next : Checked Value) : Checked Result :=
  match make, next with
  | .valid make, .valid value => .valid (make value)
  | .valid _, .invalid errors => .invalid errors
  | .invalid errors, .valid _ => .invalid errors
  | .invalid errors, .invalid others => .invalid (errors ++ others)

def andThen (fields : Checked Value) (check : Value → Except String Result) : Checked Result :=
  match fields with
  | .invalid errors => .invalid errors
  | .valid value =>
      match check value with
      | .ok result => .valid result
      | .error message => .invalid [⟨[], message⟩]

def field (name : String) (check : Except String Value) : Checked Value :=
  match check with
  | .ok value => .valid value
  | .error message => .invalid [⟨[name], message⟩]

@[simp]
theorem and_eq_valid {make : Checked (Value → Result)} {next : Checked Value} {result : Result} :
    make.and next = .valid result ↔
      ∃ function value, make = .valid function ∧ next = .valid value ∧ function value = result := by
  cases make <;> cases next <;> simp [Checked.and]

@[simp]
theorem andThen_eq_valid {fields : Checked Value} {check : Value → Except String Result}
    {result : Result} :
    fields.andThen check = .valid result ↔
      ∃ value, fields = .valid value ∧ check value = .ok result := by
  cases fields with
  | invalid errors => simp [andThen]
  | valid value => cases checked : check value <;> simp [andThen, checked]

@[simp]
theorem field_eq_valid {name : String} {check : Except String Value} {value : Value} :
    field name check = .valid value ↔ check = .ok value := by
  cases check <;> simp [field]

end Checked

def lower : String := "abcdefghijklmnopqrstuvwxyz"
def upper : String := "ABCDEFGHIJKLMNOPQRSTUVWXYZ"
def digits : String := "0123456789"

def gcpZoneRegex : RegularExpression Char :=
  oneOrMore (oneOf lower) * exactly "-" * oneOrMore (oneOf (lower ++ digits)) * exactly "-" *
    oneOf lower

def gcpRegionRegex : RegularExpression Char :=
  oneOrMore (oneOf lower) * exactly "-" * oneOrMore (oneOf (lower ++ digits))

def gcpProjectIdRegex : RegularExpression Char :=
  oneOf lower * zeroOrMore (oneOf (lower ++ digits ++ "-")) * oneOf (lower ++ digits)

def gceNameRegex : RegularExpression Char :=
  oneOf lower * Python.optional (zeroOrMore (oneOf (lower ++ digits ++ "-")) *
    oneOf (lower ++ digits))

def storageSizeRegex : RegularExpression Char :=
  oneOf "123456789" * zeroOrMore (oneOf digits) *
    (exactly "GB" + exactly "TB" + exactly "GiB" + exactly "TiB")

def emailRegex : RegularExpression Char :=
  oneOrMore (oneOf (lower ++ upper ++ digits ++ "_.+-")) * exactly "@" *
    oneOrMore (oneOf (lower ++ upper ++ digits ++ "-")) * exactly "." *
      oneOrMore (oneOf (lower ++ upper ++ digits ++ "-."))

def IsNamePart (text : List Char) : Prop := ∀ c ∈ text, c ∈ (lower ++ digits).toList

theorem IsNamePart.of_lower {text : List Char} (letters : ∀ c ∈ text, c ∈ lower.toList) :
    IsNamePart text := by
  intro c member
  rw [String.toList_append]
  exact List.mem_append_left _ (letters c member)

theorem IsNamePart.noHyphen {text : List Char} (part : IsNamePart text) : '-' ∉ text :=
  fun member => absurd (part '-' member) (by decide)

theorem IsNamePart.visible {text : List Char} (part : IsNamePart text) :
    ∀ c ∈ text, Python.isSpace c = false := by
  have all : (lower ++ digits).toList.all (fun c => !Python.isSpace c) = true := by decide
  intro c member
  simpa using List.all_eq_true.mp all c (part c member)

theorem mem_gcpZoneRegex {text : List Char} (member : text ∈ gcpZoneRegex.matches') :
    ∃ location name letter, text = location ++ '-' :: (name ++ ['-', letter]) ∧
      IsNamePart location ∧ IsNamePart name ∧ letter ∈ lower.toList := by
  simp only [gcpZoneRegex, RegularExpression.matches'_mul, Language.mem_mul, mem_exactly] at member
  obtain ⟨_, ⟨_, ⟨_, ⟨location, locationMember, _, rfl, rfl⟩, name, nameMember, rfl⟩, _, rfl, rfl⟩,
    last, lastMember, rfl⟩ := member
  obtain ⟨letter, listed, rfl⟩ := mem_oneOf.mp lastMember
  refine ⟨location, name, letter, by simp, ?_, ?_, listed⟩
  · exact .of_lower (mem_oneOrMore_oneOf.mp locationMember).2
  · exact (mem_oneOrMore_oneOf.mp nameMember).2

theorem mem_gcpRegionRegex {text : List Char} (member : text ∈ gcpRegionRegex.matches') :
    ∃ location name, text = location ++ '-' :: name ∧ IsNamePart location ∧ IsNamePart name := by
  simp only [gcpRegionRegex, RegularExpression.matches'_mul, Language.mem_mul,
    mem_exactly] at member
  obtain ⟨_, ⟨location, locationMember, _, rfl, rfl⟩, name, nameMember, rfl⟩ := member
  refine ⟨location, name, by simp, ?_, ?_⟩
  · exact .of_lower (mem_oneOrMore_oneOf.mp locationMember).2
  · exact (mem_oneOrMore_oneOf.mp nameMember).2

theorem count_gcpRegionRegex {text : List Char} (member : text ∈ gcpRegionRegex.matches') :
    text.count '-' = 1 := by
  obtain ⟨location, name, rfl, locationPart, namePart⟩ := mem_gcpRegionRegex member
  simp [List.count_append, List.count_eq_zero.mpr locationPart.noHyphen,
    List.count_eq_zero.mpr namePart.noHyphen]

/-- A field before its validation: missing or null, a text, or the text that
`str` makes of another value. -/
inductive Given where
  | absent
  | text (value : String)
  | other (printed : String)

/-- What the Swagger page fills into a field that the user leaves alone. -/
def placeholders : List String := ["string", "none", "null", "undefined"]

theorem hyphen_not_placeholder {text : String} (hyphen : '-' ∈ text.toList) :
    text.toLower ∉ placeholders := by
  intro listed
  have lowered : text.toLower.toList = text.toList.map Char.toLower := String.toList_map
  have kept : '-' ∈ text.toLower.toList := by
    rw [lowered]
    exact List.mem_map.mpr ⟨'-', hyphen, rfl⟩
  have plain : ∀ word ∈ placeholders, '-' ∉ word.toList := by decide
  exact plain _ listed kept

/-- The part of `sanitize_optional_str` for a text. -/
def sanitizeText (val : String) : Option String :=
  let v := Python.strip val
  if v = "" ∨ v.toLower ∈ placeholders then none else some v

theorem sanitizeText_some {val text : String} (sanitized : sanitizeText val = some text) :
    text = Python.strip val ∧ text ≠ "" ∧ text.toLower ∉ placeholders := by
  simp only [sanitizeText] at sanitized
  split at sanitized
  next => cases sanitized
  next proper =>
    cases sanitized
    exact ⟨rfl, fun empty => proper (.inl empty), fun listed => proper (.inr listed)⟩

theorem sanitizeText_isMatch {val text : String} (sanitized : sanitizeText val = some text)
    (pattern : RegularExpression Char) :
    isMatch pattern text = true ↔ text.toList ∈ pattern.matches' := by
  apply isMatch_iff
  intro broken
  rw [(sanitizeText_some sanitized).1] at broken
  exact absurd (strip_getLast broken) (by decide)

def sanitizeOptionalStr : Given → Option String
  | .absent => none
  | .other printed => some printed
  | .text value => sanitizeText value

theorem except_bind_ok {Value Result : Type} {first : Except String Value}
    {rest : Value → Except String Result} {result : Result} (ok : first >>= rest = .ok result) :
    ∃ value, first = .ok value ∧ rest value = .ok result := by
  cases first with
  | error message => cases ok
  | ok value => exact ⟨value, rfl, ok⟩

def checkSwapped : Option String → Option String → Except String Unit
  | some z, some r =>
      if isMatch gcpRegionRegex z && isMatch gcpZoneRegex r then
        .error (s!"Invalid GCP zone '{z}' and region '{r}': zone and region are swapped. " ++
          s!"In GCP, '{z}' is a region and '{r}' is a zone. " ++
          s!"Expected zone='{r}' and region='{z}'.")
      else .ok ()
  | _, _ => .ok ()

def checkZone : Option String → Except String Unit
  | some z =>
      if isMatch gcpZoneRegex z then .ok ()
      else if isMatch gcpRegionRegex z then
        .error (s!"Invalid GCP zone '{z}'. '{z}' is a GCP region; " ++
          s!"zones must include a zone letter suffix such as '{z}-a' or '{z}-b'.")
      else
        .error (s!"Invalid GCP zone '{z}'. Zones must follow the format " ++
          "'<region>-<zone_letter>' (e.g., 'us-central1-a', 'us-east5-b').")
  | none => .ok ()

def checkRegion : Option String → Except String Unit
  | some r =>
      let derived := beforeLast '-' r
      if isMatch gcpRegionRegex r then .ok ()
      else if isMatch gcpZoneRegex r then
        .error (s!"Invalid GCP region '{r}'. '{r}' is a GCP zone; " ++
          s!"regions must not include a zone letter suffix (e.g., '{derived}').")
      else
        .error (s!"Invalid GCP region '{r}'. Regions must follow the format '<location>-<name>' " ++
          s!"(e.g., 'us-central1', 'us-east5').")
  | none => .ok ()

/-- Cross-validate zone and region if both are provided, or derive the region. -/
def crossValidate : Option String → Option String → Except String (Option String × Option String)
  | some z, some r =>
      let expectedRegion := beforeLast '-' z
      if r = expectedRegion then .ok (some z, some r)
      else
        .error s!"Region '{r}' does not match zone '{z}' (expected region '{expectedRegion}')."
  | some z, none => .ok (some z, some (beforeLast '-' z))
  | none, r => .ok (none, r)

def Given.kept (value : Given) : Option String := (sanitizeOptionalStr value).bind sanitizeText

def validateZoneAndRegion (zone region : Option String) :
    Except String (Option String × Option String) := do
  let z := zone.bind sanitizeText
  let r := region.bind sanitizeText
  checkSwapped z r
  checkZone z
  checkRegion r
  crossValidate z r

theorem checkZone_ok {z : String} (checked : checkZone (some z) = .ok ()) :
    isMatch gcpZoneRegex z = true := by
  rw [checkZone] at checked
  split at checked
  next matched => exact matched
  next => split at checked <;> cases checked

theorem checkRegion_ok {r : String} (checked : checkRegion (some r) = .ok ()) :
    isMatch gcpRegionRegex r = true := by
  rw [checkRegion] at checked
  split at checked
  next matched => exact matched
  next => split at checked <;> cases checked

theorem crossValidate_ok {z r : Option String} {result : Option String × Option String}
    (validated : crossValidate z r = .ok result) :
    result = (z, (z.map (beforeLast '-')).or r) := by
  cases z with
  | none =>
      cases validated
      rfl
  | some text =>
      cases r with
      | none =>
          cases validated
          rfl
      | some region =>
          simp only [crossValidate] at validated
          split at validated
          next equality =>
            cases validated
            simp [equality]
          next => cases validated

/-- An accepted zone comes with its own region, and without a zone the region
is left as it was. -/
theorem validateZoneAndRegion_ok {zone region z r : Option String}
    (accepted : validateZoneAndRegion zone region = .ok (z, r)) :
    (∃ text, zone.bind sanitizeText = some text ∧ isMatch gcpZoneRegex text = true ∧
        z = some text ∧ r = some (beforeLast '-' text)) ∨
      (zone.bind sanitizeText = none ∧ z = none ∧ r = region.bind sanitizeText ∧
        ∀ text ∈ r, isMatch gcpRegionRegex text = true) := by
  obtain ⟨⟨⟩, -, others⟩ := except_bind_ok accepted
  obtain ⟨⟨⟩, zoneChecked, others⟩ := except_bind_ok others
  obtain ⟨⟨⟩, regionChecked, validated⟩ := except_bind_ok others
  have result := crossValidate_ok validated
  cases zoneGiven : zone.bind sanitizeText with
  | none =>
      rw [zoneGiven] at result
      cases result
      refine .inr ⟨rfl, rfl, by simp, ?_⟩
      intro text found
      apply checkRegion_ok
      simpa [show region.bind sanitizeText = some text by simpa using found] using regionChecked
  | some text =>
      rw [zoneGiven] at result zoneChecked
      cases result
      exact .inl ⟨text, rfl, checkZone_ok zoneChecked, rfl, rfl⟩

def validateEmailOrSa (val : Option String) (fieldName : String) : Except String (Option String) :=
  match val.bind sanitizeText with
  | none => .ok none
  | some v =>
      if isMatch emailRegex v then .ok (some v)
      else .error s!"Invalid {fieldName} '{v}'. Must be a valid service account email address."

def validateProjectId (val : Option String) : Except String (Option String) :=
  match val.bind sanitizeText with
  | none => .ok none
  | some v =>
      if isMatch gcpProjectIdRegex v then .ok (some v)
      else .error (s!"Invalid project_id '{v}'. GCP project IDs must be lowercase alphanumeric " ++
        s!"with hyphens, starting with a letter and ending with a letter or digit.")

def validateStorageSize (val : String) : Except String String :=
  let v := Python.strip val
  if isMatch storageSizeRegex v then .ok v
  else .error s!"Invalid node_storage_size '{v}'. Expected format like '100GB' or '1TB'."

def validateGceResourceName (val fieldName : String) (maxLen : Nat) : Except String String :=
  let v := Python.strip val
  if v = "" then .error s!"{fieldName} cannot be empty."
  else if maxLen < v.length then
    .error s!"{fieldName} '{v}' exceeds the maximum allowed length of {maxLen} characters."
  else if !isMatch gceNameRegex v then
    .error (s!"{fieldName} '{v}' must be lowercase alphanumeric with hyphens, " ++
      s!"starting with a letter.")
  else .ok v

structure GcpTargetFields where
  projectId : Given
  zone : Given
  region : Given
  provisioningSaEmail : Given

structure GcpTargetRequest where
  projectId : Option String
  zone : Option String
  region : Option String
  provisioningSaEmail : Option String
  deriving DecidableEq, Repr

def GcpTargetRequest.fields (raw : GcpTargetFields) : Checked GcpTargetRequest :=
  (Checked.valid GcpTargetRequest.mk)
    |>.and (.field "project_id" (validateProjectId (sanitizeOptionalStr raw.projectId)))
    |>.and (.field "zone" (.ok (sanitizeOptionalStr raw.zone)))
    |>.and (.field "region" (.ok (sanitizeOptionalStr raw.region)))
    |>.and (.field "provisioning_sa_email"
      (validateEmailOrSa (sanitizeOptionalStr raw.provisioningSaEmail) "provisioning_sa_email"))

/-- `validate_gcp_target_parameters`. -/
def GcpTargetRequest.validateTarget (request : GcpTargetRequest) :
    Except String GcpTargetRequest := do
  let (zone, region) ← validateZoneAndRegion request.zone request.region
  pure { request with zone, region }

def GcpTargetRequest.validate (raw : GcpTargetFields) : Checked GcpTargetRequest :=
  (GcpTargetRequest.fields raw).andThen GcpTargetRequest.validateTarget

theorem GcpTargetRequest.validate_valid {raw : GcpTargetFields} {request : GcpTargetRequest}
    (accepted : GcpTargetRequest.validate raw = .valid request) :
    validateZoneAndRegion (sanitizeOptionalStr raw.zone) (sanitizeOptionalStr raw.region) =
      .ok (request.zone, request.region) := by
  simp only [GcpTargetRequest.validate, Checked.andThen_eq_valid, GcpTargetRequest.fields,
    Checked.and_eq_valid, Checked.field_eq_valid, Checked.valid.injEq, Except.ok.injEq,
    exists_and_left, exists_eq_left'] at accepted
  obtain ⟨_, ⟨_, ⟨_, ⟨_, ⟨project, -, rfl⟩, rfl⟩, rfl⟩, account, -, rfl⟩, checked⟩ := accepted
  obtain ⟨⟨zone, region⟩, validated, made⟩ := except_bind_ok checked
  cases made
  exact validated

end GemEmulation.Api
