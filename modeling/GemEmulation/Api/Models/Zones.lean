import GemEmulation.Api.Models.Validators

/-!
# Zones and regions

Which zones and regions the validation accepts, and what it makes of them.  A
zone is a region with one more letter, so no text is both.
-/

namespace GemEmulation.Api

open Python

def IsWord (chars : String) (word : List Char) : Prop := word ≠ [] ∧ ∀ c ∈ word, c ∈ chars.toList

def IsRegion (text : String) : Prop :=
  ∃ location name, IsWord lower location ∧ IsWord (lower ++ digits) name ∧
    text = .ofList (location ++ '-' :: name)

/-- `<letters>-<alnum>-<letter>`. -/
def IsZone (text : String) : Prop :=
  ∃ region letter, IsRegion region ∧ letter ∈ lower.toList ∧ text = region ++ .ofList ['-', letter]

/-- A zone and a region, as far as they are given, that belong together. -/
structure Fits (z r : Option String) : Prop where
  zone : ∀ text ∈ z, IsZone text
  region : ∀ text ∈ r, IsRegion text
  agree : ∀ zone ∈ z, ∀ region ∈ r, region = beforeLast '-' zone

def withRegion (zone region : Option String) : Option String × Option String :=
  (zone, region.or (zone.map (beforeLast '-')))

theorem mem_oneOrMore_iff_isWord {chars : String} {word : List Char} :
    word ∈ (oneOrMore (oneOf chars)).matches' ↔ IsWord chars word :=
  mem_oneOrMore_oneOf

theorem mem_gcpRegionRegex_iff {text : String} :
    text.toList ∈ gcpRegionRegex.matches' ↔ IsRegion text := by
  simp only [gcpRegionRegex, RegularExpression.matches'_mul, Language.mem_mul, mem_exactly,
    mem_oneOrMore_iff_isWord]
  constructor
  · rintro ⟨_, ⟨location, locationWord, _, rfl, rfl⟩, name, nameWord, joined⟩
    refine ⟨location, name, locationWord, nameWord, ?_⟩
    rw [← String.toList_inj, ← joined]
    simp
  · rintro ⟨location, name, locationWord, nameWord, rfl⟩
    exact ⟨_, ⟨location, locationWord, _, rfl, rfl⟩, name, nameWord, by simp⟩

theorem mem_gcpZoneRegex_iff {text : String} :
    text.toList ∈ gcpZoneRegex.matches' ↔ IsZone text := by
  simp only [gcpZoneRegex, RegularExpression.matches'_mul, Language.mem_mul, mem_exactly,
    mem_oneOrMore_iff_isWord]
  constructor
  · rintro ⟨_, ⟨_, ⟨_, ⟨location, locationWord, _, rfl, rfl⟩, name, nameWord, rfl⟩, _, rfl, rfl⟩,
      last, lastMember, joined⟩
    obtain ⟨letter, listed, rfl⟩ := mem_oneOf.mp lastMember
    refine ⟨_, letter, ⟨location, name, locationWord, nameWord, rfl⟩, listed, ?_⟩
    rw [← String.toList_inj, ← joined]
    simp
  · rintro ⟨_, letter, ⟨location, name, locationWord, nameWord, rfl⟩, listed, rfl⟩
    have joined : (String.ofList (location ++ '-' :: name) ++ .ofList ['-', letter]).toList =
        location ++ "-".toList ++ name ++ "-".toList ++ [letter] := by simp
    have last : [letter] ∈ (oneOf lower).matches' := by
      rw [mem_oneOf]
      exact ⟨letter, listed, rfl⟩
    rw [joined]
    exact ⟨_, ⟨_, ⟨_, ⟨location, locationWord, _, rfl, rfl⟩, name, nameWord, rfl⟩, _, rfl, rfl⟩,
      [letter], last, rfl⟩

theorem isMatch_region_iff {val text : String} (sanitized : sanitizeText val = some text) :
    isMatch gcpRegionRegex text = true ↔ IsRegion text :=
  (sanitizeText_isMatch sanitized _).trans mem_gcpRegionRegex_iff

theorem isMatch_zone_iff {val text : String} (sanitized : sanitizeText val = some text) :
    isMatch gcpZoneRegex text = true ↔ IsZone text :=
  (sanitizeText_isMatch sanitized _).trans mem_gcpZoneRegex_iff

theorem IsRegion.count_hyphen {region : String} (form : IsRegion region) :
    region.toList.count '-' = 1 :=
  count_gcpRegionRegex (mem_gcpRegionRegex_iff.mpr form)

theorem hyphen_not_lower : '-' ∉ lower.toList := by decide

theorem IsZone.region {zone : String} (form : IsZone zone) : IsRegion (beforeLast '-' zone) := by
  obtain ⟨region, letter, regionForm, listed, rfl⟩ := form
  rw [beforeLast_append]
  · exact regionForm
  · rw [List.mem_singleton]
    rintro rfl
    exact hyphen_not_lower listed

theorem IsZone.not_region {zone : String} (form : IsZone zone) : ¬ IsRegion zone := by
  intro both
  obtain ⟨region, letter, regionForm, -, rfl⟩ := form
  have once := both.count_hyphen
  rw [String.toList_append, List.count_append, regionForm.count_hyphen] at once
  simp at once

theorem isSpace_nameChar {c : Char} (listed : c ∈ (lower ++ digits).toList) :
    Python.isSpace c = false := by
  have part : IsNamePart [c] := fun found member => by rwa [List.mem_singleton.mp member]
  exact part.visible c List.mem_cons_self

theorem IsRegion.visible {region : String} (form : IsRegion region) :
    ∀ c ∈ region.toList, Python.isSpace c = false := by
  obtain ⟨location, name, locationWord, nameWord, rfl⟩ := form
  intro c member
  rw [String.toList_ofList, List.mem_append, List.mem_cons] at member
  rcases member with first | rfl | second
  · exact (IsNamePart.of_lower locationWord.2).visible c first
  · rfl
  · exact isSpace_nameChar (nameWord.2 c second)

theorem IsZone.visible {zone : String} (form : IsZone zone) :
    ∀ c ∈ zone.toList, Python.isSpace c = false := by
  obtain ⟨region, letter, regionForm, listed, rfl⟩ := form
  intro c member
  rw [String.toList_append, String.toList_ofList, List.mem_append] at member
  rcases member with inRegion | last
  · exact regionForm.visible c inRegion
  · simp only [List.mem_cons, List.not_mem_nil, or_false] at last
    rcases last with rfl | rfl
    · rfl
    · exact isSpace_nameChar (by rw [String.toList_append]; exact List.mem_append_left _ listed)

theorem sanitizeText_hyphen {text : String} (visible : ∀ c ∈ text.toList, Python.isSpace c = false)
    (hyphen : '-' ∈ text.toList) : sanitizeText text = some text := by
  have nonempty : text ≠ "" := by
    rintro rfl
    simp at hyphen
  simp only [sanitizeText, strip_eq_self visible, nonempty, hyphen_not_placeholder hyphen, or_self,
    if_false]

theorem IsRegion.sanitized {region : String} (form : IsRegion region) :
    sanitizeText region = some region := by
  refine sanitizeText_hyphen form.visible (List.count_pos_iff.mp ?_)
  rw [form.count_hyphen]
  exact Nat.one_pos

theorem IsZone.sanitized {zone : String} (form : IsZone zone) :
    sanitizeText zone = some zone := by
  apply sanitizeText_hyphen form.visible
  obtain ⟨region, letter, -, -, rfl⟩ := form
  simp

variable {zone region : Option String}

theorem checkZone_eq_ok {z : Option String} :
    checkZone z = .ok () ↔ ∀ text ∈ z, isMatch gcpZoneRegex text = true := by
  cases z with
  | none => simp [checkZone]
  | some text =>
      refine ⟨fun checked found given => ?_, fun matched => ?_⟩
      · cases given
        exact checkZone_ok checked
      · rw [checkZone, if_pos (matched text rfl)]

theorem checkRegion_eq_ok {r : Option String} :
    checkRegion r = .ok () ↔ ∀ text ∈ r, isMatch gcpRegionRegex text = true := by
  cases r with
  | none => simp [checkRegion]
  | some text =>
      refine ⟨fun checked found given => ?_, fun matched => ?_⟩
      · cases given
        exact checkRegion_ok checked
      · simp only [checkRegion, matched text rfl, if_true]

theorem crossValidate_eq_ok {z r : Option String} {result : Option String × Option String} :
    crossValidate z r = .ok result ↔
      (∀ zone ∈ z, ∀ region ∈ r, region = beforeLast '-' zone) ∧ result = withRegion z r := by
  cases z with
  | none => cases r <;> simp [crossValidate, withRegion, eq_comm]
  | some zone =>
      cases r with
      | none => simp [crossValidate, withRegion, eq_comm]
      | some region =>
          by_cases equality : region = beforeLast '-' zone
          · simp [crossValidate, withRegion, equality, eq_comm]
          · simp [crossValidate, equality]

theorem checkSwapped_eq_ok {z r : Option String}
    (noRegion : ∀ text ∈ z, isMatch gcpRegionRegex text = false) : checkSwapped z r = .ok () := by
  cases z with
  | none => rfl
  | some zone =>
      cases r with
      | none => rfl
      | some region => simp [checkSwapped, noRegion zone rfl]

theorem bind_sanitizeText {given : Option String} {text : String}
    (sanitized : given.bind sanitizeText = some text) : ∃ val, sanitizeText val = some text := by
  obtain ⟨val, -, made⟩ := Option.bind_eq_some_iff.mp sanitized
  exact ⟨val, made⟩

/-- The validation accepts the sanitized zone and region that fit, with the
region of the zone. -/
theorem validateZoneAndRegion_eq_ok {result : Option String × Option String} :
    validateZoneAndRegion zone region = .ok result ↔
      Fits (zone.bind sanitizeText) (region.bind sanitizeText) ∧
        result = withRegion (zone.bind sanitizeText) (region.bind sanitizeText) := by
  have zones : ∀ text ∈ zone.bind sanitizeText, isMatch gcpZoneRegex text = true ↔ IsZone text :=
    fun text given => (bind_sanitizeText given).elim fun _ => isMatch_zone_iff
  have regions : ∀ text ∈ region.bind sanitizeText,
      isMatch gcpRegionRegex text = true ↔ IsRegion text :=
    fun text given => (bind_sanitizeText given).elim fun _ => isMatch_region_iff
  constructor
  · intro accepted
    obtain ⟨⟨⟩, -, others⟩ := except_bind_ok accepted
    obtain ⟨⟨⟩, zoneChecked, others⟩ := except_bind_ok others
    obtain ⟨⟨⟩, regionChecked, validated⟩ := except_bind_ok others
    obtain ⟨agree, made⟩ := crossValidate_eq_ok.mp validated
    refine ⟨⟨fun text given => ?_, fun text given => ?_, agree⟩, made⟩
    · exact (zones text given).mp (checkZone_eq_ok.mp zoneChecked text given)
    · exact (regions text given).mp (checkRegion_eq_ok.mp regionChecked text given)
  · rintro ⟨fits, made⟩
    have noRegion : ∀ text ∈ zone.bind sanitizeText, isMatch gcpRegionRegex text = false :=
      fun text given => by
        obtain ⟨val, sanitized⟩ := bind_sanitizeText given
        rw [Bool.eq_false_iff, ne_eq, isMatch_region_iff sanitized]
        exact (fits.zone text given).not_region
    have zoneChecked := checkZone_eq_ok.mpr fun text given =>
      (zones text given).mpr (fits.zone text given)
    have regionChecked := checkRegion_eq_ok.mpr fun text given =>
      (regions text given).mpr (fits.region text given)
    rw [validateZoneAndRegion, checkSwapped_eq_ok noRegion, zoneChecked, regionChecked]
    exact crossValidate_eq_ok.mpr ⟨fits.agree, made⟩

theorem Fits.withRegion (fits : Fits zone region) :
    Fits (Api.withRegion zone region).1 (Api.withRegion zone region).2 := by
  cases region with
  | some given => exact fits
  | none =>
      refine ⟨fits.zone, fun text derived => ?_, fun z given r derived => ?_⟩
      · obtain ⟨z, given, rfl⟩ := Option.map_eq_some_iff.mp derived
        exact (fits.zone z given).region
      · obtain ⟨other, same, rfl⟩ := Option.map_eq_some_iff.mp derived
        rw [Option.mem_unique given same]

theorem Fits.sanitized (fits : Fits zone region) :
    zone.bind sanitizeText = zone ∧ region.bind sanitizeText = region := by
  constructor
  · cases zone with
    | none => rfl
    | some text => exact (fits.zone text rfl).sanitized
  · cases region with
    | none => rfl
    | some text => exact (fits.region text rfl).sanitized

theorem withRegion_idempotent (zone region : Option String) :
    withRegion (withRegion zone region).1 (withRegion zone region).2 = withRegion zone region := by
  cases zone <;> cases region <;> rfl

/-- The validation accepts exactly the zones and regions that fit, derives a missing region as
one, and leaves its own results as they are. -/
theorem validateZoneAndRegion_exact (zone region : Option String) :
    (∀ result, validateZoneAndRegion zone region = .ok result ↔
        Fits (zone.bind sanitizeText) (region.bind sanitizeText) ∧
          result = (zone.bind sanitizeText, (region.bind sanitizeText).or
            ((zone.bind sanitizeText).map (beforeLast '-')))) ∧
      ∀ result, validateZoneAndRegion zone region = .ok result →
        (∀ text ∈ result.2, isMatch gcpRegionRegex text = true) ∧
          validateZoneAndRegion result.1 result.2 = .ok result := by
  refine ⟨fun result => validateZoneAndRegion_eq_ok, fun result accepted => ?_⟩
  obtain ⟨fits, rfl⟩ := validateZoneAndRegion_eq_ok.mp accepted
  have complete := fits.withRegion
  obtain ⟨zoneClean, regionClean⟩ := complete.sanitized
  constructor
  · intro text given
    have form := complete.region text given
    exact (isMatch_region_iff form.sanitized).mpr form
  · rw [validateZoneAndRegion_eq_ok, zoneClean, regionClean, withRegion_idempotent]
    exact ⟨complete, rfl⟩

example : validateZoneAndRegion (some " us-central1-a ") (some "None") =
    .ok (some "us-central1-a", some "us-central1") := by decide +kernel

end GemEmulation.Api
