import GemEmulation.Foundations.Text
import Mathlib.Data.BitVec
import Mathlib.Tactic.IntervalCases

/-!
# Internet addresses and their texts

IPv4 addresses are words of 32 bits; a `net.IP` that `net.ParseIP` returns is
a word of 128 bits, the IPv4 addresses being those in `::ffff:0:0/96`.  The
parser is that of package `net/netip`.  The canonical text of an IPv4 address
is its dotted quad, and parsing it gives the address back.
-/

namespace GemEmulation.Net

open Text (decimalValue hexValue)

abbrev IPv4 := BitVec 32

abbrev IPv6 := BitVec 128

def ofOctets (a b c d : Nat) : IPv4 :=
  .ofNat 32 (((a * 256 + b) * 256 + c) * 256 + d)

def octet (address : IPv4) (place : Nat) : Nat :=
  address.toNat / 256 ^ place % 256

/-- `appendDecimal` of package `net/netip`. -/
def decimalByte (value : Nat) : List Char :=
  (if 100 ≤ value then [Nat.digitChar (value / 100)] else []) ++
    (if 10 ≤ value then [Nat.digitChar (value / 10 % 10)] else []) ++
      [Nat.digitChar (value % 10)]

/-- The text that `net.IP.String` gives an IPv4 address. -/
def dottedQuad (address : IPv4) : String :=
  .ofList (decimalByte (octet address 3) ++ '.' ::
    (decimalByte (octet address 2) ++ '.' ::
      (decimalByte (octet address 1) ++ '.' :: decimalByte (octet address 0))))

theorem octet_lt (address : IPv4) (place : Nat) : octet address place < 256 :=
  Nat.mod_lt _ (by decide)

@[simp]
theorem ofOctets_octets (address : IPv4) :
    ofOctets (octet address 3) (octet address 2) (octet address 1) (octet address 0) =
      address := by
  apply BitVec.eq_of_toNat_eq
  have := address.isLt
  simp only [ofOctets, octet, BitVec.toNat_ofNat]
  omega

/-- `parseIPv4Fields`: the octets already read, the value of the current one
and how many digits it has so far. -/
def parseIPv4Fields : List Char → List Nat → Nat → Nat → Option (List Nat)
  | [], fields, value, _ =>
      if fields.length < 3 then none else some (fields ++ [value])
  | c :: rest, fields, value, digits =>
      match decimalValue c with
      | some digit =>
          if digits = 1 ∧ value = 0 then none
          else if 255 < value * 10 + digit then none
          else parseIPv4Fields rest fields (value * 10 + digit) (digits + 1)
      | none =>
          if c = '.' then
            if digits = 0 ∨ rest = [] ∨ fields.length = 3 then none
            else parseIPv4Fields rest (fields ++ [value]) 0 0
          else none

/-- The hexadecimal digits at the head of a text: their number, their value
and the text after them. -/
def scanHextet : List Char → Nat → Nat → Option (Nat × Nat × List Char)
  | [], digits, value => some (digits, value, [])
  | c :: rest, digits, value =>
      match hexValue c with
      | some digit =>
          if 3 < digits ∨ 65535 < value * 16 + digit then none
          else scanHextet rest (digits + 1) (value * 16 + digit)
      | none => some (digits, value, c :: rest)

/-- The loop of `parseIPv6` over the groups of sixteen bits: the room left, the
text left, the groups read and the place of the ellipsis. -/
def parseGroups : Nat → List Char → List Nat → Option Nat →
    Option (List Char × List Nat × Option Nat)
  | 0, text, groups, ellipsis => some (text, groups, ellipsis)
  | room + 1, text, groups, ellipsis => do
      let (digits, value, after) ← scanHextet text 0 0
      if digits = 0 then none
      else
        match after with
        | '.' :: _ =>
            if (ellipsis = none ∧ groups.length ≠ 6) ∨ 8 < groups.length + 2 then none
            else
              match parseIPv4Fields text [] 0 0 with
              | some [a, b, c, d] =>
                  some ([], groups ++ [a * 256 + b, c * 256 + d], ellipsis)
              | _ => none
        | [] => some ([], groups ++ [value], ellipsis)
        | [':'] => none
        | [':', ':'] =>
            if ellipsis.isSome then none
            else some ([], groups ++ [value], some (groups.length + 1))
        | ':' :: ':' :: more =>
            if ellipsis.isSome then none
            else parseGroups room more (groups ++ [value]) (some (groups.length + 1))
        | ':' :: more => parseGroups room more (groups ++ [value]) ellipsis
        | _ => none

def expandGroups (groups : List Nat) : Option Nat → Option (List Nat)
  | none => if groups.length < 8 then none else some groups
  | some place =>
      if groups.length < 8 then
        some (groups.take place ++ List.replicate (8 - groups.length) 0 ++ groups.drop place)
      else none

def ofGroups (groups : List Nat) : IPv6 :=
  .ofNat 128 (groups.foldl (fun value group => value * 65536 + group) 0)

/-- `parseIPv6` for a text without a zone. -/
def parseIPv6 (text : List Char) : Option IPv6 :=
  match text with
  | [':', ':'] => some 0
  | ':' :: ':' :: rest => finish (parseGroups 8 rest [] (some 0))
  | _ => finish (parseGroups 8 text [] none)
where
  finish : Option (List Char × List Nat × Option Nat) → Option IPv6
    | some ([], groups, ellipsis) => (expandGroups groups ellipsis).map ofGroups
    | _ => none

/-- An address of package `net/netip`; only IPv6 addresses have zones. -/
inductive Addr where
  | v4 (address : IPv4)
  | v6 (address : IPv6) (zone : List Char)

def parseAddr (text : String) : Option Addr :=
  match text.toList.find? fun c => c ∈ ['.', ':', '%'] with
  | some '.' =>
      match parseIPv4Fields text.toList [] 0 0 with
      | some [a, b, c, d] => some (.v4 (ofOctets a b c d))
      | _ => none
  | some ':' =>
      match text.toList.span fun c => decide (c ≠ '%') with
      | (_, ['%']) => none
      | (front, _ :: zone) => (parseIPv6 front).map fun address => .v6 address zone
      | (front, []) => (parseIPv6 front).map fun address => .v6 address []
  | _ => none

def as16 (address : IPv4) : IPv6 := (0xffff#96 ++ address).cast (by decide)

def to4 (ip : IPv6) : Option IPv4 :=
  if ip.toNat / 2 ^ 32 = 0xffff then some (ip.setWidth 32) else none

def parseIP (text : String) : Option IPv6 :=
  match parseAddr text with
  | some (.v4 address) => some (as16 address)
  | some (.v6 address []) => some address
  | _ => none

/-- `net.ParseIP(text).To4()`. -/
def parseIP4 (text : String) : Option IPv4 := (parseIP text).bind to4

theorem decimalValue_digitChar : ∀ digit, digit < 10 →
    decimalValue (Nat.digitChar digit) = some digit := by
  decide

@[simp]
theorem to4_as16 (address : IPv4) : to4 (as16 address) = some address := by
  have bounds := address.isLt
  have value : (as16 address).toNat = 0xffff * 2 ^ 32 + address.toNat := by
    simp only [as16, BitVec.toNat_cast, BitVec.toNat_append, BitVec.toNat_ofNat]
    rw [← Nat.shiftLeft_add_eq_or_of_lt bounds, Nat.shiftLeft_eq]
  have high : (as16 address).toNat / 2 ^ 32 = 0xffff := by omega
  have low : (as16 address).setWidth 32 = address := by
    apply BitVec.eq_of_toNat_eq
    rw [BitVec.toNat_setWidth, value]
    omega
  rw [to4, if_pos high, low]

theorem parseIPv4Fields_digit {digit : Nat} (small : digit < 10) {value digits : Nat}
    (notLeadingZero : ¬ (digits = 1 ∧ value = 0)) (bounded : value * 10 + digit < 256)
    (rest : List Char) (fields : List Nat) :
    parseIPv4Fields (Nat.digitChar digit :: rest) fields value digits =
      parseIPv4Fields rest fields (value * 10 + digit) (digits + 1) := by
  rw [parseIPv4Fields, decimalValue_digitChar digit small]
  simp only [notLeadingZero, if_false, show ¬ 255 < value * 10 + digit by omega]

theorem parseIPv4Fields_decimalByte {value : Nat} (small : value < 256)
    (rest : List Char) (fields : List Nat) :
    ∃ digits, 0 < digits ∧ parseIPv4Fields (decimalByte value ++ rest) fields 0 0 =
      parseIPv4Fields rest fields value digits := by
  have last : value % 10 < 10 := Nat.mod_lt _ (by decide)
  by_cases one : value < 10
  · refine ⟨1, by decide, ?_⟩
    have digits : decimalByte value = [Nat.digitChar (value % 10)] := by
      simp [decimalByte, show ¬ 100 ≤ value by omega, show ¬ 10 ≤ value by omega]
    rw [digits, List.singleton_append, parseIPv4Fields_digit last (by omega) (by omega)]
    congr 1
    omega
  · by_cases two : value < 100
    · refine ⟨2, by decide, ?_⟩
      have digits : decimalByte value =
          [Nat.digitChar (value / 10 % 10), Nat.digitChar (value % 10)] := by
        simp [decimalByte, show ¬ 100 ≤ value by omega, show 10 ≤ value by omega]
      rw [digits, List.cons_append, List.singleton_append,
        parseIPv4Fields_digit (by omega) (by omega) (by omega),
        parseIPv4Fields_digit last (by omega) (by omega)]
      congr 1
      omega
    · refine ⟨3, by decide, ?_⟩
      have digits : decimalByte value =
          [Nat.digitChar (value / 100), Nat.digitChar (value / 10 % 10),
            Nat.digitChar (value % 10)] := by
        simp [decimalByte, show 100 ≤ value by omega, show 10 ≤ value by omega]
      rw [digits, List.cons_append, List.cons_append, List.singleton_append,
        parseIPv4Fields_digit (by omega) (by omega) (by omega),
        parseIPv4Fields_digit (by omega) (by omega) (by omega),
        parseIPv4Fields_digit last (by omega) (by omega)]
      congr 1
      omega

theorem parseIPv4Fields_dot {rest : List Char} (more : rest ≠ []) {fields : List Nat}
    (room : fields.length < 3) (value : Nat) {digits : Nat} (positive : 0 < digits) :
    parseIPv4Fields ('.' :: rest) fields value digits =
      parseIPv4Fields rest (fields ++ [value]) 0 0 := by
  have notDigit : decimalValue '.' = none := by decide
  simp [parseIPv4Fields, notDigit, more, show digits ≠ 0 by omega,
    show fields.length ≠ 3 by omega]

theorem decimalByte_ne_nil (value : Nat) (rest : List Char) :
    decimalByte value ++ rest ≠ [] := by
  simp [decimalByte]

theorem parseIPv4Fields_dottedQuad (address : IPv4) :
    parseIPv4Fields (dottedQuad address).toList [] 0 0 =
      some [octet address 3, octet address 2, octet address 1, octet address 0] := by
  simp only [dottedQuad, String.toList_ofList]
  obtain ⟨_, first, equality⟩ := parseIPv4Fields_decimalByte (octet_lt address 3) _ []
  rw [equality, parseIPv4Fields_dot (decimalByte_ne_nil _ _) (by simp) _ first]
  obtain ⟨_, second, equality⟩ := parseIPv4Fields_decimalByte (octet_lt address 2) _ _
  rw [equality, parseIPv4Fields_dot (decimalByte_ne_nil _ _) (by simp) _ second]
  obtain ⟨_, third, equality⟩ := parseIPv4Fields_decimalByte (octet_lt address 1) _ _
  rw [equality, parseIPv4Fields_dot (by simp [decimalByte]) (by simp) _ third]
  obtain ⟨_, _, equality⟩ := parseIPv4Fields_decimalByte (octet_lt address 0) [] _
  rw [List.append_nil] at equality
  rw [equality]
  simp [parseIPv4Fields]

theorem digitChar_plain : ∀ digit, digit < 10 →
    Text.isSpace (Nat.digitChar digit) = false ∧
      Nat.digitChar digit ∉ ['.', ':', '%', '/', '-'] := by
  decide

theorem mem_dottedQuad {address : IPv4} {c : Char} (membership : c ∈ (dottedQuad address).toList) :
    Text.isSpace c = false ∧ c ≠ '/' ∧ c ≠ '-' ∧ c ≠ ':' ∧ c ≠ '%' := by
  have octets : ∀ value, value < 256 → c ∈ decimalByte value →
      ∃ digit, digit < 10 ∧ c = Nat.digitChar digit := by
    intro value small inDigits
    simp only [decimalByte, List.mem_append, List.mem_ite_nil_right, List.mem_singleton] at inDigits
    rcases inDigits with (⟨_, rfl⟩ | ⟨_, rfl⟩) | rfl
    · exact ⟨value / 100, by omega, rfl⟩
    · exact ⟨value / 10 % 10, Nat.mod_lt _ (by decide), rfl⟩
    · exact ⟨value % 10, Nat.mod_lt _ (by decide), rfl⟩
  have cases : c = '.' ∨ ∃ digit, digit < 10 ∧ c = Nat.digitChar digit := by
    have small := octet_lt address
    simp only [dottedQuad, String.toList_ofList, List.mem_append, List.mem_cons] at membership
    rcases membership with digits | rfl | digits | rfl | digits | rfl | digits
    · exact .inr (octets _ (small 3) digits)
    · exact .inl rfl
    · exact .inr (octets _ (small 2) digits)
    · exact .inl rfl
    · exact .inr (octets _ (small 1) digits)
    · exact .inl rfl
    · exact .inr (octets _ (small 0) digits)
  rcases cases with rfl | ⟨digit, small, rfl⟩
  · decide
  · have plain := digitChar_plain digit small
    simp only [List.mem_cons, List.not_mem_nil, or_false, not_or] at plain
    tauto

theorem find?_dottedQuad (address : IPv4) :
    (dottedQuad address).toList.find? (fun c => c ∈ ['.', ':', '%']) = some '.' := by
  have present : '.' ∈ (dottedQuad address).toList := by simp [dottedQuad]
  cases found : (dottedQuad address).toList.find? (fun c => c ∈ ['.', ':', '%']) with
  | none => simpa using List.find?_eq_none.mp found '.' present
  | some c =>
      have marked := List.find?_some found
      have plain := mem_dottedQuad (List.mem_of_find?_eq_some found)
      simp only [List.mem_cons, List.not_mem_nil, or_false, decide_eq_true_eq] at marked
      rcases marked with rfl | rfl | rfl
      · rfl
      · exact absurd rfl plain.2.2.2.1
      · exact absurd rfl plain.2.2.2.2

@[simp]
theorem parseAddr_dottedQuad (address : IPv4) :
    parseAddr (dottedQuad address) = some (.v4 address) := by
  simp only [parseAddr, find?_dottedQuad, parseIPv4Fields_dottedQuad, ofOctets_octets]

@[simp]
theorem parseIP_dottedQuad (address : IPv4) :
    parseIP (dottedQuad address) = some (as16 address) := by
  simp [parseIP]

@[simp]
theorem parseIP4_dottedQuad (address : IPv4) :
    parseIP4 (dottedQuad address) = some address := by
  simp [parseIP4]

theorem dottedQuad_injective : Function.Injective dottedQuad := by
  intro first second equality
  have parsed := congrArg parseIP4 equality
  simpa using parsed

@[simp]
theorem dottedQuad_inj {first second : IPv4} :
    dottedQuad first = dottedQuad second ↔ first = second :=
  dottedQuad_injective.eq_iff

theorem dottedQuad_ne_empty (address : IPv4) : dottedQuad address ≠ "" := by
  intro empty
  have characters := congrArg String.toList empty
  simp [dottedQuad] at characters

def AddressChar (c : Char) : Prop := (Text.hexValue c).isSome = true ∨ c = '.' ∨ c = ':'

theorem AddressChar.plain {c : Char} (written : AddressChar c) : c ≠ '-' ∧ c ≠ '/' := by
  constructor <;>
  · rintro rfl
    revert written
    unfold AddressChar
    decide

theorem parseIPv4Fields_chars {text : List Char} {fields octets : List Nat} {value digits : Nat}
    (parsed : parseIPv4Fields text fields value digits = some octets) :
    ∀ c ∈ text, AddressChar c := by
  induction text generalizing fields value digits with
  | nil => simp
  | cons c rest inductionHypothesis =>
      rw [parseIPv4Fields] at parsed
      split at parsed
      next digit isDigit =>
        split_ifs at parsed
        exact List.forall_mem_cons.mpr
          ⟨.inl (Text.isSome_hexValue isDigit), inductionHypothesis parsed⟩
      next =>
        split_ifs at parsed with dot
        exact List.forall_mem_cons.mpr ⟨.inr (.inl dot), inductionHypothesis parsed⟩

theorem scanHextet_chars {text after : List Char} {digits value digits' value' : Nat}
    (scanned : scanHextet text digits value = some (digits', value', after))
    (written : ∀ c ∈ after, AddressChar c) : ∀ c ∈ text, AddressChar c := by
  induction text generalizing digits value with
  | nil => simp
  | cons c rest inductionHypothesis =>
      rw [scanHextet] at scanned
      split at scanned
      next digit isDigit =>
        split_ifs at scanned
        exact List.forall_mem_cons.mpr
          ⟨.inl (by rw [isDigit]; rfl), inductionHypothesis scanned⟩
      next =>
        cases scanned
        exact written

theorem parseGroups_chars {room : Nat} {text rest : List Char} {groups groups' : List Nat}
    {ellipsis ellipsis' : Option Nat}
    (parsed : parseGroups room text groups ellipsis = some (rest, groups', ellipsis'))
    (written : ∀ c ∈ rest, AddressChar c) : ∀ c ∈ text, AddressChar c := by
  induction room generalizing text groups ellipsis with
  | zero =>
      cases parsed
      exact written
  | succ room inductionHypothesis =>
      obtain ⟨⟨digits, value, after⟩, scanned, parsed⟩ := Option.bind_eq_some_iff.mp parsed
      have colon : AddressChar ':' := .inr (.inr rfl)
      dsimp only at parsed
      split at parsed
      next => cases parsed
      next =>
        split at parsed
        next =>
          split at parsed
          next => cases parsed
          next =>
            split at parsed
            next fields => exact parseIPv4Fields_chars fields
            next => cases parsed
        next => exact scanHextet_chars scanned (by simp)
        next => cases parsed
        next => exact scanHextet_chars scanned (by simpa using colon)
        next more _ =>
          split at parsed
          next => cases parsed
          next =>
            exact scanHextet_chars scanned (List.forall_mem_cons.mpr
              ⟨colon, List.forall_mem_cons.mpr ⟨colon, inductionHypothesis parsed⟩⟩)
        next =>
          exact scanHextet_chars scanned
            (List.forall_mem_cons.mpr ⟨colon, inductionHypothesis parsed⟩)
        next => cases parsed

theorem parseIPv6_chars {text : List Char} {address : IPv6}
    (parsed : parseIPv6 text = some address) :
    ∀ c ∈ text, AddressChar c := by
  have colon : AddressChar ':' := .inr (.inr rfl)
  have finished : ∀ outcome, parseIPv6.finish outcome = some address →
      ∃ groups ellipsis, outcome = some ([], groups, ellipsis) := by
    intro outcome ends
    unfold parseIPv6.finish at ends
    split at ends
    next groups ellipsis => exact ⟨groups, ellipsis, rfl⟩
    next => cases ends
  unfold parseIPv6 at parsed
  split at parsed
  next => simpa using colon
  next =>
    obtain ⟨groups, ellipsis, scanned⟩ := finished _ parsed
    exact List.forall_mem_cons.mpr
      ⟨colon, List.forall_mem_cons.mpr ⟨colon, parseGroups_chars scanned (by simp)⟩⟩
  next =>
    obtain ⟨groups, ellipsis, scanned⟩ := finished _ parsed
    exact parseGroups_chars scanned (by simp)

/-- An address without a zone, of either kind, consists of its characters. -/
theorem parseAddr_chars {text : String} {addr : Addr} (parsed : parseAddr text = some addr)
    (noZone : ∀ address c zone, addr ≠ .v6 address (c :: zone)) :
    ∀ c ∈ text.toList, AddressChar c := by
  unfold parseAddr at parsed
  split at parsed
  next =>
    split at parsed
    next fields => exact parseIPv4Fields_chars fields
    next => cases parsed
  next =>
    rw [List.span_eq_takeWhile_dropWhile] at parsed
    have whole := List.takeWhile_append_dropWhile (p := fun c => decide (c ≠ '%'))
      (l := text.toList)
    split at parsed
    next => cases parsed
    next front sign zone bare parts =>
      obtain ⟨address, -, rfl⟩ := Option.map_eq_some_iff.mp parsed
      cases zone with
      | cons c zone => exact absurd rfl (noZone address c zone)
      | nil =>
          have stopped := List.head?_dropWhile_not (fun c => decide (c ≠ '%')) text.toList
          obtain ⟨-, back⟩ := Prod.mk.inj parts
          rw [back] at stopped
          have percent : sign = '%' := by simpa using stopped
          exact (bare percent rfl).elim
    next front parts =>
      obtain ⟨rfl, back⟩ := Prod.mk.inj parts
      obtain ⟨address, found, -⟩ := Option.map_eq_some_iff.mp parsed
      rw [back, List.append_nil] at whole
      rw [← whole]
      exact parseIPv6_chars found
  next => cases parsed

theorem parseIP_chars {text : String} {ip : IPv6} (parsed : parseIP text = some ip) :
    ∀ c ∈ text.toList, AddressChar c := by
  unfold parseIP at parsed
  split at parsed
  next found => exact parseAddr_chars found nofun
  next found => exact parseAddr_chars found nofun
  next => cases parsed

/-- A text in canonical notation: it denotes no IPv4 address, or is the dotted
quad of the one it denotes. -/
def Canonical (text : String) : Prop :=
  ∀ address, parseIP4 text = some address → text = dottedQuad address

theorem canonical_dottedQuad (address : IPv4) : Canonical (dottedQuad address) := by
  intro other parsed
  rw [parseIP4_dottedQuad, Option.some.injEq] at parsed
  rw [parsed]

end GemEmulation.Net
