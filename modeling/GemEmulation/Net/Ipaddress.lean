import GemEmulation.Foundations.Python
import GemEmulation.Net.Address

/-!
# Python's `ipaddress` module

`IPv4Address` of a text, and `IPv4Network` of a text that is not checked for
host bits: a prefix length, a netmask or a hostmask may follow the address, and
an address alone is a network of one address.
-/

namespace GemEmulation.Net

namespace Ipaddress

def parseOctet (text : String) : Option Nat :=
  if !Python.isDecimal text then none
  else if 3 < text.length then none
  else if text ≠ "0" ∧ text.toList.head? = some '0' then none
  else if 255 < Text.natural text.toList then none
  else some (Text.natural text.toList)

/-- `_ip_int_from_string`, the constructor of `IPv4Address` from a text. -/
def parseAddress (text : String) : Option IPv4 :=
  match Text.split text '.' with
  | [a, b, c, d] => do
      let first ← parseOctet a
      let second ← parseOctet b
      let third ← parseOctet c
      let fourth ← parseOctet d
      some (ofOctets first second third fourth)
  | _ => none

theorem isDecimal_absent {text : String} (decimal : Python.isDecimal text = true) {c : Char}
    (other : Text.decimalValue c = none) : c ∉ text.toList := by
  intro member
  simp only [Python.isDecimal, Bool.and_eq_true, List.all_eq_true] at decimal
  have digit := decimal.2 c member
  simp [other] at digit

theorem parseOctet_some {text : String} {value : Nat} (parsed : parseOctet text = some value) :
    Python.isDecimal text = true ∧ value < 256 := by
  simp only [parseOctet] at parsed
  split at parsed
  next => cases parsed
  next decimal =>
    split at parsed
    next => cases parsed
    next =>
      split at parsed
      next => cases parsed
      next =>
        split at parsed
        next => cases parsed
        next small =>
          cases parsed
          exact ⟨by simpa using decimal, by omega⟩

theorem parseAddress_some {text : String} {address : IPv4}
    (parsed : parseAddress text = some address) :
    ∃ a b c d first second third fourth, Text.split text '.' = [a, b, c, d] ∧
      parseOctet a = some first ∧ parseOctet b = some second ∧ parseOctet c = some third ∧
        parseOctet d = some fourth ∧ address = ofOctets first second third fourth := by
  rw [parseAddress] at parsed
  split at parsed
  next a b c d parts =>
    simp only [Option.bind_eq_bind, Option.bind_eq_some_iff, Option.some.injEq] at parsed
    obtain ⟨first, aParsed, second, bParsed, third, cParsed, fourth, dParsed, rfl⟩ := parsed
    exact ⟨a, b, c, d, first, second, third, fourth, parts, aParsed, bParsed, cParsed, dParsed,
      rfl⟩
  next => cases parsed

theorem parseAddress_absent {text : String} {address : IPv4}
    (parsed : parseAddress text = some address) {c : Char} (noDot : c ≠ '.')
    (noDigit : Text.decimalValue c = none) : c ∉ text.toList := by
  obtain ⟨first, second, third, fourth, _, _, _, _, parts, one, two, three, four, -⟩ :=
    parseAddress_some parsed
  have whole := Text.join_split text '.'
  rw [parts] at whole
  rw [← whole, Text.join, String.toList_intercalate]
  simp [List.intercalate_cons_cons, noDot, isDecimal_absent (parseOctet_some one).1 noDigit,
    isDecimal_absent (parseOctet_some two).1 noDigit,
    isDecimal_absent (parseOctet_some three).1 noDigit,
    isDecimal_absent (parseOctet_some four).1 noDigit]

theorem parseAddress_join {a b c d : String} {first second third fourth : Nat}
    (aParsed : parseOctet a = some first) (bParsed : parseOctet b = some second)
    (cParsed : parseOctet c = some third) (dParsed : parseOctet d = some fourth) :
    parseAddress (Text.join [a, b, c, d] ".") = some (ofOctets first second third fourth) := by
  have noDot : ∀ {text : String} {value : Nat}, parseOctet text = some value → '.' ∉ text.toList :=
    fun parsed => isDecimal_absent (parseOctet_some parsed).1 (by decide)
  have parts : Text.split (Text.join [a, b, c, d] ".") '.' = [a, b, c, d] := by
    apply Text.split_join (by simp)
    intro part member
    simp only [List.mem_cons, List.not_mem_nil, or_false] at member
    rcases member with rfl | rfl | rfl | rfl
    · exact noDot aParsed
    · exact noDot bParsed
    · exact noDot cParsed
    · exact noDot dParsed
  simp [parseAddress, parts, aParsed, bParsed, cParsed, dParsed]

theorem parseOctet_decimalByte : ∀ value, value < 256 →
    parseOctet (.ofList (decimalByte value)) = some value := by
  decide +kernel

theorem parseAddress_dottedQuad (address : IPv4) :
    parseAddress (dottedQuad address) = some address := by
  have joined : dottedQuad address = Text.join [.ofList (decimalByte (octet address 3)),
      .ofList (decimalByte (octet address 2)), .ofList (decimalByte (octet address 1)),
      .ofList (decimalByte (octet address 0))] "." := by
    rw [← String.toList_inj]
    simp [dottedQuad, Text.join]
  rw [joined, parseAddress_join (parseOctet_decimalByte _ (octet_lt _ _))
    (parseOctet_decimalByte _ (octet_lt _ _)) (parseOctet_decimalByte _ (octet_lt _ _))
    (parseOctet_decimalByte _ (octet_lt _ _)), ofOctets_octets]

theorem split_slash {address mask : String} (plain : '/' ∉ address.toList)
    (plainMask : '/' ∉ mask.toList) :
    Text.split (address ++ "/" ++ mask) '/' = [address, mask] := by
  have joined : address ++ "/" ++ mask = Text.join [address, mask] (.singleton '/') := by
    rw [← String.toList_inj]
    simp [Text.join]
  rw [joined]
  exact Text.split_join (by simp) (by simp [plain, plainMask])

/-- `_count_righthand_zero_bits` of a number of so many bits. -/
def countRighthandZeroBits : Nat → Nat → Nat
  | 0, _ => 0
  | bits + 1, number =>
      if number % 2 = 0 then countRighthandZeroBits bits (number / 2) + 1 else 0

def prefixFromIPInt (ipInt : Nat) : Option Nat :=
  let trailingZeroes := countRighthandZeroBits 32 ipInt
  let prefixlen := 32 - trailingZeroes
  if ipInt / 2 ^ trailingZeroes = 2 ^ prefixlen - 1 then some prefixlen else none

/-- `_prefix_from_prefix_string`. -/
def prefixFromPrefixString (text : String) : Option Nat :=
  if Python.isDecimal text then
    if Text.natural text.toList ≤ 32 then some (Text.natural text.toList) else none
  else none

/-- `_prefix_from_ip_string`: a netmask, or a hostmask. -/
def prefixFromIPString (text : String) : Option Nat := do
  let mask ← parseAddress text
  (prefixFromIPInt mask.toNat).or (prefixFromIPInt (~~~ mask).toNat)

/-- `_make_netmask`, by its prefix length. -/
def makeNetmask (text : String) : Option Nat :=
  (prefixFromPrefixString text).or (prefixFromIPString text)

theorem makeNetmask_some {text : String} {prefixlen : Nat}
    (parsed : makeNetmask text = some prefixlen) :
    (Python.isDecimal text = true ∧ Text.natural text.toList = prefixlen) ∨
      Python.isDecimal text = false ∧ (parseAddress text).isSome = true := by
  rw [makeNetmask, Option.or_eq_some_iff] at parsed
  by_cases decimal : Python.isDecimal text = true
  · left
    have noAddress : parseAddress text = none := by
      rw [parseAddress, Text.split_eq_singleton (isDecimal_absent decimal (by decide))]
    rcases parsed with digits | ⟨-, address⟩
    · rw [prefixFromPrefixString, if_pos decimal] at digits
      split at digits
      next =>
        cases digits
        exact ⟨decimal, rfl⟩
      next => cases digits
    · simp [prefixFromIPString, noAddress] at address
  · right
    rcases parsed with digits | ⟨-, address⟩
    · simp [prefixFromPrefixString, decimal] at digits
    · rw [prefixFromIPString] at address
      obtain ⟨mask, maskParsed, -⟩ := Option.bind_eq_some_iff.mp address
      exact ⟨by simpa using decimal, by simp [maskParsed]⟩

theorem makeNetmask_absent {text : String} {prefixlen : Nat}
    (parsed : makeNetmask text = some prefixlen) : '/' ∉ text.toList := by
  rcases makeNetmask_some parsed with ⟨decimal, -⟩ | ⟨-, address⟩
  · exact isDecimal_absent decimal (by decide)
  · obtain ⟨_, addressParsed⟩ := Option.isSome_iff_exists.mp address
    exact parseAddress_absent addressParsed (by decide) (by decide)

theorem decimalValue_of_isDigit {c : Char} (digit : c.isDigit = true) :
    Text.decimalValue c = some (c.toNat - '0'.toNat) := by
  simp only [Char.isDigit, Bool.and_eq_true, decide_eq_true_eq] at digit
  exact if_pos digit

theorem natural_repr (number : Nat) : Text.natural number.repr.toList = number := by
  have digits : ∀ (letters : List Char) (value : Nat), (∀ c ∈ letters, c.isDigit = true) →
      letters.foldl (fun value c => value * 10 + (Text.decimalValue c).getD 0) value =
        Nat.ofDigitChars 10 letters value := by
    intro letters
    induction letters with
    | nil => exact fun value _ => rfl
    | cons c rest inductionHypothesis =>
        intro value isDigits
        rw [List.forall_mem_cons] at isDigits
        rw [List.foldl_cons, decimalValue_of_isDigit isDigits.1, Nat.mul_comm value 10]
        exact inductionHypothesis _ isDigits.2
  rw [Nat.toList_repr, Text.natural, digits _ 0 fun c member =>
    Nat.isDigit_of_mem_toDigits (by decide) (by decide) member]
  exact Nat.ofDigitChars_ten_toDigits

theorem isDecimal_repr (number : Nat) : Python.isDecimal number.repr = true := by
  have decimal : ∀ c ∈ Nat.toDigits 10 number, (Text.decimalValue c).isSome = true := by
    intro c member
    rw [decimalValue_of_isDigit (Nat.isDigit_of_mem_toDigits (by decide) (by decide) member)]
    rfl
  simpa [Python.isDecimal, Nat.toList_repr, Nat.toDigits_ne_nil] using decimal

theorem makeNetmask_repr (number : Nat) :
    makeNetmask number.repr = if number ≤ 32 then some number else none := by
  have noAddress : parseAddress number.repr = none := by
    rw [parseAddress, Text.split_eq_singleton
      (isDecimal_absent (isDecimal_repr number) (by decide))]
  rw [makeNetmask, prefixFromPrefixString, if_pos (isDecimal_repr number), natural_repr,
    prefixFromIPString, noAddress]
  simp

theorem makeNetmask_negative (digits : String) : makeNetmask ("-" ++ digits) = none := by
  have dash : '-' ∈ ("-" ++ digits).toList := by simp
  cases parsed : makeNetmask ("-" ++ digits) with
  | none => rfl
  | some prefixlen =>
      rcases makeNetmask_some parsed with ⟨decimal, -⟩ | ⟨-, address⟩
      · exact absurd dash (isDecimal_absent decimal (by decide))
      · obtain ⟨_, addressParsed⟩ := Option.isSome_iff_exists.mp address
        exact absurd dash (parseAddress_absent addressParsed (by decide) (by decide))

end Ipaddress

/-- An IPv4 network: the address it was written with and its prefix length. -/
structure IPv4Network where
  address : IPv4
  prefixlen : Nat
  prefixlen_le : prefixlen ≤ 32
  deriving DecidableEq

namespace IPv4Network

open Ipaddress

/-- The addresses that agree with the network's on its prefix. -/
def Contains (network : IPv4Network) (address : IPv4) : Prop :=
  address.toNat / 2 ^ (32 - network.prefixlen) =
    network.address.toNat / 2 ^ (32 - network.prefixlen)

instance (network : IPv4Network) (address : IPv4) : Decidable (network.Contains address) :=
  inferInstanceAs (Decidable (_ = _))

def ofPrefix (address : IPv4) (prefixlen : Nat) : Option IPv4Network :=
  if bound : prefixlen ≤ 32 then some ⟨address, prefixlen, bound⟩ else none

/-- The constructor of `IPv4Network` with `strict=False`. -/
def parse (text : String) : Option IPv4Network :=
  match Text.split text '/' with
  | [address] => (parseAddress address).bind fun address => ofPrefix address 32
  | [address, mask] => do
      let address ← parseAddress address
      let prefixlen ← makeNetmask mask
      ofPrefix address prefixlen
  | _ => none

theorem parse_some {text : String} {network : IPv4Network} (parsed : parse text = some network) :
    ∃ written, parseAddress written = some network.address ∧
      ((Text.split text '/' = [written] ∧ network.prefixlen = 32) ∨
        ∃ mask, Text.split text '/' = [written, mask] ∧
          makeNetmask mask = some network.prefixlen) := by
  have ofPrefix_some : ∀ {address prefixlen}, ofPrefix address prefixlen = some network →
      network.address = address ∧ network.prefixlen = prefixlen := by
    intro address prefixlen made
    simp only [ofPrefix] at made
    split at made
    next =>
      cases made
      exact ⟨rfl, rfl⟩
    next => cases made
  rw [parse] at parsed
  split at parsed
  next written parts =>
    obtain ⟨address, addressParsed, made⟩ := Option.bind_eq_some_iff.mp parsed
    obtain ⟨rfl, prefixlen⟩ := ofPrefix_some made
    exact ⟨written, addressParsed, .inl ⟨parts, prefixlen⟩⟩
  next written mask parts =>
    obtain ⟨address, addressParsed, others⟩ := Option.bind_eq_some_iff.mp parsed
    obtain ⟨prefixlen, maskParsed, made⟩ := Option.bind_eq_some_iff.mp others
    obtain ⟨rfl, rfl⟩ := ofPrefix_some made
    exact ⟨written, addressParsed, .inr ⟨mask, parts, maskParsed⟩⟩
  next => cases parsed

/-- Addresses that differ in their last octet are in the same network when the
last octet belongs to the host. -/
theorem contains_ofOctets {network : IPv4Network} (short : network.prefixlen ≤ 24)
    {a b c d last : Nat} (address : network.address = ofOctets a b c d) (a_lt : a < 256)
    (b_lt : b < 256) (c_lt : c < 256) (d_lt : d < 256) (last_lt : last < 256) :
    network.Contains (ofOctets a b c last) := by
  have host : 2 ^ (32 - network.prefixlen) = 256 * 2 ^ (24 - network.prefixlen) := by
    rw [show 32 - network.prefixlen = 8 + (24 - network.prefixlen) by omega, Nat.pow_add]
  have values : ∀ octet, octet < 256 →
      (ofOctets a b c octet).toNat / 256 = (a * 256 + b) * 256 + c := by
    intro octet small
    simp only [ofOctets, BitVec.toNat_ofNat]
    omega
  rw [Contains, host, ← Nat.div_div_eq_div_mul, ← Nat.div_div_eq_div_mul, address,
    values last last_lt, values d d_lt]

end IPv4Network

end GemEmulation.Net
