import Mathlib.Data.List.Basic

/-!
# Decoding UTF-8

The decoder of Python's `bytes.decode("utf-8", errors="replace")`: every
maximal part of a broken sequence becomes one replacement character.
-/

namespace GemEmulation.Foundations.Utf8

def replacement : Char := '\uFFFD'

/-- A sequence that is not complete: the bits so far, the bytes still to come, and the range of
the next one. -/
structure Pending where
  value : Nat
  remaining : Nat
  low : Nat
  high : Nat
  deriving DecidableEq, Repr

def start (byte : Nat) : List Char × Option Pending :=
  if byte < 0x80 then ([Char.ofNat byte], none)
  else if 0xC2 ≤ byte ∧ byte ≤ 0xDF then ([], some ⟨byte % 0x20, 1, 0x80, 0xBF⟩)
  else if byte = 0xE0 then ([], some ⟨0, 2, 0xA0, 0xBF⟩)
  else if byte = 0xED then ([], some ⟨0xD, 2, 0x80, 0x9F⟩)
  else if 0xE1 ≤ byte ∧ byte ≤ 0xEF then ([], some ⟨byte % 0x10, 2, 0x80, 0xBF⟩)
  else if byte = 0xF0 then ([], some ⟨0, 3, 0x90, 0xBF⟩)
  else if 0xF1 ≤ byte ∧ byte ≤ 0xF3 then ([], some ⟨byte % 8, 3, 0x80, 0xBF⟩)
  else if byte = 0xF4 then ([], some ⟨4, 3, 0x80, 0x8F⟩)
  else ([replacement], none)

/-- One more byte; a byte that does not continue a sequence starts the next. -/
def next : Option Pending → Nat → List Char × Option Pending
  | none, byte => start byte
  | some pending, byte =>
      if pending.low ≤ byte ∧ byte ≤ pending.high then
        let value := pending.value * 64 + byte % 64
        if pending.remaining ≤ 1 then ([Char.ofNat value], none)
        else ([], some ⟨value, pending.remaining - 1, 0x80, 0xBF⟩)
      else (replacement :: (start byte).1, (start byte).2)

def decodeFrom : Option Pending → List UInt8 → List Char
  | none, [] => []
  | some _, [] => [replacement]
  | pending, byte :: rest =>
      let decoded := next pending byte.toNat
      decoded.1 ++ decodeFrom decoded.2 rest

def decode (bytes : List UInt8) : String := .ofList (decodeFrom none bytes)

@[simp]
theorem decode_nil : decode [] = "" := rfl

example : decode [0x61, 0xE2, 0x82, 0xAC, 0xE2, 0x82, 0x62, 0xFF] = "a€\uFFFDb\uFFFD" := by decide

end GemEmulation.Foundations.Utf8
