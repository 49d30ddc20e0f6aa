import GemEmulation.Api.Lines
import GemEmulation.Api.Records
import GemEmulation.Foundations.Utf8

/-!
# The output of a subprocess

How the process runner cuts the bytes it reads into lines.  Reads end anywhere,
within a character too; what follows the last line feed waits in a buffer.
-/

namespace GemEmulation.Api

open Foundations

def newline : UInt8 := 10

def lineText (bytes : List UInt8) : String := rstrip (Utf8.decode bytes)

/-- The most bytes that the buffer keeps without a line feed. -/
def maxBuffer : Nat := 1024 * 1024

/-- The loop that takes the lines from the buffer, for at most as many turns: the lines, and the
bytes it leaves. -/
def extractLines : Nat → List UInt8 → Option (List OutputLine × List UInt8)
  | 0, _ => none
  | turns + 1, buffer =>
      if newline ∈ buffer then do
        let newlinePos := buffer.idxOf newline
        let lineBytes := buffer.take newlinePos
        let (lines, left) ← extractLines turns (buffer.drop (newlinePos + 1))
        some (⟨lineText lineBytes, true⟩ :: lines, left)
      else some ([], buffer)

/-- A buffer without a line feed that is too long is a line of its own. -/
def flushBuffer (buffer : List UInt8) : List OutputLine × List UInt8 :=
  if maxBuffer < buffer.length ∧ newline ∉ buffer then ([⟨lineText buffer, false⟩], [])
  else ([], buffer)

def remainder (buffer : List UInt8) : List OutputLine :=
  if buffer = [] then [] else [⟨lineText buffer, false⟩]

def readChunks (turns : Nat) : List (List UInt8) → List UInt8 → Option (List OutputLine)
  | [], buffer => some (remainder buffer)
  | chunk :: rest, buffer =>
      if chunk = [] then some (remainder buffer)
      else do
        let (lines, left) ← extractLines turns (buffer ++ chunk)
        let flushed := flushBuffer left
        let others ← readChunks turns rest flushed.2
        some (lines ++ flushed.1 ++ others)

/-- The lines that reach `append_log`. -/
def shownLines (lines : List OutputLine) : List String :=
  (lines.map OutputLine.text).filter fun text => decide (text ≠ "")

def streamLines (stream : List UInt8) : List String :=
  ((stream.splitOn newline).map lineText).filter fun text => decide (text ≠ "")

theorem shownLines_append (first second : List OutputLine) :
    shownLines (first ++ second) = shownLines first ++ shownLines second := by
  rw [shownLines, List.map_append, List.filter_append, ← shownLines, ← shownLines]

theorem shownLines_complete (pieces : List (List UInt8)) :
    shownLines (pieces.map fun piece => ⟨lineText piece, true⟩) =
      (pieces.map lineText).filter fun text => decide (text ≠ "") := by
  rw [shownLines, List.map_map]
  rfl

/-- Cutting a buffer takes the pieces before its last line feed, whatever bytes come next. -/
structure Cuts (buffer : List UInt8) (pieces : List (List UInt8)) (left : List UInt8) : Prop where
  unbroken : newline ∉ left
  shorter : left.length ≤ buffer.length
  append : ∀ more, (buffer ++ more).splitOn newline = pieces ++ (left ++ more).splitOn newline

theorem extractLines_cuts (turns : Nat) (buffer : List UInt8) (enough : buffer.length < turns) :
    ∃ pieces left, Cuts buffer pieces left ∧
      extractLines turns buffer = some (pieces.map fun piece => ⟨lineText piece, true⟩, left) := by
  induction turns generalizing buffer with
  | zero => exact absurd enough (Nat.not_lt_zero _)
  | succ turns inductionHypothesis =>
      by_cases broken : newline ∈ buffer
      · obtain ⟨line, rest, rfl, absent⟩ := List.eq_append_cons_of_mem broken
        have position : (line ++ newline :: rest).idxOf newline = line.length := by
          rw [List.idxOf_append_of_notMem absent, List.idxOf_cons_self, Nat.add_zero]
        have shorter : rest.length < turns := by
          rw [List.length_append, List.length_cons] at enough
          omega
        obtain ⟨pieces, left, cuts, extracted⟩ := inductionHypothesis rest shorter
        have lineBytes : (line ++ newline :: rest).take line.length = line := List.take_left
        have others : (line ++ newline :: rest).drop (line.length + 1) = rest := by
          rw [List.append_cons, List.drop_left' (by simp)]
        refine ⟨line :: pieces, left, ⟨cuts.unbroken, ?_, fun more => ?_⟩, ?_⟩
        · have bound := cuts.shorter
          rw [List.length_append, List.length_cons]
          omega
        · rw [List.append_assoc, List.cons_append, List.splitOn_append_cons_self_of_not_mem absent,
            cuts.append, List.cons_append]
        · simp only [extractLines, broken, if_true, position, lineBytes, others, extracted]
          rfl
      · exact ⟨[], buffer, ⟨broken, Nat.le_refl _, fun more => rfl⟩, by
          rw [extractLines, if_neg broken]; rfl⟩

/-- The loop ends, on every buffer. -/
theorem extractLines_ends (buffer : List UInt8) :
    ∀ turns, buffer.length < turns → (extractLines turns buffer).isSome = true := by
  intro turns enough
  obtain ⟨pieces, left, -, extracted⟩ := extractLines_cuts turns buffer enough
  rw [extracted, Option.isSome_some]

theorem splitOn_unbroken {left : List UInt8} (unbroken : newline ∉ left) (more : List UInt8) :
    ∃ first, first ∈ (left ++ more).splitOn newline ∧ left.length ≤ first.length := by
  by_cases broken : newline ∈ more
  · obtain ⟨front, back, rfl, absent⟩ := List.eq_append_cons_of_mem broken
    have first : newline ∉ left ++ front := by simp [unbroken, absent]
    rw [← List.append_assoc, List.splitOn_append_cons_self_of_not_mem first]
    exact ⟨left ++ front, List.mem_cons_self, by simp⟩
  · have absent : newline ∉ left ++ more := by simp [unbroken, broken]
    rw [List.splitOn_eq_singleton absent]
    exact ⟨left ++ more, List.mem_cons_self, by simp⟩

/-- Reading from a buffer gives the lines of its bytes and the stream's. -/
theorem readChunks_lines {turns : Nat} (chunks : List (List UInt8)) (buffer : List UInt8)
    (nonempty : ∀ chunk ∈ chunks, chunk ≠ []) (unbroken : newline ∉ buffer)
    (short : ∀ piece ∈ (buffer ++ chunks.flatten).splitOn newline, piece.length ≤ maxBuffer)
    (enough : (buffer ++ chunks.flatten).length < turns) :
    ∃ lines, readChunks turns chunks buffer = some lines ∧
      shownLines lines = streamLines (buffer ++ chunks.flatten) := by
  induction chunks generalizing buffer with
  | nil =>
      refine ⟨remainder buffer, rfl, ?_⟩
      rw [List.flatten_nil, List.append_nil, streamLines, List.splitOn_eq_singleton unbroken]
      by_cases empty : buffer = []
      · subst empty
        rfl
      · rw [remainder, if_neg empty]
        rfl
  | cons chunk rest inductionHypothesis =>
      rw [List.forall_mem_cons] at nonempty
      rw [List.flatten_cons, ← List.append_assoc] at short enough ⊢
      have room : (buffer ++ chunk).length < turns := by
        rw [List.length_append] at enough
        omega
      obtain ⟨pieces, left, cuts, extracted⟩ := extractLines_cuts turns (buffer ++ chunk) room
      rw [cuts.append] at short
      have kept : flushBuffer left = ([], left) := by
        obtain ⟨first, isPiece, longer⟩ := splitOn_unbroken cuts.unbroken rest.flatten
        have bound := short first (List.mem_append_right _ isPiece)
        rw [flushBuffer, if_neg]
        rintro ⟨tooLong, -⟩
        omega
      obtain ⟨others, continued, same⟩ := inductionHypothesis left nonempty.2 cuts.unbroken
        (fun piece isPiece => short piece (List.mem_append_right _ isPiece)) (by
          have bound := cuts.shorter
          rw [List.length_append] at enough ⊢
          omega)
      refine ⟨(pieces.map fun piece => ⟨lineText piece, true⟩) ++ others, ?_, ?_⟩
      · simp only [readChunks, nonempty.1, if_false, extracted, Option.bind_eq_bind,
          Option.bind_some, kept, continued, List.append_nil]
      · rw [shownLines_append, same, shownLines_complete, streamLines, streamLines,
          cuts.append, List.map_append, List.filter_append]

/-- The lines of the output do not depend on where its reads end, and the inner loop ends on
every buffer. -/
theorem readChunks_eq_streamLines (chunks : List (List UInt8))
    (nonempty : ∀ chunk ∈ chunks, chunk ≠ [])
    (short : ∀ piece ∈ chunks.flatten.splitOn newline, piece.length ≤ 1024 * 1024) :
    (∀ turns, chunks.flatten.length < turns → ∃ lines, readChunks turns chunks [] = some lines ∧
        shownLines lines = ((chunks.flatten.splitOn newline).map fun piece =>
          rstrip (Utf8.decode piece)).filter fun text => decide (text ≠ "")) ∧
      ∀ buffer turns, buffer.length < turns → (extractLines turns buffer).isSome = true :=
  ⟨fun _ enough => readChunks_lines chunks [] nonempty List.not_mem_nil short enough,
    extractLines_ends⟩

theorem readChunks_euro :
    (∀ turns, ([[0x61, 0xE2], [0x82, 0xAC, 0x0D], [0x0A, 0x62]] :
      List (List UInt8)).flatten.length <
          turns →
        ∃ lines, readChunks turns [[0x61, 0xE2], [0x82, 0xAC, 0x0D], [0x0A, 0x62]] [] = some lines ∧
          shownLines lines = ((([[0x61, 0xE2], [0x82, 0xAC, 0x0D], [0x0A, 0x62]] :
            List (List UInt8)).flatten.splitOn newline).map fun piece =>
              rstrip (Utf8.decode piece)).filter fun text => decide (text ≠ "")) ∧
      ∀ buffer turns, buffer.length < turns → (extractLines turns buffer).isSome = true :=
  readChunks_eq_streamLines _ (by decide) (by decide)

end GemEmulation.Api
