import Mathlib.Data.List.DropRight

/-!
# Texts of the shell

Command substitutions and the parameter expansions that the scripts cut their
arguments with.
-/

namespace GemEmulation.Scripts.Shell

/-- The output of a command in `$(...)`: without the line feeds at its end. -/
def substitution (output : String) : String :=
  .ofList (output.toList.rdropWhile fun c => decide (c = '\n'))

def beforeFirst (c : Char) (text : String) : String :=
  .ofList (text.toList.takeWhile fun other => decide (other ≠ c))

def afterFirst (c : Char) (text : String) : String :=
  if c ∈ text.toList then .ofList (text.toList.dropWhile fun other => decide (other ≠ c)).tail
  else text

def beforeLast (c : Char) (text : String) : String :=
  if c ∈ text.toList then .ofList (text.toList.rdropWhile fun other => decide (other ≠ c)).dropLast
  else text

def afterLast (c : Char) (text : String) : String :=
  .ofList (text.toList.rtakeWhile fun other => decide (other ≠ c))

theorem substitution_oneLine {output : String} (oneLine : '\n' ∉ output.toList) :
    substitution output = output := by
  have kept : output.toList.rdropWhile (fun c => decide (c = '\n')) = output.toList := by
    rw [List.rdropWhile_eq_self_iff]
    intro nonempty last
    exact oneLine (of_decide_eq_true last ▸ List.getLast_mem nonempty)
  rw [substitution, kept, String.ofList_toList]

end GemEmulation.Scripts.Shell
