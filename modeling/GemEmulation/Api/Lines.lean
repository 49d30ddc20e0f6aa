import GemEmulation.Foundations.Python

/-!
# The texts of log lines

The string methods of Python that the API's logging uses, and what the API does
with the lines of a subprocess.
-/

namespace GemEmulation.Api

def rstrip (text : String) : String := .ofList (text.toList.rdropWhile Python.isSpace)

/-- `text.split(pattern, 1)[-1]`. -/
def afterFirst (pattern : List Char) (text : List Char) : List Char :=
  let rec search : List Char → Option (List Char)
    | [] => none
    | c :: rest =>
        if pattern.isPrefixOf (c :: rest) then some ((c :: rest).drop pattern.length)
        else search rest
  (search text).getD text

/-- The line as `append_log` stores it; `now` is the current time. -/
def formatLine (now line : String) : String :=
  if "[20".toList.isPrefixOf line.toList then line else s!"[{now}] {line}"

/-- The message that a line of a subprocess gives its operation, if it gives one. -/
def progressMessage (line : String) : Option String :=
  if Text.contains line "TASK [" then
    let taskName := (afterFirst "TASK [".toList line.toList).rdropWhile
      fun c => decide (c ∈ [']', ' ', '*'])
    some ("Ansible task: " ++ .ofList taskName)
  else if Text.contains line "Creating..." || Text.contains line "Modifying..." ||
      Text.contains line "Destroying..." then
    some ("Terraform resource update: " ++ Python.strip line)
  else none

example : progressMessage "TASK [vxlan : Configure overlay] *****" =
    some "Ansible task: vxlan : Configure overlay" := by
  decide

end GemEmulation.Api
