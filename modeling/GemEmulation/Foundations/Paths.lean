import GemEmulation.Foundations.Text

/-!
# File paths

The place that an absolute path names, as the segments from the root once its
empty and dot segments are resolved.
-/

namespace GemEmulation.Foundations.Paths

def IsAbsolute (path : String) : Prop := path.toList.head? = some '/'

instance (path : String) : Decidable (IsAbsolute path) := by
  unfold IsAbsolute
  infer_instance

def enter (place : List String) (segment : String) : List String :=
  if segment = "" ∨ segment = "." then place
  else if segment = ".." then place.dropLast
  else place ++ [segment]

def normalise (path : String) : List String := (Text.split path '/').foldl enter []

def Within (directory path : String) : Prop :=
  IsAbsolute path ∧ normalise directory <+: normalise path

instance (directory path : String) : Decidable (Within directory path) := by
  unfold Within
  infer_instance

end GemEmulation.Foundations.Paths
