/-!
# Runs of names

Names of characters are kept in runs of consecutive code points. A run holds what its names have in common
at their start once, and the rest of each name in lines, with a comma between one and the next.

* `CharacterName.Run`: such a run.
* `Run.code?`: the code point of the run that has a name.
-/

namespace Redaction.Text.CharacterName

/-- Names of consecutive code points from `first` on. -/
structure Run where
  first : Nat
  /-- How all the names start. -/
  stem : String
  /-- Lines of how the names go on, in the order of their code points. -/
  endings : List String

/-- The names of a run. -/
def Run.names (run : Run) : List String :=
  (run.endings.flatMap (·.splitOn ",")).map (run.stem ++ ·)

/-- The code point that has a name. -/
def Run.code? (run : Run) (name : String) : Option Nat :=
  (run.names.idxOf? name).map (run.first + ·)

end Redaction.Text.CharacterName
