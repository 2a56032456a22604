/-!
# Runs of a case mapping

Most letters that change case do so in runs: every letter of the run, or every second one, moves by
the same distance. A case mapping that keeps the number of characters is a list of such runs.
-/
namespace Blueprint.Text

/-- The code points `first`, `first + step`, … up to `last`, each moved by `shift`. -/
structure CaseRun where
  /-- The first code point of the run. -/
  first : Nat
  /-- The last code point of the run. -/
  last : Nat
  /-- The distance between neighbours of the run. -/
  step : Nat
  /-- How far each code point of the run moves. -/
  shift : Int
deriving DecidableEq, Repr

/-- The run holds the code point. -/
def CaseRun.holds (run : CaseRun) (n : Nat) : Bool :=
  run.first ≤ n && n ≤ run.last && (n - run.first) % run.step == 0

/-- The image of a code point of the run. -/
def CaseRun.image (run : CaseRun) (n : Nat) : Nat := ((n : Int) + run.shift).toNat

/-- A character mapped by the first run that holds it, itself if none does. -/
def mapCase (runs : List CaseRun) (c : Char) : Char :=
  match runs.find? fun run => run.holds c.toNat with
  | some run => Char.ofNat (run.image c.toNat)
  | none => c

end Blueprint.Text
