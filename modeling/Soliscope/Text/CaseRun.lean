/-! # Runs of letters

A case mapping of letters is a list of runs.  The letters of a run stand at equal distances, and
each is mapped to the letter at the same offset from it.
-/

namespace Soliscope.Text

/-- Letters `first`, `first + step`, …, `last`, each mapped by adding `shift`. -/
structure CaseRun where
  first : Nat
  last : Nat
  step : Nat
  shift : Int

/-- The code point belongs to the run. -/
def CaseRun.has (run : CaseRun) (codePoint : Nat) : Bool :=
  run.first ≤ codePoint && codePoint ≤ run.last && (codePoint - run.first) % run.step == 0

/-- The letter that a letter of the run is mapped to. -/
def CaseRun.map (run : CaseRun) (letter : Char) : Char :=
  Char.ofNat (letter.toNat + run.shift).toNat

end Soliscope.Text
