import TestScenario.Unicode.Compact

/-!
Simple case folding: characters that differ only in case fold to the same character.
-/

namespace TestScenario.Unicode.Folding

/-- Code points at a fixed step from each other that fold to the code point a fixed distance away. -/
structure Run where
  first : Nat
  count : Nat
  step : Nat
  distance : Int
deriving Repr

/-- Runs from the numbers that write them: the distance from the first code point of the run before, the count, the
    step, and twice the distance of the folding, less one if it goes down. -/
def readRuns (last : Nat) : List Nat → List Run
  | d :: count :: step :: code :: rest =>
    let distance : Int := if code % 2 == 0 then Int.ofNat (code / 2) else -Int.ofNat ((code + 1) / 2)
    ⟨last + d, count, step, distance⟩ :: readRuns (last + d) rest
  | _ => []

/-- The code points that fold to another one. -/
def runs : List Run := readRuns 0 (Compact.numbers "
CnBabCmEmbbCHqlxbCmyhbCmBoyccBydcchiccrxccBubbJhbdccgbbUpcbbQebcccebbPwbbbcccbPucbbcdbbGcbbbPobbbPqbbbccbbPu
bbbPycbbQgbbbQcbbbcebbQgbbbQkcbbQmbdccgbbQubbbccbbQudbbccbbQubbbcccbQsccccebbQwbbbcebbcibbebbbccbbebbbccbbebjcc
tjcctbbebcccebbHlbbbEhbuccBobbJzcjccybbBFYkbbbccbbMnbbbBFYedbbccbbOzbbbFibbbFmbfccJvbbIyBrcccgbbcjbbIyhbbCycdbCw
ebbEyccbEwdrbCmsjbCmBfbbcnbbqbbbChbbbBxebbBdbbbBrcmccybbEdbbbDrdbbEpbbbExcbbccbbnbbbcddbJzdqbGeqBgbCmDcrccBqBbcc
CcbbBebhccpBwccDtBmbDsEIpBmbVMuBnbbVMugbbVMuBFfgbpDGabbSKpbbbSKnbbbSJvbcbSJrcbbSJtbbbSJfbbbSHjbbbEAIwbbbchBrbIXj
BtdbIXjMlCxccFzbbEldbbWNtcBwccEaibpqgbpqibpqibpqgbprecppibpBgibpqibpqibpqcbpccbFrcbbrcbbVFtkebGpebbrhbbVKnfcbp
ccbHrjbbVJhfcbpccbIpcbbnmcbJvccbJrcbbrLmbbWGfebbYUvbbbYLnhbbCeBuqbBgBjbbcBFnBabCaCTuBwbDsDsbbccbbBFUjbbbLHj
bbbBFTdddccgbbBFXfbbbBFUvbbbBFXlbbbBFXjcbbcdbbcjcbBFZxcByccEdccchbbcBTYkxccCmoccGghccqBfccCtcccebbEANvbfccnbbc
cbbEVChdcccgkccubbEVElbbbEVFhbbbEVEzbbbEVEfbbbEVElcbbEVApbbbEVClbbbEVAvbbbCTkbiccqbbDrbbbEVEjbbbEARvbcccebbEVHd
biccqbbEVXxzbbcBIhDcbEKZnBEDpbbcBOmBabCmBVzBobDcGuBkbDcHklbDampbDaqhbDaicbDaCQeBzbEyIawbCmEHkBgbCmBGLcBgbCm
DszbCcBUIyBibCq
")

/-- The code points of a run with those that they fold to. -/
def Run.pairs (r : Run) : List (Nat × Nat) :=
  (List.range r.count).map fun k =>
    let n := r.first + k * r.step
    (n, (Int.ofNat n + r.distance).toNat)

/-- All characters that fold to another one with that one, by their places. -/
def pairs : List (Nat × Nat) := (runs.flatMap Run.pairs).map fun (a, b) => (placeOf a, placeOf b)

/-- The characters of a set and all that fold to the same character as one of them, given which character folds to
    which. -/
def closure (pairs : List (Nat × Nat)) (s : ScalarSet) : ScalarSet :=
  let reached := pairs.filterMap fun (a, b) =>
    if ScalarSet.holds false a s.bounds || ScalarSet.holds false b s.bounds then some b else none
  let targets := ScalarSet.ofPlaces reached
  let sources := pairs.filterMap fun (a, b) => if ScalarSet.holds false b targets.bounds then some a else none
  s.union (targets.union (ScalarSet.ofPlaces sources))

/-- The characters of a set and all letters of ASCII that differ from one of them only in case. -/
def asciiClosure (s : ScalarSet) : ScalarSet :=
  let letters := (List.range 26).flatMap fun k =>
    let lower := 97 + k
    let upper := 65 + k
    if ScalarSet.holds false lower s.bounds || ScalarSet.holds false upper s.bounds then [upper, lower] else []
  s.union (ScalarSet.ofPlaces letters)

end TestScenario.Unicode.Folding
