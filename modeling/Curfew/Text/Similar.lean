/-!
How much two words have in common.

The longest run of characters that both have is taken out, and then the same is done with what stands
before it in both and with what stands behind it. The characters taken out are what the words share.
-/

namespace Curfew.Text.Similar

/-- How many characters two texts have in common from their beginnings. -/
def commonStart : List Char → List Char → Nat
  | a :: as, b :: bs => if a = b then commonStart as bs + 1 else 0
  | _, _ => 0

/-- A run of characters that stands in two texts. -/
structure Shared where
  first : Nat
  second : Nat
  length : Nat

/-- The longest run that stands in two texts, the first one of several. -/
def longest (as bs : List Char) : Shared :=
  let runs := (List.range as.length).flatMap fun i => (List.range bs.length).map fun j =>
    { first := i, second := j, length := commonStart (as.drop i) (bs.drop j) : Shared }
  runs.foldl (fun best run => if best.length < run.length then run else best) ⟨0, 0, 0⟩

/-- How many characters two texts share; the number bounds how often a run is taken out. -/
def shared : Nat → List Char → List Char → Nat
  | 0, _, _ => 0
  | fuel + 1, as, bs =>
    let run := longest as bs
    if run.length = 0 then 0
    else
      run.length + shared fuel (as.take run.first) (bs.take run.second) +
        shared fuel (as.drop (run.first + run.length)) (bs.drop (run.second + run.length))

/-- The characters that a candidate shares with a word, and how many the two have on average. -/
structure Score where
  candidate : String
  shared : Nat
  total : Nat

def score (word candidate : String) : Score :=
  { candidate, shared := 2 * shared candidate.length candidate.toList word.toList
    total := candidate.length + word.length }

/-- Whether at least three fifths of the characters are shared. -/
def Score.isClose (s : Score) : Bool := 3 * s.total ≤ 5 * s.shared

/-- Whether one candidate comes before another: it shares more, or as much and has the later name. -/
def Score.isBefore (s t : Score) : Bool :=
  let mine := s.shared * t.total
  let other := t.shared * s.total
  other < mine || (other == mine && t.candidate ≤ s.candidate)

/-- Up to three candidates that come close to a word, by name. -/
def closest (word : String) (candidates : List String) : List String :=
  let close := (candidates.map (score word)).filter Score.isClose
  let best := ((close.mergeSort Score.isBefore).take 3).map Score.candidate
  best.mergeSort fun a b => a ≤ b

end Curfew.Text.Similar
