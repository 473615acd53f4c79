/-!
# Runs of code points

A property of characters is written as a short text of runs, `first-last` or
`first-last/step` in hexadecimal, one run a word. `Run.parseAll` reads such a
text and `Run.covers` decides membership. A mapping adds the image of the first
code point after a colon: the whole run is shifted by the same distance.
-/

namespace KeyedRecords.Text

/-- The pieces of `cs` between the occurrences of `sep`. -/
def splitOnChar (sep : Char) : List Char → List (List Char)
  | [] => [[]]
  | c :: cs =>
    if c = sep then [] :: splitOnChar sep cs
    else
      match splitOnChar sep cs with
      | [] => [[c]]
      | piece :: pieces => (c :: piece) :: pieces

/-- The value of a lower-case hexadecimal digit; other characters count as zero. -/
def hexDigitValue (c : Char) : Nat :=
  if '0' ≤ c ∧ c ≤ '9' then c.toNat - '0'.toNat
  else if 'a' ≤ c ∧ c ≤ 'f' then c.toNat - 'a'.toNat + 10
  else 0

def hexValue (cs : List Char) : Nat :=
  cs.foldl (fun n c => 16 * n + hexDigitValue c) 0

/-- The code points `first, first + step, …, last`. -/
structure Run where
  first : Nat
  last : Nat
  step : Nat
  deriving Repr

namespace Run

def covers (r : Run) (n : Nat) : Bool :=
  r.first ≤ n && n ≤ r.last && (n - r.first) % r.step == 0

/-- Reads `first`, `first-last` or `first-last/step`. -/
def parse (word : List Char) : Run :=
  let (range, step) :=
    match splitOnChar '/' word with
    | [range, step] => (range, hexValue step)
    | _ => (word, 1)
  match splitOnChar '-' range with
  | [first, last] => ⟨hexValue first, hexValue last, step⟩
  | _ => ⟨hexValue range, hexValue range, 1⟩

/-- Reads the runs of a table, one a word, over several lines. -/
def parseAll (table : List String) : List Run :=
  table.flatMap fun line => (splitOnChar ' ' line.toList).map parse

end Run

/-- A run of code points that is shifted so that `run.first` becomes `image`. -/
structure ShiftedRun where
  run : Run
  image : Nat
  deriving Repr

namespace ShiftedRun

/-- Reads `run:image`. -/
def parse (word : List Char) : ShiftedRun :=
  match splitOnChar ':' word with
  | [run, image] => ⟨Run.parse run, hexValue image⟩
  | _ => ⟨Run.parse word, hexValue word⟩

def parseAll (table : List String) : List ShiftedRun :=
  table.flatMap fun line => (splitOnChar ' ' line.toList).map parse

/-- The image of `n` under the first run that holds it. -/
def image? (runs : List ShiftedRun) (n : Nat) : Option Nat :=
  (runs.find? fun r => r.run.covers n).map fun r => r.image + (n - r.run.first)

end ShiftedRun

end KeyedRecords.Text
