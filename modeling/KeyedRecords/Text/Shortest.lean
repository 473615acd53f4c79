/-!
# Shortest decimal text of a floating-point number

Among the decimal numbers that are nearer to a 64-bit floating-point number than
to any other, the one with the fewest digits is written, and of two of those the
nearer. `shortest` finds its digits with exact arithmetic: for each number of
digits it tests the two neighbours of the value on that decimal grid.
-/

namespace KeyedRecords.Text

/-- A positive number `significand · 2 ^ exponent` with half the distance to its
    neighbours: `lowerHalf` quarters below and two quarters above. -/
structure BinaryNumber where
  significand : Nat
  exponent : Int
  lowerQuarters : Nat

/-- The number that the bits of a positive finite 64-bit floating-point number write. -/
def BinaryNumber.ofBits (bits : Nat) : BinaryNumber :=
  let fraction : Nat := bits % Nat.pow 2 52
  let biased : Nat := bits / Nat.pow 2 52 % Nat.pow 2 11
  if biased = 0 then ⟨fraction, -1074, 2⟩
  else
    ⟨Nat.pow 2 52 + fraction, (biased : Int) - 1075, if fraction = 0 ∧ 1 < biased then 1 else 2⟩

/-- The numerator and denominator of `n · 2 ^ e / 4`. -/
def quarterRatio (n : Nat) (e : Int) : Nat × Nat :=
  if 0 ≤ e then (n * Nat.pow 2 e.toNat, 4) else (n, 4 * Nat.pow 2 (-e).toNat)

/-- Decimal digits and the power of ten they are multiplied by. -/
structure DecimalNumber where
  digits : Nat
  exponent : Int
  deriving DecidableEq, Repr

/-- Compares `digits · 10 ^ exponent` with `num / den`: the two sides of the inequality
    without denominators. -/
def DecimalNumber.sides (d : DecimalNumber) (num den : Nat) : Nat × Nat :=
  if 0 ≤ d.exponent then (d.digits * Nat.pow 10 d.exponent.toNat * den, num)
  else (d.digits * den, num * Nat.pow 10 (-d.exponent).toNat)

/-- Whether a decimal number rounds to the binary one. The ends of the interval belong
    to an even significand. -/
def BinaryNumber.rounds (b : BinaryNumber) (d : DecimalNumber) : Bool :=
  let low := quarterRatio (4 * b.significand - b.lowerQuarters) b.exponent
  let high := quarterRatio (4 * b.significand + 2) b.exponent
  let (d₁, l) := d.sides low.1 low.2
  let (d₂, h) := d.sides high.1 high.2
  if b.significand % 2 = 0 then l ≤ d₁ && d₂ ≤ h else l < d₁ && d₂ < h

/-- The power of ten of the last of `n` digits of `num / den`. -/
def lastPlace (n num den : Nat) : Int :=
  let scaled := num * Nat.pow 10 400 / den
  ((Nat.toDigits 10 scaled).length : Int) - 400 - n

/-- The neighbours of the value with `n` digits that round to it, the nearer first. -/
def BinaryNumber.neighbours (b : BinaryNumber) (n : Nat) : List DecimalNumber :=
  let (num, den) := quarterRatio (4 * b.significand) b.exponent
  let place := lastPlace n num den
  let scale :=
    if 0 ≤ place then (num, den * Nat.pow 10 place.toNat)
    else (num * Nat.pow 10 (-place).toNat, den)
  let below := scale.1 / scale.2
  let remainder := scale.1 % scale.2
  let candidates : List DecimalNumber :=
    if 2 * remainder < scale.2 ∨ (2 * remainder = scale.2 ∧ below % 2 = 0) then
      [⟨below, place⟩, ⟨below + 1, place⟩]
    else [⟨below + 1, place⟩, ⟨below, place⟩]
  candidates.filter b.rounds

/-- Leaves out zeros at the end of the digits. -/
def DecimalNumber.trim (d : DecimalNumber) : Nat → DecimalNumber
  | 0 => d
  | fuel + 1 =>
    if d.digits ≠ 0 ∧ d.digits % 10 = 0 then
      DecimalNumber.trim ⟨d.digits / 10, d.exponent + 1⟩ fuel
    else d

/-- The shortest decimal number that rounds to the binary one. -/
def BinaryNumber.shortest (b : BinaryNumber) : DecimalNumber :=
  match ((List.range 17).flatMap fun n => b.neighbours (n + 1)).head? with
  | some d => d.trim 20
  | none => ⟨0, 0⟩

/-- The text of a decimal number: positional up to 16 places before the point and down
    to five zeros after it, with an exponent otherwise. -/
def DecimalNumber.display (d : DecimalNumber) : String :=
  let digits := Nat.toDigits 10 d.digits
  let zeros (n : Int) := List.replicate n.toNat '0'
  let point : Int := digits.length + d.exponent
  String.ofList <|
    if 0 ≤ d.exponent ∧ point ≤ 16 then digits ++ zeros d.exponent ++ ['.', '0']
    else if 0 < point ∧ point ≤ 16 then
      digits.take point.toNat ++ ['.'] ++ digits.drop point.toNat
    else if -5 < point ∧ point ≤ 0 then ['0', '.'] ++ zeros (-point) ++ digits
    else
      let exponent := 'e' :: (toString (point - 1)).toList
      match digits with
      | [digit] => digit :: exponent
      | first :: rest => first :: '.' :: rest ++ exponent
      | [] => exponent

/-- The text of a finite 64-bit floating-point number. -/
def displayFloat (x : Float) : String :=
  let bits := x.toBits.toNat
  let sign := if bits < Nat.pow 2 63 then "" else "-"
  let magnitude := bits % Nat.pow 2 63
  if magnitude = 0 then sign ++ "0.0"
  else sign ++ (BinaryNumber.ofBits magnitude).shortest.display

end KeyedRecords.Text
