namespace SpringSkeleton.Decimal

structure Scientific where
  digits : Nat
  exponent : Int
  deriving DecidableEq

-- The value as a fraction, and the interval that rounds to it, all in quarters of the last bit.
structure Rounding where
  value : Nat
  lower : Nat
  upper : Nat
  unit : Nat
  closed : Bool

-- Below a power of two the neighbours stand half as far apart.
def Rounding.ofBinary (m : Nat) (q : Int) (narrowBelow : Bool) : Rounding :=
  let scale := Nat.pow 2 q.toNat
  { value := 4 * m * scale
    lower := (4 * m - (if narrowBelow then 1 else 2)) * scale
    upper := (4 * m + 2) * scale
    unit := 4 * Nat.pow 2 (-q).toNat
    closed := m % 2 == 0 }

-- Multiples of ten powers are compared by cross multiplication.
def Rounding.admits (r : Rounding) (candidate : Nat) (exponent : Int) : Bool :=
  let decimal := candidate * Nat.pow 10 exponent.toNat * r.unit
  let grid := Nat.pow 10 (-exponent).toNat
  if r.closed then r.lower * grid ≤ decimal && decimal ≤ r.upper * grid
  else r.lower * grid < decimal && decimal < r.upper * grid

def Rounding.distance (r : Rounding) (candidate : Nat) (exponent : Int) : Nat :=
  let decimal := candidate * Nat.pow 10 exponent.toNat * r.unit
  let value := r.value * Nat.pow 10 (-exponent).toNat
  if decimal ≤ value then value - decimal else decimal - value

-- Of the two points of the grid around the value, the one that reads back and lies nearer.
def Rounding.onGrid (r : Rounding) (exponent : Int) : Option Scientific :=
  let below := r.value * Nat.pow 10 (-exponent).toNat / (r.unit * Nat.pow 10 exponent.toNat)
  match r.admits below exponent, r.admits (below + 1) exponent with
  | true, true =>
    let low := r.distance below exponent
    let high := r.distance (below + 1) exponent
    if low < high || (low == high && below % 2 == 0) then some ⟨below, exponent⟩
    else some ⟨below + 1, exponent⟩
  | true, false => some ⟨below, exponent⟩
  | false, true => some ⟨below + 1, exponent⟩
  | false, false => none

-- Finer and finer grids; seventeen digits always suffice.
def Rounding.search (r : Rounding) (exponent : Int) : Nat → Scientific
  | 0 => ⟨0, 0⟩
  | grids + 1 => match r.onGrid exponent with
    | some found => found
    | none => r.search (exponent - 1) grids

def decimalLength (n : Nat) : Nat := (Nat.toDigits 10 n).length

-- The exponent of the first digit of a fraction.
def leadingExponent (value unit : Nat) : Int :=
  if unit ≤ value then decimalLength (value / unit) - 1
  else
    let shift := decimalLength (unit / value)
    if unit ≤ value * Nat.pow 10 (shift - 1) then 1 - (shift : Int) else -(shift : Int)

def dropZeros : Nat → Scientific → Scientific
  | 0, s => s
  | bound + 1, s =>
    if s.digits ≠ 0 ∧ s.digits % 10 = 0 then dropZeros bound ⟨s.digits / 10, s.exponent + 1⟩ else s

-- A number m·2^q stands for all reals nearer to it than to its neighbours; of the decimals among
-- them the one with the fewest digits is taken, and of two such decimals the nearer one.
def shortest (m : Nat) (q : Int) (narrowBelow : Bool) : Scientific :=
  let r := Rounding.ofBinary m q narrowBelow
  let found := r.search (leadingExponent r.value r.unit + 1) 19
  dropZeros (decimalLength found.digits) found

-- Sign, and digits of the magnitude; none for an infinity or what is no number.
def ofFloat (x : Float) : Option (Bool × Scientific) :=
  let bits := x.toBits.toNat
  let negative := bits / Nat.pow 2 63 == 1
  let exponent : Nat := bits / Nat.pow 2 52 % Nat.pow 2 11
  let fraction := bits % Nat.pow 2 52
  if exponent = 2047 then none
  else if exponent = 0 then
    if fraction = 0 then some (negative, ⟨0, 0⟩)
    else some (negative, shortest fraction (-1074) false)
  else some (negative, shortest (Nat.pow 2 52 + fraction) ((exponent : Int) - 1075) (fraction == 0 && exponent ≠ 1))

end SpringSkeleton.Decimal
