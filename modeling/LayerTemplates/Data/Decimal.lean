/-
  LayerTemplates.Data.Decimal
  ───────────────────────────
  Floating-point numbers and decimal numerals.

  A finite number is `mantissa · 2 ^ exponent`.  It is written with the fewest decimal
  digits that read back as the same number, and of those numerals with the one nearest
  to it.  The numerals that read back form an interval around the number; on the grid
  of `n`-digit decimals only the two neighbours of the number have to be tried.
-/
namespace LayerTemplates

/-! ## §1. Binary numbers. -/

/-- A positive number `mantissa · 2 ^ exponent`. -/
structure Binary where
  mantissa : Nat
  exponent : Int
  /-- Whether the next smaller number is only half as far away as the next larger. -/
  closeBelow : Bool
  deriving Repr, DecidableEq, Inhabited

/-- The values of the fraction of a floating-point number, its 52 lowest bits. -/
def fractionRange : Nat := 0x10000000000000

/-- The values of its exponent, the 11 bits above the fraction. -/
def exponentRange : Nat := 0x800

/-- The exponent as the bits of a number say it. -/
def biasedExponent (bits : Nat) : Nat := bits / fractionRange % exponentRange

/-- Whether the bits of a number say that it is negative. -/
def hasSignBit (bits : Nat) : Bool := bits / (fractionRange * exponentRange) % 2 == 1

/-- The magnitude of a finite number by its bits; none for zero. -/
def Binary.ofBits? (bits : Nat) : Option Binary :=
  let fraction := bits % fractionRange
  let biased := biasedExponent bits
  if biased = 0 then
    if fraction = 0 then none
    else some { mantissa := fraction, exponent := -1074, closeBelow := false }
  else
    some { mantissa := fractionRange + fraction, exponent := Int.ofNat biased - 1075,
           closeBelow := fraction == 0 && biased != 1 }

/-! ## §2. Decimal numbers. -/

/-- The number `digits · 10 ^ exponent`. -/
structure Decimal where
  digits : Nat
  exponent : Int
  deriving Repr, DecidableEq, Inhabited

/-- The number `value · base ^ exponent` as a numerator and a denominator. -/
def scaled (value : Nat) (base : Nat) (exponent : Int) : Nat × Nat :=
  let power := Nat.pow base exponent.natAbs
  if exponent < 0 then (value, power) else (value * power, 1)

namespace Binary

/-- Four times the number as a ratio of natural numbers; the factor makes room for the
halves and quarters of a step. -/
def quadruple (b : Binary) (offset : Int) : Nat × Nat :=
  scaled (4 * (b.mantissa : Int) + offset).toNat 2 b.exponent

/-- Whether a decimal number reads back as `b`: it lies between the midpoints to the
neighbours of `b`, which belong to the interval where the mantissa is even. -/
def readsBack (b : Binary) (d : Decimal) : Bool :=
  let (value, unit) := scaled (4 * d.digits) 10 d.exponent
  let (low, lowUnit) := b.quadruple (if b.closeBelow then -1 else -2)
  let (high, highUnit) := b.quadruple 2
  if b.mantissa % 2 = 0 then
    low * unit ≤ value * lowUnit && value * highUnit ≤ high * unit
  else
    low * unit < value * lowUnit && value * highUnit < high * unit

/-- The largest power of ten that is not above the number, looked for downwards. -/
def decimalOrder (b : Binary) : Int :=
  let binaryOrder := (b.mantissa.log2 : Int) + b.exponent
  search 4 (binaryOrder * 30103 / 100000 + 1)
where
  search : Nat → Int → Int
    | 0, order => order
    | fuel + 1, order =>
        let (value, unit) := b.quadruple 0
        let (power, powerUnit) := scaled 4 10 order
        if power * unit ≤ value * powerUnit then order else search fuel (order - 1)

/-- The decimals with `count` digits on either side of the number, the nearer one first
and of two equally near ones the even one. -/
def neighbours (b : Binary) (count : Nat) : List Decimal :=
  let order := b.decimalOrder - (count : Int) + 1
  let (value, unit) := b.quadruple 0
  let (power, powerUnit) := scaled 4 10 order
  let top := value * powerUnit
  let bottom := unit * power
  let below := top / bottom
  let twice := 2 * (top % bottom)
  let belowFirst := twice < bottom || (twice == bottom && below % 2 == 0)
  let low : Decimal := ⟨below, order⟩
  let high : Decimal := ⟨below + 1, order⟩
  if belowFirst then [low, high] else [high, low]

/-- The decimal with the fewest digits that reads back as the number, and of those the
nearest.  Seventeen digits are always enough. -/
def shortest (b : Binary) : Decimal :=
  let candidates := (List.range 17).flatMap fun count => b.neighbours (count + 1)
  (candidates.find? b.readsBack).getD ⟨b.mantissa, b.exponent⟩

end Binary

/-- Drops the zeros at the end of the digits. -/
def Decimal.trimmed (d : Decimal) : Decimal :=
  go d.digits.log2 d
where
  go : Nat → Decimal → Decimal
    | 0, d => d
    | fuel + 1, d =>
        if d.digits % 10 = 0 ∧ d.digits ≠ 0 then go fuel ⟨d.digits / 10, d.exponent + 1⟩ else d

/-! ## §3. Numerals. -/

/-- Zeros of a positional numeral. -/
def zeros (count : Int) : String := "".pushn '0' count.toNat

/-- The numeral of a positive decimal.  The point stands in its place while there are at
most sixteen digits before it and at most four zeros after it; beyond that a signed
exponent says where it is. -/
def Decimal.numeral (d : Decimal) : String :=
  let digits := toString d.digits
  let count : Int := digits.length
  let point := count + d.exponent
  if 0 ≤ d.exponent ∧ point ≤ 16 then
    digits ++ zeros d.exponent ++ ".0"
  else if 0 < point ∧ point ≤ 16 then
    String.ofList (digits.toList.take point.toNat) ++ "."
      ++ String.ofList (digits.toList.drop point.toNat)
  else if -5 < point ∧ point ≤ 0 then
    "0." ++ zeros (-point) ++ digits
  else
    let power := point - 1
    let sign := if power < 0 then "-" else "+"
    let fraction := String.ofList (digits.toList.drop 1)
    String.ofList (digits.toList.take 1) ++ (if fraction.isEmpty then "" else "." ++ fraction)
      ++ "e" ++ sign ++ toString power.natAbs

/-- The numeral of a floating-point number; none where it is not finite. -/
def floatNumeral? (x : Float) : Option String :=
  let bits := x.toBits.toNat
  if biasedExponent bits + 1 = exponentRange then
    none
  else
    let sign := if hasSignBit bits then "-" else ""
    match Binary.ofBits? bits with
    | none => some (sign ++ "0.0")
    | some b => some (sign ++ b.shortest.trimmed.numeral)

/-- The floating-point number nearest to a decimal.  Exponents far outside the range of
floating-point numbers are cut off first, so that no power of ten gets out of hand. -/
def Decimal.toFloat (d : Decimal) : Float :=
  if d.digits = 0 then 0.0
  else
    let point := (toString d.digits).length + d.exponent
    if point > 400 then Float.ofScientific 1 false 400
    else if point < -400 then 0.0
    else Float.ofScientific d.digits (d.exponent < 0) d.exponent.natAbs

end LayerTemplates
