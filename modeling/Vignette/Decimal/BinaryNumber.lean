namespace Vignette

/-! Exact values of floating point numbers. A finite one is a whole number times a power of two, so
that rounding it, to a whole number or to decimal digits, is arithmetic on whole numbers. -/

/-- The whole number nearest to a quotient; of two equally near, the even one. -/
def nearestQuotient (numerator : Int) (denominator : Nat) : Int :=
  let below := numerator / (denominator : Int)
  let rest := numerator % (denominator : Int)
  if 2 * rest < denominator then below
  else if (denominator : Int) < 2 * rest then below + 1
  else if below % 2 = 0 then below
  else below + 1

/-- The binary number `significand * 2 ^ exponent`, with a sign that zero has too. -/
structure BinaryNumber where
  negative : Bool
  significand : Nat
  exponent : Int
deriving DecidableEq, Repr

namespace BinaryNumber

/-- The exact value of a floating point number, unless it is infinite or undefined. -/
def ofFloat? (x : Float) : Option BinaryNumber :=
  let bits := x.toBits.toNat
  let negative := decide (Nat.pow 2 63 ≤ bits)
  let scale := bits / Nat.pow 2 52 % Nat.pow 2 11
  let fraction := bits % Nat.pow 2 52
  if scale = Nat.pow 2 11 - 1 then none
  else if scale = 0 then some ⟨negative, fraction, -1074⟩
  else some ⟨negative, fraction + Nat.pow 2 52, Int.ofNat scale - 1075⟩

def numerator (d : BinaryNumber) : Int :=
  let magnitude : Int := (d.significand * Nat.pow 2 d.exponent.toNat : Nat)
  if d.negative then -magnitude else magnitude

def denominator (d : BinaryNumber) : Nat := Nat.pow 2 (-d.exponent).toNat

def floor (d : BinaryNumber) : Int := d.numerator / (d.denominator : Int)

def ceil (d : BinaryNumber) : Int := -(-d.numerator / (d.denominator : Int))

def truncate (d : BinaryNumber) : Int := Int.tdiv d.numerator (d.denominator : Int)

/-- The nearest whole number; a half goes to the even one. -/
def nearest (d : BinaryNumber) : Int := nearestQuotient d.numerator d.denominator

end BinaryNumber

/-- The nearest whole number is at most half a unit away. -/
theorem nearestQuotient_near (numerator : Int) {denominator : Nat} (positive : 0 < denominator) :
    -(denominator : Int) ≤ 2 * (nearestQuotient numerator denominator * denominator - numerator) ∧
      2 * (nearestQuotient numerator denominator * denominator - numerator) ≤ denominator := by
  have split := Int.emod_add_mul_ediv numerator denominator
  have lower := Int.emod_nonneg numerator (b := denominator) (by omega)
  have upper := Int.emod_lt_of_pos numerator (b := denominator) (by omega)
  have next : (numerator / (denominator : Int) + 1) * denominator =
      denominator * (numerator / (denominator : Int)) + denominator := by
    rw [Int.add_mul, Int.mul_comm]; omega
  have same : numerator / (denominator : Int) * denominator =
      denominator * (numerator / (denominator : Int)) := Int.mul_comm _ _
  simp only [nearestQuotient]
  split
  · omega
  · split
    · omega
    · split <;> omega

end Vignette
