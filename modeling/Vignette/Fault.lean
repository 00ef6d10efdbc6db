namespace Vignette

/-! Why a calculation has no result. Texts that make no sense have defaults instead; only
arithmetic that leaves the numbers behind ends in a fault. -/

inductive Fault where
  | divisionByZero
  /-- An infinite number where a whole one is needed, a power that outgrows the numbers, or a whole
  number that is no byte where one is needed. -/
  | tooLarge
  /-- An undefined number where a whole one is needed, or an angle without a direction. -/
  | undefined
  /-- A whole number written with more digits than are read. -/
  | tooManyDigits (count : Nat)
  | negativeSize
  | tooManyPixels
deriving DecidableEq, Repr

def Fault.message : Fault → String
  | .divisionByZero => "division by zero"
  | .tooLarge => "a number is too large"
  | .undefined => "a number is undefined"
  | .tooManyDigits count => "a whole number has " ++ toString count ++ " digits"
  | .negativeSize => "a picture has a negative width or height"
  | .tooManyPixels => "a picture has too many pixels"

end Vignette
