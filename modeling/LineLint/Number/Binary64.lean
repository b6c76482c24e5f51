namespace LineLint

/-- Numbers of 53 binary digits, in exact arithmetic. -/
inductive Binary64
  | finite (negative : Bool) (significand : Nat) (exponent : Int)
  | infinite (negative : Bool)
  | undefined
  deriving Repr, DecidableEq

/-- A fraction `numerator / denominator` of natural numbers. -/
structure Ratio where
  numerator : Nat
  denominator : Nat
  deriving Repr, DecidableEq

namespace Ratio

def scientific (n base : Nat) : (exponent : Int) → Ratio
  | .ofNat e => ⟨n * Nat.pow base e, 1⟩
  | .negSucc e => ⟨n, Nat.pow base (e + 1)⟩

def divPow (r : Ratio) (base : Nat) : (exponent : Int) → Ratio
  | .ofNat e => ⟨r.numerator, r.denominator * Nat.pow base e⟩
  | .negSucc e => ⟨r.numerator * Nat.pow base (e + 1), r.denominator⟩

def floor (r : Ratio) : Nat := r.numerator / r.denominator

/-- The nearest natural number; a half goes to the even neighbour. -/
def round (r : Ratio) : Nat :=
  let below := r.floor
  let twice := 2 * (r.numerator % r.denominator)
  if twice < r.denominator then below
  else if r.denominator < twice then below + 1
  else below + below % 2

end Ratio

namespace Binary64

/-- The power of two that leaves 53 digits before the point, but not below the smallest. -/
def exponentFor (r : Ratio) : Int :=
  let estimate : Int := max ((r.numerator.log2 : Int) - r.denominator.log2 - 53) (-1074)
  if Nat.pow 2 53 ≤ (r.divPow 2 estimate).floor then estimate + 1 else estimate

/-- The nearest number to a positive fraction; a tie goes to the even significand. -/
def ofRatio (negative : Bool) (r : Ratio) : Binary64 :=
  let exponent := exponentFor r
  let significand := (r.divPow 2 exponent).round
  let (significand, exponent) :=
    if significand = Nat.pow 2 53 then (Nat.pow 2 52, exponent + 1) else (significand, exponent)
  if 971 < exponent then infinite negative else finite negative significand exponent

def decimalLength (n : Nat) : Nat := (toString n).length

/-- The nearest number to `digits * 10 ^ exponent`. Far beyond the range the answer is known
without forming the power. -/
def ofDecimal (negative : Bool) (digits : Nat) (exponent : Int) : Binary64 :=
  let point := decimalLength digits + exponent
  if digits = 0 || point < -400 then finite negative 0 0
  else if 400 < point then infinite negative
  else ofRatio negative (Ratio.scientific digits 10 exponent)

def isZero : Binary64 → Bool
  | finite _ significand _ => significand == 0
  | _ => false

def isFinite : Binary64 → Bool
  | finite .. => true
  | _ => false

end Binary64

end LineLint
