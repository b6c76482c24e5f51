import LineLint.Number.Binary64

namespace LineLint

namespace Ratio

/-- Where the decimal point stands: the least `p` with the number below `10 ^ p`. -/
def decimalPoint (r : Ratio) : Int :=
  if r.denominator ≤ r.numerator then Binary64.decimalLength r.floor
  else
    let zeros := Binary64.decimalLength r.denominator - Binary64.decimalLength r.numerator
    if r.denominator ≤ r.numerator * Nat.pow 10 zeros then 1 - zeros else -zeros

end Ratio

structure Decimal where
  digits : Nat
  exponent : Int
  deriving Repr, DecidableEq

namespace Binary64

/-- The better of a number's two neighbours among the decimals of one exponent, if any of them
reads back. -/
def onGrid? (r : Ratio) (exponent : Int) : Option Decimal :=
  let scaled := r.divPow 10 exponent
  let below := scaled.floor
  let readsBack := fun digits => ofDecimal false digits exponent == ofRatio false r
  match readsBack below, readsBack (below + 1) with
  | true, true => some ⟨scaled.round, exponent⟩
  | true, false => some ⟨below, exponent⟩
  | false, true => some ⟨below + 1, exponent⟩
  | false, false => none

/-- Seventeen digits are always enough. -/
def shortest (r : Ratio) : Decimal :=
  let point := r.decimalPoint
  ((List.range 17).findSome? fun (n : Nat) => onGrid? r (point - (n + 1 : Int))).getD ⟨0, 0⟩

end Binary64

structure DecimalLayout where
  /-- The least and the greatest place of the decimal point that are written without exponent. -/
  leastPoint : Int
  greatestPoint : Int
  infinity : String
  undefined : String

namespace DecimalLayout

def zeros (n : Nat) : List Char := List.replicate n '0'

def sign (negative : Bool) : List Char := if negative then ['-'] else []

/-- A number of at least two digits with its sign. -/
def exponentText (n : Int) : List Char :=
  let digits := (toString n.natAbs).toList
  (if n < 0 then '-' else '+') :: (zeros (2 - digits.length) ++ digits)

/-- Digits with the point after the first `point` of them; zeros fill what is missing. -/
def positional (digits : List Char) (point : Int) : List Char :=
  if point ≤ 0 then '0' :: '.' :: (zeros point.natAbs ++ digits)
  else if digits.length ≤ point then digits ++ zeros (point.toNat - digits.length) ++ ['.', '0']
  else digits.take point.toNat ++ '.' :: digits.drop point.toNat

def scientific (digits : List Char) (point : Int) : List Char :=
  match digits with
  | [] => []
  | [only] => only :: 'e' :: exponentText (point - 1)
  | first :: rest => first :: '.' :: (rest ++ 'e' :: exponentText (point - 1))

def significant (digits : List Char) : List Char :=
  (digits.reverse.dropWhile (· = '0')).reverse

def magnitude (layout : DecimalLayout) (r : Ratio) : List Char :=
  let decimal := Binary64.shortest r
  let all := (toString decimal.digits).toList
  let point := all.length + decimal.exponent
  if layout.leastPoint ≤ point && point ≤ layout.greatestPoint then
    positional (significant all) point
  else scientific (significant all) point

def render (layout : DecimalLayout) : Binary64 → List Char
  | .finite negative significand exponent =>
      sign negative ++
        if significand = 0 then ['0', '.', '0']
        else layout.magnitude (Ratio.scientific significand 2 exponent)
  | .infinite negative => sign negative ++ layout.infinity.toList
  | .undefined => layout.undefined.toList

end DecimalLayout

end LineLint
