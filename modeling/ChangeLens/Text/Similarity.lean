/-!
# `ChangeLens.Text.Similarity`: how much two texts have in common

A similarity says how much of the longer of two texts they share. Comparisons with a threshold use
the exact quotient; only the printed form goes through a `Float`, as the nearest double of each step.
Which texts are how similar is left to a measure, such as that of `ChangeLens.Text.Distance`.
-/

set_option autoImplicit false

namespace ChangeLens.Text

/-- How much of the longer text two texts share: `shared` of `longest` characters. -/
structure Similarity where
  /-- How many characters they share. -/
  shared : Nat
  /-- The length of the longer text. -/
  longest : Nat
deriving Repr, DecidableEq

/-- Whether a similarity is greater than `tenths / 10`. Two empty texts are alike. -/
def Similarity.exceeds (s : Similarity) (tenths : Nat) : Bool :=
  if s.longest = 0 then tenths < 10 else tenths * s.longest < 10 * s.shared

/-- `num / den` as a whole number, a half going to the even neighbour. -/
def roundHalfEven (num den : Nat) : Nat :=
  let quotient := num / den
  let twice := 2 * (num % den)
  if den < twice || (twice = den && quotient % 2 = 1) then quotient + 1 else quotient

/-- A finite double from zero to one in units of 10⁻⁶, rounded half to even on its exact value. -/
def millionths (x : Float) : Nat :=
  let bits := x.toBits.toNat
  let unit := Nat.pow 2 52
  let exponent := bits / unit % 2048
  let fraction := bits % unit
  let mantissa := if exponent = 0 then fraction else fraction + unit
  roundHalfEven (mantissa * 1000000) (Nat.pow 2 (1075 - max exponent 1))

/-- The similarity with six decimal places. -/
def Similarity.render (s : Similarity) : String :=
  let x : Float :=
    if s.longest = 0 then 1.0
    else 1.0 - (s.longest - s.shared).toFloat / s.longest.toFloat
  let n := millionths x
  let places := toString (n % 1000000)
  toString (n / 1000000) ++ "." ++ String.ofList (List.replicate (6 - places.length) '0') ++ places

end ChangeLens.Text
