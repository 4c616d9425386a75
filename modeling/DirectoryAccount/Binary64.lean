/-!
# Rounding to double precision

Double precision arithmetic without a machine type: a double is the rational number it stands for,
and an operation is the exact one followed by `Binary64.round`. So an error bound is an inequality
of rationals.

**A double has 53 significant bits.** Around `x` with `2 ^ e ≤ |x| < 2 ^ (e + 1)` the doubles are
the multiples of `2 ^ (e - 52)`, but never finer than `2 ^ (-1074)`. `Binary64.round` takes the
nearest multiple, and of two nearest ones the even. Overflow is not modelled: a number too large to
be a double rounds like any other.
-/

namespace DirectoryAccount

/-- The integer nearest to `x`; halfway between two integers, the even one. -/
def roundHalfEven (x : Rat) : Int :=
  let below := x.floor
  let excess := x - below
  if excess < 1 / 2 then below
  else if 1 / 2 < excess then below + 1
  else if below % 2 = 0 then below
  else below + 1

/-- The integer part of `x`, toward zero. -/
def truncate (x : Rat) : Int :=
  if 0 ≤ x then x.floor else x.ceil

namespace Binary64

/-- The exponent `e` with `2 ^ e ≤ |x| < 2 ^ (e + 1)`, for `x` other than zero. The bit lengths of
numerator and denominator give it up to one. -/
def exponent (x : Rat) : Int :=
  let guess : Int := x.num.natAbs.log2 - x.den.log2
  if (2 : Rat) ^ guess ≤ x.abs then guess else guess - 1

/-- The distance between neighbouring doubles around `x`. -/
def spacing (x : Rat) : Rat :=
  (2 : Rat) ^ max (exponent x - 52) (-1074)

/-- The double nearest to `x`; halfway between two doubles, the even one. -/
def round (x : Rat) : Rat :=
  if x = 0 then 0 else roundHalfEven (x / spacing x) * spacing x

end Binary64

end DirectoryAccount
