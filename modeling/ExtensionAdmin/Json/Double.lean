/-! Finite 64-bit floating-point numbers and their shortest decimal text. A number is kept by its
bits, so that equality of numbers is equality of what is stored. The text is the shortest decimal
that reads back as the same number, the nearest such one, and of two equally near the one with an
even last digit; all comparisons are made in exact whole numbers. -/

namespace ExtensionAdmin.Json

structure Double where
  bits : UInt64
deriving DecidableEq, Repr

namespace Double

def ofFloat (x : Float) : Double := ⟨x.toBits⟩

def toFloat (x : Double) : Float := Float.ofBits x.bits

def negative (x : Double) : Bool := x.bits >>> 63 == 1

def mantissa (x : Double) : Nat :=
  let fraction := (x.bits &&& 0xFFFFFFFFFFFFF).toNat
  if ((x.bits >>> 52) &&& 0x7FF).toNat = 0 then fraction else fraction + 0x10000000000000

def exponent (x : Double) : Int :=
  let field := ((x.bits >>> 52) &&& 0x7FF).toNat
  if field = 0 then -1074 else (field : Int) - 1075

def isZero (x : Double) : Bool := x.mantissa == 0

def tenTo (k : Nat) : Float := Float.ofScientific 1 false k

def shrink (x : Float) (k : Nat) : Float :=
  if k ≤ 308 then x / tenTo k
  else if x == 0 then x
  else shrink (x / tenTo 308) (k - 308)
termination_by k

/-- `significand * 10 ^ exponent`, computed from the nearest number to the significand by one
multiplication or by divisions; `none` when the number is too large. -/
def ofDecimal? (significand : UInt64) (exponent : Int) : Option Double :=
  let x := significand.toFloat
  match exponent with
  | .ofNat k =>
    if k ≤ 308 then
      let y := x * tenTo k
      if y.isInf then none else some (ofFloat y)
    else if x == 0 then some (ofFloat x) else none
  | .negSucc k => some (ofFloat (shrink x (k + 1)))

def negate (x : Double) : Double := ⟨x.bits ||| 0x8000000000000000⟩

def ofInt (i : Int) : Double :=
  match i with
  | .ofNat n => ofFloat n.toUInt64.toFloat
  | .negSucc n => negate (ofFloat (n + 1).toUInt64.toFloat)

def digits (n : Nat) : List Char := Nat.toDigits 10 n

def leadingExponent (num den : Nat) : Int :=
  if den ≤ num then ((digits (num / den)).length : Int) - 1
  else
    let d := (digits (den / num)).length
    if den ≤ num * Nat.pow 10 (d - 1) then 1 - (d : Int) else -(d : Int)

/-- The interval of ratios that read back as one number: the value and both ends over a common
denominator, and whether the ends belong to it. -/
structure Rounding where
  low : Nat
  value : Nat
  high : Nat
  den : Nat
  closed : Bool

def rounding (x : Double) : Rounding :=
  let m := x.mantissa
  let e := x.exponent - 2
  let low := if m == 0x10000000000000 && x.exponent != -1074 then 4 * m - 1 else 4 * m - 2
  let up := Nat.pow 2 e.toNat
  { low := low * up, value := 4 * m * up, high := (4 * m + 2) * up, den := Nat.pow 2 (-e).toNat,
    closed := m % 2 == 0 }

def Rounding.holds (r : Rounding) (d : Nat) (k : Int) : Bool :=
  let x := d * Nat.pow 10 k.toNat * r.den
  let up := Nat.pow 10 (-k).toNat
  if r.closed then r.low * up ≤ x && x ≤ r.high * up else r.low * up < x && x < r.high * up

/-- The multiple of `10 ^ k` that stands for the interval, if one lies in it: the nearer of the two
neighbours of the value, and the even one of two equally near. -/
def Rounding.onGrid? (r : Rounding) (k : Int) : Option Nat :=
  let up := Nat.pow 10 (-k).toNat
  let unit := Nat.pow 10 k.toNat * r.den
  let below := r.value * up / unit
  let rest := r.value * up % unit
  match r.holds below k, r.holds (below + 1) k with
  | true, true =>
    if 2 * rest < unit then some below
    else if unit < 2 * rest then some (below + 1)
    else if below % 2 == 0 then some below else some (below + 1)
  | true, false => some below
  | false, true => some (below + 1)
  | false, false => none

def Rounding.search (r : Rounding) (lead : Int) : Nat → Nat → Nat × Int
  | 0, n => ((r.onGrid? (lead - n)).getD 0, lead - n)
  | fuel + 1, n =>
    match r.onGrid? (lead - n) with
    | some d => (d, lead - n)
    | none => r.search lead fuel (n + 1)

def shortest (x : Double) : List Char × Int :=
  let r := x.rounding
  let found := r.search (leadingExponent r.value r.den) 16 0
  let all := digits found.1
  let kept := (all.reverse.dropWhile (· == '0')).reverse
  (kept, found.2 + (all.length : Int) - 1)

/-- Digits with the first of them at decimal exponent `e`: positional from `10 ^ -5` to below
`10 ^ 16`, always with a point, and with a signed exponent elsewhere. -/
def place (ds : List Char) (e : Int) : List Char :=
  if -5 ≤ e && e < 16 then
    if e < 0 then ['0', '.'] ++ List.replicate ((-e).toNat - 1) '0' ++ ds
    else
      let whole := e.toNat + 1
      let tail := ds.drop whole
      ds.take whole ++ List.replicate (whole - ds.length) '0' ++ ['.'] ++
        (if tail.isEmpty then ['0'] else tail)
  else
    ds.take 1 ++ (if ds.length ≤ 1 then [] else '.' :: ds.drop 1) ++ ['e'] ++
      [if e < 0 then '-' else '+'] ++ digits e.natAbs

def render (x : Double) : List Char :=
  let magnitude :=
    if x.isZero then ['0', '.', '0']
    else
      let s := x.shortest
      place s.1 s.2
  if x.negative then '-' :: magnitude else magnitude

end Double

end ExtensionAdmin.Json
