/-!
Doubles as exact numbers.

A finite double is a whole number times a power of two. The view says which, and `nearest` goes
back: it takes a fraction to the double nearest to it, a tie to the one with an even last place,
and beyond the largest double to infinity.
-/

namespace ImageRelease.Number

/-- What a double stands for: a finite one is `mantissa * 2 ^ exponent`, up to its sign. -/
inductive View
  | nan
  | infinite (negative : Bool)
  | finite (negative : Bool) (mantissa : Nat) (exponent : Int)
  deriving DecidableEq, Repr

def twoTo (n : Nat) : Nat := Nat.pow 2 n

def tenTo (n : Nat) : Nat := Nat.pow 10 n

/-- The least exponent, that of the doubles around zero. -/
def leastExponent : Int := -1074

/-- The first mantissa with all fifty-three places. -/
def fullMantissa : Nat := twoTo 52

def viewBits (bits : Nat) : View :=
  let negative := bits / twoTo 63 % 2 == 1
  let field := bits / twoTo 52 % 2048
  let low := bits % twoTo 52
  if field = 2047 then (if low = 0 then .infinite negative else .nan)
  else if field = 0 then .finite negative low leastExponent
  else .finite negative (fullMantissa + low) (leastExponent + (field - 1 : Nat))

def view (x : Float) : View :=
  viewBits x.toBits.toNat

/-- A whole number as a fraction, times a power of two. -/
def scaled (mantissa : Nat) (exponent : Int) : Nat × Nat :=
  if 0 ≤ exponent then (mantissa * twoTo exponent.toNat, 1) else (mantissa, twoTo (-exponent).toNat)

/-- The quotient rounded to the nearest whole number, a tie to the even one. -/
def roundDiv (num den : Nat) : Nat :=
  let q := num / den
  let twice := 2 * (num % den)
  if twice < den then q else if den < twice then q + 1 else if q % 2 = 0 then q else q + 1

/-- The exponent at which the fraction has a full mantissa, but not below the least one. -/
def exponentFor (num den : Nat) : Int :=
  let e : Int := (num.log2 : Int) - (den.log2 : Int) - 52
  let (n, d) := if 0 ≤ e then (num, den * twoTo e.toNat) else (num * twoTo (-e).toNat, den)
  let e := if n < d * fullMantissa then e - 1 else e
  max e leastExponent

/-- The bits of the double nearest to a fraction that is not negative. -/
def nearestBits (num den : Nat) : Nat :=
  if num = 0 then 0
  else
    let e := exponentFor num den
    let m :=
      if 0 ≤ e then roundDiv num (den * twoTo e.toNat) else roundDiv (num * twoTo (-e).toNat) den
    let bits :=
      if m < fullMantissa then m
      else ((e - leastExponent).toNat + 1) * twoTo 52 + (m - fullMantissa)
    min bits (2047 * twoTo 52)

def ofBits (negative : Bool) (bits : Nat) : Float :=
  Float.ofBits (UInt64.ofNat (bits + if negative then twoTo 63 else 0))

/-- The double nearest to a fraction with a sign. -/
def nearest (negative : Bool) (num den : Nat) : Float :=
  ofBits negative (nearestBits num den)

def infinity (negative : Bool) : Float :=
  ofBits negative (2047 * twoTo 52)

def notANumber : Float :=
  ofBits false (2047 * twoTo 52 + twoTo 51)

def isZero (x : Float) : Bool :=
  match view x with
  | .finite _ 0 _ => true
  | _ => false

def toInt? (x : Float) : Option Int :=
  match view x with
  | .finite negative m e =>
    let (n, d) := scaled m e
    if n % d = 0 then some (if negative then -(n / d : Nat) else (n / d : Nat)) else none
  | _ => none

/-- The whole number next to a double towards zero; zero for what is not finite. -/
def truncate (x : Float) : Int :=
  match view x with
  | .finite negative m e =>
    let (n, d) := scaled m e
    if negative then -(n / d : Nat) else (n / d : Nat)
  | _ => 0

def ofInt (n : Int) : Float :=
  nearest (n < 0) n.natAbs 1

/-- The double without a place after the point: rounded to the nearest whole number, a tie to the
even one, with the sign even where that leaves zero. -/
def wholeText (x : Float) : String :=
  match view x with
  | .nan => "nan"
  | .infinite negative => if negative then "-inf" else "inf"
  | .finite negative m e =>
    let (n, d) := scaled m e
    (if negative then "-" else "") ++ toString (roundDiv n d)

theorem roundDiv_one (n : Nat) : roundDiv n 1 = n := by
  simp [roundDiv, Nat.mod_one]

end ImageRelease.Number
