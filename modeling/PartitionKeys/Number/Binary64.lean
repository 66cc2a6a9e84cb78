/-!
# Binary64 — double precision numbers, read and written exactly

A finite number is a sign, a significand and a power of two.  Reading rounds a decimal to the
nearest such number, a tie going to the even significand; writing uses the fewest digits that read
back as the same number, the nearest of those, and of two equally near the even one.

* `Binary64.ofDecimal`: the number nearest to `digits · 10 ^ exponent`;
* `Binary64.nearestWhole`: the number nearest to a whole number;
* `Binary64.shortest`: the fewest digits that read back, as an integer and a power of ten;
* `Binary64.written`: positional with at least one digit after the point, or scientific.
-/

namespace PartitionKeys

inductive Binary64 where
  | finite (negative : Bool) (significand : Nat) (exponent : Int)
  | infinite (negative : Bool)
  deriving DecidableEq, Repr

namespace Binary64

def isZero : Binary64 → Bool
  | .finite _ 0 _ => true
  | _ => false

/-! ## Reading -/

/-- The integer nearest to `n / d`, a tie going to the even one. -/
def roundDiv (n d : Nat) : Nat :=
  let q := n / d
  let twice := 2 * (n % d)
  if twice < d then q
  else if d < twice then q + 1
  else q + q % 2

/-- Numerator and denominator of `n · base ^ exponent`. -/
def fraction (n base : Nat) (exponent : Int) : Nat × Nat :=
  (n * Nat.pow base exponent.toNat, Nat.pow base (-exponent).toNat)

/-- The least significand of 53 bits. -/
def leastSignificand : Nat :=
  4503599627370496

/-- The power of two at which `n / d` has a significand of 53 bits, not below the least one. -/
def unitExponent (n d : Nat) : Int :=
  let guess : Int := (Nat.log2 n : Int) - Nat.log2 d - 52
  let scaled := fraction d 2 guess
  let bits := n * scaled.2 / scaled.1
  let exact := if bits < leastSignificand then guess - 1 else guess
  max exact (-1074)

def ofRatio (negative : Bool) (n d : Nat) : Binary64 :=
  if n = 0 then .finite negative 0 (-1074)
  else
    let e := unitExponent n d
    let scaled := fraction d 2 e
    let m := roundDiv (n * scaled.2) scaled.1
    let (m, e) := if m = 2 * leastSignificand then (leastSignificand, e + 1) else (m, e)
    if 971 < e then .infinite negative else .finite negative m e

/-- The number nearest to a whole number, which is whole again. -/
def nearestWhole (n : Nat) : Nat :=
  match ofRatio false n 1 with
  | .finite _ m e => (fraction m 2 e).1 / (fraction m 2 e).2
  | .infinite _ => n

/-- Decimals far outside the range are settled by their size alone. -/
def ofDecimal (negative : Bool) (digits : Nat) (exponent : Int) : Binary64 :=
  let size : Int := (Nat.toDigits 10 digits).length + exponent
  if digits = 0 ∨ size < -400 then .finite negative 0 (-1074)
  else if 400 < size then .infinite negative
  else
    let (n, d) := fraction digits 10 exponent
    ofRatio negative n d

/-! ## Shortest digits -/

/-- The decimal point position of a positive `n / d`: it lies in `[10 ^ (k - 1), 10 ^ k)`. -/
def pointPosition (n d : Nat) : Int :=
  if d ≤ n then (Nat.toDigits 10 (n / d)).length
  else
    match (List.range 400).find? (fun j => d ≤ n * Nat.pow 10 (j + 1)) with
    | some j => -(j : Int)
    | none => 0

/-- The point of the grid `10 ^ q` that reads back as `m · 2 ^ e`, the nearer of two. -/
def gridPoint? (m : Nat) (e q : Int) : Option Nat :=
  let below := if m = leastSignificand ∧ -1074 < e then 1 else 2
  let twos := Nat.pow 2 (2 - e).toNat
  let tens := Nat.pow 10 q.toNat
  let scale := Nat.pow 2 (e - 2).toNat * Nat.pow 10 (-q).toNat
  let value := 4 * m * scale
  let low := (4 * m - below) * scale
  let high := (4 * m + 2) * scale
  let step := tens * twos
  let inside (c : Nat) : Bool :=
    if m % 2 = 0 then low ≤ c * step && c * step ≤ high
    else low < c * step && c * step < high
  let floor := value / step
  let beneath := value - floor * step
  let above := (floor + 1) * step - value
  match inside floor, inside (floor + 1) with
  | true, true =>
      if beneath < above then some floor
      else if above < beneath then some (floor + 1)
      else some (floor + floor % 2)
  | true, false => some floor
  | false, true => some (floor + 1)
  | false, false => none

def shortest (m : Nat) (e : Int) : Nat × Int :=
  let (n, d) := fraction m 2 e
  let k := pointPosition n d
  let found := (List.range 17).findSome? fun i =>
    (gridPoint? m e (k - (i + 1 : Nat))).map fun c => (c, k - (i + 1 : Nat))
  found.getD (m, 0)

/-! ## Writing -/

def trimZeros (digits : List Char) : List Char :=
  (digits.reverse.dropWhile (· == '0')).reverse

def exponentText (x : Int) : List Char :=
  let digits := Nat.toDigits 10 x.natAbs
  (if x < 0 then '-' else '+') :: (List.replicate (2 - digits.length) '0' ++ digits)

/-- Positional when the decimal point stands at most three places before and sixteen places after
the first digit. -/
def layout (digits : List Char) (point : Int) : List Char :=
  if -4 < point ∧ point ≤ 16 then
    if point ≤ 0 then '0' :: '.' :: (List.replicate (-point).toNat '0' ++ digits)
    else if digits.length ≤ point.toNat then
      digits ++ List.replicate (point.toNat - digits.length) '0' ++ ['.', '0']
    else digits.take point.toNat ++ '.' :: digits.drop point.toNat
  else
    match digits with
    | [d] => d :: 'e' :: exponentText (point - 1)
    | d :: rest => d :: '.' :: rest ++ 'e' :: exponentText (point - 1)
    | [] => []

def magnitude (m : Nat) (e : Int) : List Char :=
  if m = 0 then ['0', '.', '0']
  else
    let (c, q) := shortest m e
    let digits := Nat.toDigits 10 c
    layout (trimZeros digits) (digits.length + q)

def signText (negative : Bool) : String :=
  if negative then "-" else ""

def written : Binary64 → String
  | .finite negative m e => signText negative ++ String.ofList (magnitude m e)
  | .infinite negative => signText negative ++ "inf"

end Binary64
end PartitionKeys
