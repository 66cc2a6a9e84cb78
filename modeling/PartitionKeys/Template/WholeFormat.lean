import PartitionKeys.Number.Binary64
import PartitionKeys.Template.FormatSpec

/-!
# WholeFormat — how a whole number is formatted

A whole number is written in base ten, two, eight or sixteen, as the character of its code, or like
the real nearest to it with a fixed, a scientific or the shorter of both notations.  Digits before
the point may be separated in groups, and zeros used as padding are grouped with them.

* `WholeFormat.Numeral`: sign, mark of the base, digits, and what follows the digits;
* `WholeFormat.numeral`: a number by the type of a format;
* `WholeFormat.layout`: a numeral padded to a format;
* `WholeFormat.format`: all of it.
-/

namespace PartitionKeys
namespace Template
namespace WholeFormat

structure Numeral where
  mark : List Char := []
  digits : List Char := []
  rest : List Char := []
  deriving DecidableEq, Repr

/-! ## Digits -/

def digitsOf (base n : Nat) : List Char :=
  Nat.toDigits base n

def raise (cs : List Char) : List Char :=
  cs.map Char.toUpper

/-- The nearest whole number to a quotient, the even one of two. -/
def roundQuotient (n d : Nat) : Nat :=
  let q := n / d
  let twice := 2 * (n % d)
  if twice < d || (twice = d && q % 2 = 0) then q else q + 1

/-- The first digit, `places` further digits and the exponent of a number. -/
def scientific (n places : Nat) : List Char × Nat :=
  if n = 0 then (List.replicate (places + 1) '0', 0)
  else
    let exponent := (digitsOf 10 n).length - 1
    let scaled :=
      if exponent ≤ places then n * Nat.pow 10 (places - exponent)
      else roundQuotient n (Nat.pow 10 (exponent - places))
    let digits := digitsOf 10 scaled
    if digits.length ≤ places + 1 then (digits, exponent)
    else (digits.dropLast, exponent + 1)

def exponentText (n : Nat) : List Char :=
  let digits := digitsOf 10 n
  ['e', '+'] ++ if digits.length < 2 then '0' :: digits else digits

def fraction (alternate : Bool) (cs : List Char) : List Char :=
  if cs.isEmpty && !alternate then [] else '.' :: cs

def withoutZeros (cs : List Char) : List Char :=
  (cs.reverse.dropWhile (· == '0')).reverse

/-! ## Numerals -/

def fixed (alternate : Bool) (places n : Nat) : Numeral :=
  { digits := digitsOf 10 n, rest := fraction alternate (List.replicate places '0') }

def withExponent (alternate : Bool) (places n : Nat) : Numeral :=
  let (digits, exponent) := scientific n places
  { digits := digits.take 1
    rest := fraction alternate (digits.drop 1) ++ exponentText exponent }

/-- The given number of digits in the fixed notation where they reach the point, else in the
scientific one; zeros at the end of a fraction are left out. -/
def shorter (alternate : Bool) (places n : Nat) : Numeral :=
  let places := places.max 1
  let (digits, exponent) := scientific n (places - 1)
  let kept (cs : List Char) : List Char := if alternate then cs else withoutZeros cs
  if exponent < places then
    { digits := digits.take (exponent + 1)
      rest := fraction alternate (kept (digits.drop (exponent + 1))) }
  else
    { digits := digits.take 1
      rest := fraction alternate (kept (digits.drop 1)) ++ exponentText exponent }

def greatestPrecision : Nat :=
  2147483647

def real (spec : FormatSpec) (n : Nat) : Except Fault Numeral :=
  let places := spec.precision.getD 6
  if greatestPrecision < places then .error .precisionTooBig
  else
    let n := Binary64.nearestWhole n
    let numeral :=
      match spec.type with
      | 'e' | 'E' => withExponent spec.alternate places n
      | 'g' | 'G' => shorter spec.alternate places n
      | '%' =>
          let hundredfold := fixed spec.alternate places (Binary64.nearestWhole (100 * n))
          { hundredfold with rest := hundredfold.rest ++ ['%'] }
      | _ => fixed spec.alternate places n
    .ok (if "EG".toList.contains spec.type then { numeral with rest := raise numeral.rest }
      else numeral)

def character (spec : FormatSpec) (n : Nat) : Except Fault Numeral :=
  if spec.sign.isSome then .error .signOnCharacter
  else if spec.alternate then .error .alternateOnCharacter
  else if 0x10ffff < n then .error .noCharacter
  else .ok { rest := [Char.ofNat n] }

def inBase (spec : FormatSpec) (base : Nat) (mark : Char) (n : Nat) : Numeral :=
  let numeral : Numeral :=
    { mark := if spec.alternate then ['0', mark] else [], digits := digitsOf base n }
  if spec.type = 'X' then { numeral with digits := raise numeral.digits } else numeral

/-- A number by the type of a format. -/
def numeral (kind : String) (spec : FormatSpec) (n : Nat) : Except Fault Numeral :=
  if "eEfFgG%".toList.contains spec.type then real spec n
  else if !"bcdnoxX".toList.contains spec.type then .error (.unknownType spec.type kind)
  else if spec.precision.isSome then .error .precisionOnWhole
  else if spec.zeroCoercion then .error .zeroCoercionOnWhole
  else
    match spec.type with
    | 'c' => character spec n
    | 'b' => .ok (inBase spec 2 'b' n)
    | 'o' => .ok (inBase spec 8 'o' n)
    | 'x' => .ok (inBase spec 16 'x' n)
    | 'X' => .ok (inBase spec 16 'X' n)
    | _ => .ok { digits := digitsOf 10 n }

/-! ## Layout -/

/-- Digits from the last to the first in groups, with zeros up to the least length. -/
def groupFrom (size : Nat) (mark : Char) (fuel least : Nat) (reversed : List Char) : List Char :=
  match fuel with
  | 0 => []
  | fuel + 1 =>
      let taken := size.min ((reversed.length.max least).max 1)
      let group := reversed.take taken ++ List.replicate (taken - reversed.length) '0'
      let left := reversed.drop taken
      if left.isEmpty && least ≤ taken then group
      else group ++ mark :: groupFrom size mark fuel (least - taken - 1) left

def groupDigits (size : Nat) (mark : Char) (least : Nat) (digits : List Char) : List Char :=
  (groupFrom size mark (digits.length + least + 1) least digits.reverse).reverse

/-- Digits with separators, and with zeros up to the least length. -/
def spread (spec : FormatSpec) (least : Nat) (digits : List Char) : List Char :=
  if digits.isEmpty then []
  else
    match spec.separator with
    | some mark => groupDigits (if "boxX".toList.contains spec.type then 4 else 3) mark least digits
    | none => List.replicate (least - digits.length) '0' ++ digits

def layout (spec : FormatSpec) (w : Numeral) : List Char :=
  let sign : List Char :=
    match spec.sign with
    | some '+' => ['+']
    | some ' ' => [' ']
    | _ => []
  let front := sign ++ w.mark
  let width := spec.width.getD 0
  let least :=
    if spec.fill = '0' && spec.align = .afterSign then width - front.length - w.rest.length else 0
  let digits := spread spec least w.digits
  let missing := width - (front ++ digits ++ w.rest).length
  let fill (n : Nat) : List Char := List.replicate n spec.fill
  match spec.align with
  | .left => front ++ digits ++ w.rest ++ fill missing
  | .right => fill missing ++ front ++ digits ++ w.rest
  | .center =>
      fill (missing / 2) ++ front ++ digits ++ w.rest ++ fill (missing - missing / 2)
  | .afterSign => front ++ fill missing ++ digits ++ w.rest

/-- The empty format is left to the value itself. -/
def format (kind : String) (spec : List Char) (n : Nat) : Except Fault (List Char) :=
  match FormatSpec.ofChars { kind, type := 'd', align := .right } spec with
  | .error e => .error e
  | .ok spec =>
      match numeral kind spec n with
      | .error e => .error e
      | .ok w =>
          if FormatSpec.longest ≤ spec.width.getD 0 then .error .tooLong else .ok (layout spec w)

end WholeFormat
end Template
end PartitionKeys
