import PartitionKeys.Text.Printable

/-!
# Quoted — a text between quotes, with escapes

A quoted text stands between apostrophes, or between double quotes when it holds an apostrophe and
no double quote.  The quote in use, the backslash, line breaks and tabs are written with a
backslash; an unprintable character is written by its code in two, four or eight hexadecimal
digits.

* `Quoted.encode plain s`: `s` quoted, where only the characters in `plain` stand for themselves;
* `Quoted.text`: every printable character stands for itself;
* `Quoted.ascii`: characters beyond ASCII written by their codes, without quotes.
-/

namespace PartitionKeys
namespace Quoted

def apostrophe : Char := '\''

def doubleQuote : Char := '"'

def backslash : Char := '\\'

/-! ## Escapes -/

def hex (width n : Nat) : List Char :=
  let digits := Nat.toDigits 16 n
  List.replicate (width - digits.length) '0' ++ digits

def codeEscape (n : Nat) : List Char :=
  if n < 0x100 then backslash :: 'x' :: hex 2 n
  else if n < 0x10000 then backslash :: 'u' :: hex 4 n
  else backslash :: 'U' :: hex 8 n

def escape (quote : Char) (plain : Char → Bool) (c : Char) : List Char :=
  if c = quote ∨ c = backslash then [backslash, c]
  else if c = '\n' then [backslash, 'n']
  else if c = '\r' then [backslash, 'r']
  else if c = '\t' then [backslash, 't']
  else if plain c then [c]
  else codeEscape c.toNat

/-! ## Quoting -/

def quoteFor (cs : List Char) : Char :=
  if cs.contains apostrophe && !cs.contains doubleQuote then doubleQuote else apostrophe

def encode (plain : Char → Bool) (s : String) : String :=
  let quote := quoteFor s.toList
  String.ofList (quote :: s.toList.flatMap (escape quote plain) ++ [quote])

def text (s : String) : String :=
  encode CharSet.printable.contains s

/-- A text with every character beyond ASCII written by its code. -/
def ascii (s : String) : String :=
  String.ofList (s.toList.flatMap fun c => if c.toNat < 0x80 then [c] else codeEscape c.toNat)

end Quoted
end PartitionKeys
