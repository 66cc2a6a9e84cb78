/-!
# Digit — digits and the numbers they write

Decimal digits come in runs of ten consecutive characters, from the digit zero to the digit nine,
in every script.  A hexadecimal digit is an ASCII digit or one of the first six letters.

* `Digit.zeros`: the digit zero of each run;
* `Digit.value? c`: the value of a decimal digit;
* `Digit.value?_lt`: it is below ten;
* `Digit.hex? c`: the value of a hexadecimal digit;
* `Digit.number base`: the number that digits write in a base up to sixteen.
-/

namespace PartitionKeys
namespace Digit

def zeros : List Nat :=
  [
    0x30, 0x660, 0x6f0, 0x7c0, 0x966, 0x9e6, 0xa66, 0xae6, 0xb66, 0xbe6, 0xc66, 0xce6, 0xd66,
    0xde6, 0xe50, 0xed0, 0xf20, 0x1040, 0x1090, 0x17e0, 0x1810, 0x1946, 0x19d0, 0x1a80, 0x1a90,
    0x1b50, 0x1bb0, 0x1c40, 0x1c50, 0xa620, 0xa8d0, 0xa900, 0xa9d0, 0xa9f0, 0xaa50, 0xabf0,
    0xff10, 0x104a0, 0x10d30, 0x11066, 0x110f0, 0x11136, 0x111d0, 0x112f0, 0x11450, 0x114d0,
    0x11650, 0x116c0, 0x11730, 0x118e0, 0x11950, 0x11c50, 0x11d50, 0x11da0, 0x16a60, 0x16ac0,
    0x16b50, 0x1d7ce, 0x1d7d8, 0x1d7e2, 0x1d7ec, 0x1d7f6, 0x1e140, 0x1e2f0, 0x1e950, 0x1fbf0]

def value? (c : Char) : Option Nat :=
  (zeros.find? (fun z => z ≤ c.toNat && c.toNat < z + 10)).map (c.toNat - ·)

def holds (c : Char) : Bool :=
  (value? c).isSome

def hex? (c : Char) : Option Nat :=
  if c.isDigit then some (c.toNat - '0'.toNat)
  else if 'a' ≤ c && c ≤ 'f' then some (c.toNat - 'a'.toNat + 10)
  else if 'A' ≤ c && c ≤ 'F' then some (c.toNat - 'A'.toNat + 10)
  else none

def number (base : Nat) (cs : List Char) : Nat :=
  cs.foldl (fun n c => base * n + (hex? c).getD 0) 0

theorem value?_lt {c : Char} {d : Nat} (h : value? c = some d) : d < 10 := by
  unfold value? at h
  rw [Option.map_eq_some_iff] at h
  rcases h with ⟨z, hz, hd⟩
  have hrun := List.find?_some hz
  simp only [Bool.and_eq_true, decide_eq_true_eq] at hrun
  omega

end Digit
end PartitionKeys
