/-!
# Utf8 — texts as bytes

A text is cut to a number of bytes, perhaps inside a character, whose first bytes are then left on
their own.

* `Utf8.cut`: the characters that fit, and what is left of the next one;
* `Utf8.Cut.shown`: the cut text, or what is wrong with it;
* `cut_of_size_le`: a text that fits is not cut.
-/

namespace PartitionKeys
namespace Utf8

structure Cut where
  whole : List Char
  /-- The bytes of the whole characters. -/
  size : Nat
  /-- The first byte of the character cut, and how many of its bytes are left. -/
  broken : Option (Nat × Nat) := none
  deriving DecidableEq, Repr

def size (cs : List Char) : Nat :=
  cs.foldr (fun c n => c.utf8Size + n) 0

def leadByte (c : Char) : Nat :=
  let n := c.toNat
  match c.utf8Size with
  | 1 => n
  | 2 => 0xc0 + n / 0x40
  | 3 => 0xe0 + n / 0x1000
  | _ => 0xf0 + n / 0x40000

def cutFrom (room done : Nat) : List Char → Cut
  | [] => ⟨[], done, none⟩
  | c :: rest =>
      if c.utf8Size ≤ room then
        let cut := cutFrom (room - c.utf8Size) (done + c.utf8Size) rest
        { cut with whole := c :: cut.whole }
      else ⟨[], done, if room = 0 then none else some (leadByte c, room)⟩

def cut (room : Nat) (s : String) : Cut :=
  cutFrom room 0 s.toList

def Cut.shown (c : Cut) : String :=
  match c.broken with
  | none => String.ofList c.whole
  | some (lead, left) =>
      let bytes :=
        if left = 1 then
          "byte 0x" ++ String.ofList (Nat.toDigits 16 lead) ++ " in position " ++ toString c.size
        else
          "bytes in position " ++ toString c.size ++ "-" ++ toString (c.size + left - 1)
      "'utf-8' codec can't decode " ++ bytes ++ ": unexpected end of data"

theorem cutFrom_of_size_le {room done : Nat} {cs : List Char} (h : size cs ≤ room) :
    cutFrom room done cs = ⟨cs, done + size cs, none⟩ := by
  induction cs generalizing room done with
  | nil =>
      simp [cutFrom, size]
  | cons c rest ih =>
      have hc : size (c :: rest) = c.utf8Size + size rest := rfl
      have hrest : size rest ≤ room - c.utf8Size := by
        omega
      rw [cutFrom, if_pos (by omega), ih hrest, hc]
      simp [Nat.add_assoc]

theorem cut_of_size_le {room : Nat} {s : String} (h : size s.toList ≤ room) :
    cut room s = ⟨s.toList, size s.toList, none⟩ := by
  simp [cut, cutFrom_of_size_le h]

end Utf8
end PartitionKeys
