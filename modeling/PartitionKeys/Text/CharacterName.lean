import PartitionKeys.Text.Blank
import PartitionKeys.Text.CharacterNameTable
import PartitionKeys.Text.CharSet
import PartitionKeys.Text.Digit

/-!
# CharacterName — what characters are called

An ideograph is called by its code, and a syllable of three sounds by the letters for them; these
names are written in capitals.  Every other character has a name of its own, in which small letters
may stand for capitals.

* `CharacterName.holds name`: a character is called so.
-/

namespace PartitionKeys

namespace CharSet

/-- The ideographs that are called by their codes. -/
def ideographs : CharSet :=
  ⟨#[
    0x3400, 0x4dc0, 0x4e00, 0xa000, 0x20000, 0x2a6e0, 0x2a700, 0x2b739, 0x2b740, 0x2b81e, 0x2b820,
    0x2cea2, 0x2ceb0, 0x2ebe1, 0x30000, 0x3134b]⟩

end CharSet

namespace CharacterName

/-! ## Names made by rule -/

def after? (start name : List Char) : Option (List Char) :=
  if start.isPrefixOf name then some (name.drop start.length) else none

/-- A code in four or five hexadecimal digits. -/
def isIdeograph (name : List Char) : Bool :=
  match after? "CJK UNIFIED IDEOGRAPH-".toList name with
  | some code =>
      (code.length == 4 || code.length == 5) &&
        code.all (fun c => (Digit.hex? c).isSome && !c.isLower) &&
        CharSet.ideographs.contains (Char.ofNat (Digit.number 16 code))
  | none => false

def sounds (s : String) : List (List Char) :=
  [] :: (Blank.words s.toList)

def initials : List (List Char) :=
  sounds "G GG N D DD R M B BB S SS J JJ C K T P H"

def vowels : List (List Char) :=
  sounds "A AE YA YAE EO E YEO YE O WA WAE OE YO U WEO WE WI YU EU YI I"

def finals : List (List Char) :=
  sounds "G GG GS N NJ NH D L LG LM LB LS LT LP LH M B BS S SS NG J C K T P H"

/-- A vowel between an initial and a final sound, each of which may be silent. -/
def isSyllable (name : List Char) : Bool :=
  match after? "HANGUL SYLLABLE ".toList name with
  | some letters =>
      (initials.filterMap (after? · letters)).any fun rest =>
        (vowels.tail.filterMap (after? · rest)).any finals.contains
  | none => false

/-! ## All names -/

def holds (name : List Char) : Bool :=
  isIdeograph name || isSyllable name || CharacterNameTable.holds (name.map Char.toUpper)

end CharacterName
end PartitionKeys
