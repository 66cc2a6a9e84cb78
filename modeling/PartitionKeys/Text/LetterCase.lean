import PartitionKeys.Text.CaseTable

/-!
# LetterCase — capital and small forms of a text

Both directions map character by character, except that a capital sigma becomes a final sigma at
the end of a word.

* `LetterCase.upper`: the text in capitals;
* `LetterCase.lower`: the text in small letters;
* `LetterCase.endsWord`: a sigma between these neighbours ends a word.
-/

namespace PartitionKeys

/-! ## Single characters -/

namespace CaseRun

def covers (r : CaseRun) (n : Nat) : Bool :=
  r.first ≤ n && n ≤ r.last && (n - r.first) % r.stride == 0

def move (runs : Array CaseRun) (c : Char) : Char :=
  match runs.find? (fun r => r.covers c.toNat) with
  | some r => Char.ofNat (Int.toNat (c.toNat + r.distance))
  | none => c

end CaseRun

namespace LetterCase

def upperChar (c : Char) : List Char :=
  match CaseRun.expansions.lookup c.toNat with
  | some codes => codes.map Char.ofNat
  | none => [CaseRun.move CaseRun.raising c]

def lowerChar (c : Char) : List Char :=
  if c.toNat == 0x130 then [Char.ofNat 0x69, Char.ofNat 0x307]
  else [CaseRun.move CaseRun.lowering c]

/-! ## Texts -/

def upper (s : String) : String :=
  String.ofList (s.toList.flatMap upperChar)

/-- Past case-ignorable characters there is a cased one before, and none after. -/
def endsWord (before after : List Char) : Bool :=
  let facesCased (cs : List Char) : Bool :=
    ((cs.dropWhile CharSet.caseIgnorable.contains).head?.map CharSet.cased.contains).getD false
  facesCased before && !facesCased after

def lowerFrom (before : List Char) : List Char → List Char
  | [] => []
  | c :: rest =>
      (if c.toNat == 0x3a3 then [Char.ofNat (if endsWord before rest then 0x3c2 else 0x3c3)]
        else lowerChar c) ++ lowerFrom (c :: before) rest

def lower (s : String) : String :=
  String.ofList (lowerFrom [] s.toList)

end LetterCase
end PartitionKeys
