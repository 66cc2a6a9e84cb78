import PartitionKeys.Value.Basic

/-!
# Fault — how a template fails to render

Most faults are reported as an unusable template.  A text used as an index, an index or a format on
what takes none, a text too long to be held and a number that is no character are not.

* `Fault.family`: the family a fault belongs to;
* `Fault.message`: its wording;
* `Fault.written`: family and message, as a report quotes them.
-/

namespace PartitionKeys
namespace Template

inductive Fault.Family where
  | value
  | key
  | index
  | member
  | shape
  | memory
  | range
  deriving DecidableEq, Repr

/-- What a step of a path starts from. -/
inductive Owner where
  /-- A value, by its kind. -/
  | value (kind : String)
  | kind (name : String)
  deriving DecidableEq, Repr

/-- What stands between square brackets. -/
inductive Key where
  | position (n : Nat)
  | name (s : String)
  deriving DecidableEq, Repr

def Key.written : Key → String
  | .position n => toString n
  | .name s => Quoted.text s

inductive Fault where
  -- scanning
  | strayClose
  | strayOpen
  | braceInName
  | unclosedField
  | endAtConversion
  | junkAfterConversion
  | unclosedSpec
  -- looking a field up
  | tooManyDigits
  | unknownName (name : String)
  | noPosition (position : Nat)
  | unclosedIndex
  | emptyStep
  | junkAfterIndex
  | noMember (owner : Owner) (name : String)
  | unset (name : String)
  | notIndexed (owner : Owner)
  | notGeneric (kind : String)
  | indexOutOfRange (kind : String)
  | textAsIndex (kind : String)
  | noEntry (key : Key)
  -- what comes after the look-up
  | unknownConversion (c : Char)
  | tooDeep
  -- formatting
  | separatorsTwice
  | noPrecision
  | invalidSpec (spec kind : String)
  | separatorBefore (separator type : Char)
  | unknownType (type : Char) (kind : String)
  | signOnText
  | spaceOnText
  | zeroCoercionOnText
  | alternateOnText
  | equalsOnText
  | precisionOnWhole
  | zeroCoercionOnWhole
  | signOnCharacter
  | alternateOnCharacter
  | noCharacter
  | precisionTooBig
  | notFormatted (kind : String)
  | tooLong
  deriving DecidableEq, Repr

namespace Fault

def family : Fault → Fault.Family
  | .unknownName _ | .noEntry _ => .key
  | .noPosition _ | .indexOutOfRange _ => .index
  | .noMember _ _ | .unset _ => .member
  | .textAsIndex _ | .notIndexed _ | .notGeneric _ | .notFormatted _ => .shape
  | .tooLong => .memory
  | .noCharacter => .range
  | _ => .value

/-- A character stands for itself in messages, or by its code. -/
def charText (limit : Nat) (c : Char) : String :=
  if 32 < c.toNat ∧ c.toNat < limit then String.singleton c
  else "\\x" ++ String.ofList (Nat.toDigits 16 c.toNat)

def message : Fault → String
  | .strayClose => "Single '\x7d' encountered in format string"
  | .strayOpen => "Single '\x7b' encountered in format string"
  | .braceInName => "unexpected '\x7b' in field name"
  | .unclosedField => "expected '\x7d' before end of string"
  | .endAtConversion => "end of string while looking for conversion specifier"
  | .junkAfterConversion => "expected ':' after conversion specifier"
  | .unclosedSpec => "unmatched '\x7b' in format spec"
  | .tooManyDigits => "Too many decimal digits in format string"
  | .unknownName name => name
  | .noPosition n =>
      "Replacement index " ++ toString n ++ " out of range for positional args tuple"
  | .unclosedIndex => "Missing ']' in format string"
  | .emptyStep => "Empty attribute in format string"
  | .junkAfterIndex => "Only '.' or '[' may follow ']' in format field specifier"
  | .noMember (.kind kind) name => "type object '" ++ kind ++ "' has no attribute '" ++ name ++ "'"
  | .noMember (.value kind) name => "'" ++ kind ++ "' object has no attribute '" ++ name ++ "'"
  | .unset name => name
  | .notIndexed (.kind kind) => "type '" ++ kind ++ "' is not subscriptable"
  | .notIndexed (.value kind) => "'" ++ kind ++ "' object is not subscriptable"
  | .notGeneric kind => kind ++ " is not a generic class"
  | .indexOutOfRange kind => kind ++ " index out of range"
  | .textAsIndex "tuple" => "tuple indices must be integers or slices, not str"
  | .textAsIndex kind => kind ++ " indices must be integers, not 'str'"
  | .noEntry key => key.written
  | .unknownConversion c => "Unknown conversion specifier " ++ charText 127 c
  | .tooDeep => "Max string recursion exceeded"
  | .separatorsTwice => "Cannot specify both ',' and '_'."
  | .noPrecision => "Format specifier missing precision"
  | .invalidSpec spec kind =>
      "Invalid format specifier '" ++ spec ++ "' for object of type '" ++ kind ++ "'"
  | .separatorBefore separator type =>
      "Cannot specify '" ++ String.singleton separator ++ "' with '" ++ charText 128 type ++ "'."
  | .unknownType type kind =>
      "Unknown format code '" ++ charText 128 type ++ "' for object of type '" ++ kind ++ "'"
  | .signOnText => "Sign not allowed in string format specifier"
  | .spaceOnText => "Space not allowed in string format specifier"
  | .zeroCoercionOnText => "Negative zero coercion (z) not allowed in string format specifier"
  | .alternateOnText => "Alternate form (#) not allowed in string format specifier"
  | .equalsOnText => "'=' alignment not allowed in string format specifier"
  | .precisionOnWhole => "Precision not allowed in integer format specifier"
  | .zeroCoercionOnWhole => "Negative zero coercion (z) not allowed in integer format specifier"
  | .signOnCharacter => "Sign not allowed with integer format specifier 'c'"
  | .alternateOnCharacter => "Alternate form (#) not allowed with integer format specifier 'c'"
  | .noCharacter => "%c arg not in range(0x110000)"
  | .precisionTooBig => "precision too big"
  | .notFormatted kind => "unsupported format string passed to " ++ kind ++ ".__format__"
  | .tooLong => ""

namespace Family

def label : Fault.Family → String
  | .value => "ValueError"
  | .key => "KeyError"
  | .index => "IndexError"
  | .member => "AttributeError"
  | .shape => "TypeError"
  | .memory => "MemoryError"
  | .range => "OverflowError"

end Family

/-- What a fault carries, as it is written. -/
def argument (f : Fault) : String :=
  match f with
  | .noEntry key => key.written
  | f => Quoted.text f.message

/-- The message on its own; a name or entry that is missing is shown as it is written. -/
def shown (f : Fault) : String :=
  match f.family with
  | .key => f.argument
  | _ => f.message

def written (f : Fault) : String :=
  f.family.label ++ "(" ++ f.argument ++ ")"

/-- Whether a check turns the fault into a report. -/
def isReported (f : Fault) : Bool :=
  match f.family with
  | .shape | .memory | .range => false
  | _ => true

end Fault
end Template
end PartitionKeys
