/-!
# Signature — what an operation accepts

An operation takes values by position and by name.  Its first parameters are filled in order; the
last of them may be left out.  Further parameters are given by name only, and some operations take
values under any name.

* `Signature.check`: the first thing wrong with the values given, if any;
* `Signature.Fault.message`: its wording.
-/

namespace PartitionKeys

structure Signature where
  operation : String
  positional : List String
  /-- How many of the last positional parameters may be left out. -/
  optional : Nat := 0
  named : List String := []
  /-- Values under other names are taken too. -/
  takesOthers : Bool := false
  deriving DecidableEq, Repr

namespace Signature

inductive Fault where
  | unknownName (operation name : String)
  | severalValues (operation name : String)
  | tooMany (s : Signature) (given named : Nat)
  | missing (operation : String) (names : List String)
  deriving DecidableEq, Repr

/-! ## Checking -/

/-- What is wrong with a value given by name, beside `given` values by position. -/
def nameFault? (s : Signature) (given : Nat) (name : String) : Option Fault :=
  if (s.positional.take given).contains name then some (.severalValues s.operation name)
  else if s.positional.contains name || s.named.contains name || s.takesOthers then none
  else some (.unknownName s.operation name)

def required (s : Signature) : List String :=
  s.positional.take (s.positional.length - s.optional)

/-- Names are looked at first, in order; then the number of values. -/
def check (s : Signature) (given : Nat) (names : List String) : Option Fault :=
  match names.findSome? (s.nameFault? given) with
  | some f => some f
  | none =>
      if s.positional.length < given then
        some (.tooMany s given (names.filter s.named.contains).length)
      else
        match (s.required.drop given).filter (!names.contains ·) with
        | [] => none
        | missing => some (.missing s.operation missing)

/-! ## Wording -/

def plural (n : Nat) : String :=
  if n = 1 then "" else "s"

def range (s : Signature) : String :=
  let most := s.positional.length
  if s.optional = 0 then toString most ++ " positional argument" ++ plural most
  else
    "from " ++ toString (most - s.optional) ++ " to " ++ toString most ++ " positional arguments"

def listed : List String → String
  | [] => ""
  | [a] => "'" ++ a ++ "'"
  | [a, b] => "'" ++ a ++ "' and '" ++ b ++ "'"
  | names =>
      ", ".intercalate (names.dropLast.map fun n => "'" ++ n ++ "'") ++
        ", and '" ++ names.getLast?.getD "" ++ "'"

def Fault.message : Fault → String
  | .unknownName operation name =>
      operation ++ "() got an unexpected keyword argument '" ++ name ++ "'"
  | .severalValues operation name =>
      operation ++ "() got multiple values for argument '" ++ name ++ "'"
  | .tooMany s given named =>
      let byName :=
        if named = 0 then ""
        else
          " positional argument" ++ plural given ++ " (and " ++ toString named ++
            " keyword-only argument" ++ plural named ++ ")"
      s.operation ++ "() takes " ++ s.range ++ " but " ++ toString given ++ byName ++
        (if given = 1 && named = 0 then " was" else " were") ++ " given"
  | .missing operation names =>
      operation ++ "() missing " ++ toString names.length ++ " required positional argument" ++
        plural names.length ++ ": " ++ listed names

/-- An operation that takes any name refuses only the names its values by position have taken. -/
theorem nameFault?_eq_none_iff {s : Signature} (h : s.takesOthers = true) (given : Nat)
    (name : String) : s.nameFault? given name = none ↔ name ∉ s.positional.take given := by
  simp only [nameFault?, h, Bool.or_true, if_true, List.contains_eq_mem]
  split <;> simp_all

/-- With a value for each of its positions it accepts all other names. -/
theorem check_eq_none_iff {s : Signature} (h : s.takesOthers = true) (names : List String) :
    s.check s.positional.length names = none ↔ ∀ n ∈ names, n ∉ s.positional := by
  have hname (n : String) : s.nameFault? s.positional.length n = none ↔ n ∉ s.positional := by
    have htaken := nameFault?_eq_none_iff h s.positional.length n
    rwa [List.take_length] at htaken
  have hnames : names.findSome? (s.nameFault? s.positional.length) = none ↔
      ∀ n ∈ names, n ∉ s.positional := by
    rw [List.findSome?_eq_none_iff]
    exact forall₂_congr fun n _ => hname n
  have hrequired : s.required.drop s.positional.length = [] := by
    apply List.drop_eq_nil_of_le
    rw [required, List.length_take]
    exact Nat.le_trans (Nat.min_le_left _ _) (Nat.sub_le _ _)
  unfold check
  cases hfound : names.findSome? (s.nameFault? s.positional.length) with
  | some f =>
      rw [hfound] at hnames
      simpa using hnames
  | none =>
      rw [hfound] at hnames
      simpa [hrequired] using hnames

end Signature
end PartitionKeys
