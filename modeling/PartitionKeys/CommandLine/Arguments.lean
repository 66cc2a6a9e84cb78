/-!
# Arguments — what a command line asks for

The program shows its version, or the keys of a target as a table or as JSON.  Options may stand
before and after the target; two hyphens end the options; the last of repeated options wins.

* `Request`: what is asked for;
* `Request.ofArgs`: reads a command line.
-/

namespace PartitionKeys

structure KeysRequest where
  target : String
  asJson : Bool := false
  queryAlias : String := "e"
  deriving DecidableEq, Repr

inductive Request where
  | version
  | help
  | keys (r : KeysRequest)
  | misuse
  deriving DecidableEq, Repr

namespace Request

def isOption (arg : String) : Bool :=
  arg.toList.head? == some '-' && 1 < arg.length

/-! ## The arguments of the keys command -/

structure Scan where
  targets : List String := []
  asJson : Bool := false
  queryAlias : String := "e"
  help : Bool := false

def aliasMark : List Char :=
  "--alias=".toList

def scanKeys (s : Scan) : List String → Option Scan
  | [] => some s
  | "--" :: rest => some { s with targets := s.targets ++ rest }
  | "--json" :: rest => scanKeys { s with asJson := true } rest
  | "--help" :: rest => scanKeys { s with help := true } rest
  | ["--alias"] => none
  | "--alias" :: queryAlias :: rest => scanKeys { s with queryAlias } rest
  | arg :: rest =>
      if aliasMark.isPrefixOf arg.toList then
        scanKeys { s with queryAlias := String.ofList (arg.toList.drop aliasMark.length) } rest
      else if isOption arg then none
      else scanKeys { s with targets := s.targets ++ [arg] } rest

def ofKeysArgs (args : List String) : Request :=
  match scanKeys {} args with
  | none => .misuse
  | some s =>
      if s.help then .help
      else
        match s.targets with
        | [target] => .keys { target, asJson := s.asJson, queryAlias := s.queryAlias }
        | _ => .misuse

/-! ## The whole command line -/

def ofCommand (asked : Option Request) : List String → Request
  | [] => asked.getD .misuse
  | command :: args =>
      match asked with
      | some r => r
      | none => if command == "keys" then ofKeysArgs args else .misuse

/-- The first of the options is what is asked for, if all are known; completion of command lines is
not offered. -/
def ofOptions (asked : Option Request) : List String → Request
  | [] => ofCommand asked []
  | "--" :: rest => ofCommand asked rest
  | "--version" :: rest => ofOptions (asked.or (some .version)) rest
  | "--help" :: rest => ofOptions (asked.or (some .help)) rest
  | "--install-completion" :: rest | "--show-completion" :: rest =>
      ofOptions (asked.or (some .misuse)) rest
  | arg :: rest =>
      if isOption arg then
        if arg.toList.tail.all (· == 'V') then ofOptions (asked.or (some .version)) rest
        else .misuse
      else ofCommand asked (arg :: rest)

def ofArgs (args : List String) : Request :=
  ofOptions none args

end Request
end PartitionKeys
