import PartitionKeys.Text.Blank
import PartitionKeys.Text.EmojiTable
import PartitionKeys.Text.LetterCase

/-!
# Emoji — short names between colons

A name between two colons, without blanks, stands for its emoji.  The name may end in `-emoji` or
`-text`, which asks for that look of the emoji; capitals count as small letters, and a name that is
not known stays as it is.

* `Emoji.expand`: a text with its short names replaced.
-/

namespace PartitionKeys
namespace Emoji

/-! ## Names -/

/-- The name that ends at the next colon, and what follows the colon. -/
def named? (cs : List Char) : Option (List Char × List Char) :=
  let name := cs.takeWhile fun c => c != ':' && !Blank.holds c
  match cs.drop name.length with
  | ':' :: rest => some (name, rest)
  | _ => none

theorem named?_length {cs name rest : List Char} (h : named? cs = some (name, rest)) :
    rest.length < cs.length := by
  simp only [named?] at h
  split at h
  · rename_i after hdrop
    rw [Option.some.injEq, Prod.mk.injEq] at h
    have hlen := congrArg List.length hdrop
    rw [List.length_drop, List.length_cons, h.2] at hlen
    omega
  · exact absurd h (by simp)

/-- The endings that ask for a look, with the character that selects it. -/
def looks : List (List Char × Char) :=
  [("-emoji".toList, Char.ofNat 0xfe0f), ("-text".toList, Char.ofNat 0xfe0e)]

def find? (name : List Char) : Option (List Char) :=
  EmojiTable.find? (LetterCase.lower (String.ofList name)).toList

def replacement? (name : List Char) : Option (List Char) :=
  match looks.find? fun look => look.1.isSuffixOf name with
  | some (ending, selector) =>
      (find? (name.take (name.length - ending.length))).map (· ++ [selector])
  | none => find? name

/-! ## Texts -/

def expand : List Char → List Char
  | [] => []
  | c :: cs =>
      if c = ':' then
        match h : named? cs with
        | some (name, rest) =>
            have := named?_length h
            (replacement? name).getD (':' :: name ++ [':']) ++ expand rest
        | none => c :: expand cs
      else c :: expand cs
termination_by cs => cs.length

end Emoji
end PartitionKeys
