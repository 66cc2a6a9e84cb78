import PartitionKeys.CommandLine.Literal.Basic
import PartitionKeys.CommandLine.Styled
import PartitionKeys.CommandLine.TagStyle
import PartitionKeys.Text.Emoji
import PartitionKeys.Text.Quoted
import PartitionKeys.Text.Word

/-!
# Markup — text for the terminal with tags in square brackets

A tag starts with a small letter, a number sign, a slash or an at sign after its bracket, and has a
name and perhaps parameters after an equals sign.  Tags do not show but style the text up to their
closing tag; a closing tag closes the latest open tag of its name, or the latest of all when it has
no name.  Backslashes before a tag are halved, and an odd one makes the tag plain text.  The
parameters of a tag with an at sign are read when it is closed: a handler's name and a literal.
The rules of this and of the layout are a library's; what the program relies on is stated for any
library with `Terminal.Documented`.

* `Markup.pieces`: plain text and tags in their order;
* `Markup.read`: the text that shows with its styles, or what is wrong with the tags.
-/

namespace PartitionKeys
namespace Markup

/-! ## Faults -/

inductive Fault where
  | unmatched (tag : String) (position : Nat)
  | nothingOpen (position : Nat)
  | handler (literal parameters : String) (message : String)
  | argument (parameters : String) (message : String)
  | colour (f : ColourFault)
  deriving DecidableEq, Repr

def Fault.message : Fault → String
  | .unmatched tag position =>
      "closing tag '[" ++ tag ++ "]' at position " ++ toString position ++
        " doesn't match any open tag"
  | .nothingOpen position =>
      "closing tag '[/]' at position " ++ toString position ++ " has nothing to close"
  | .handler literal parameters message =>
      "error parsing " ++ Quoted.text literal ++ " in " ++ Quoted.text parameters ++ "; " ++ message
  | .argument parameters message =>
      "error parsing " ++ Quoted.text parameters ++ "; " ++ message
  | .colour f => f.message

/-! ## Pieces -/

inductive Piece where
  | plain (cs : List Char)
  | tag (text : List Char) (position : Nat)

def opensTag (c : Char) : Bool :=
  ('a' ≤ c && c ≤ 'z') || c == '#' || c == '/' || c == '@'

/-- The text of a tag, just after its opening bracket, and what follows the closing one. -/
def tag? (cs : List Char) : Option (List Char × List Char) :=
  let text := cs.takeWhile fun c => c != ']' && c != '['
  match text, cs.drop text.length with
  | c :: _, ']' :: rest => if opensTag c then some (text, rest) else none
  | _, _ => none

/-- A tag with the backslashes before it. -/
def escaped? (cs : List Char) : Option (Nat × List Char × List Char) :=
  let slashes := (cs.takeWhile (· == '\\')).length
  match cs.drop slashes with
  | '[' :: rest => (tag? rest).map fun (text, rest) => (slashes, text, rest)
  | _ => none

theorem tag?_length {cs text rest : List Char} (h : tag? cs = some (text, rest)) :
    rest.length < cs.length := by
  simp only [tag?] at h
  split at h
  · rename_i hdrop
    split at h
    · rw [Option.some.injEq, Prod.mk.injEq] at h
      have hlen := congrArg List.length hdrop
      rw [List.length_drop, List.length_cons, h.2] at hlen
      omega
    · exact absurd h (by simp)
  · exact absurd h (by simp)

theorem escaped?_length {cs text rest : List Char} {n : Nat}
    (h : escaped? cs = some (n, text, rest)) : rest.length < cs.length := by
  simp only [escaped?] at h
  split at h
  · rename_i after hdrop
    rw [Option.map_eq_some_iff] at h
    obtain ⟨⟨_, _⟩, htag, heq⟩ := h
    simp only [Prod.mk.injEq] at heq
    have hlt := tag?_length htag
    have hlen := congrArg List.length hdrop
    rw [List.length_drop, List.length_cons] at hlen
    rw [← heq.2.2]
    omega
  · exact absurd h (by simp)

def plainPiece (cs : List Char) : List Piece :=
  if cs.isEmpty then [] else [.plain cs]

/-- `before` is the plain text read so far, reversed; reading goes on at `position`. -/
def piecesFrom (before : List Char) (position : Nat) (cs : List Char) : List Piece :=
  match cs with
  | [] => plainPiece before.reverse
  | c :: tail =>
      match h : escaped? (c :: tail) with
      | none => piecesFrom (c :: before) (position + 1) tail
      | some (slashes, text, rest) =>
          have := escaped?_length h
          let kept := slashes / 2
          let shown :=
            if slashes % 2 = 1 then Piece.plain ('[' :: text ++ [']'])
            else .tag text (position + 2 * kept)
          plainPiece before.reverse ++ plainPiece (List.replicate kept '\\') ++
            shown :: piecesFrom [] (position + slashes + text.length + 2) rest
termination_by cs.length
decreasing_by
  · exact Nat.lt_succ_self _
  · exact this

def pieces (cs : List Char) : List Piece :=
  piecesFrom [] 0 cs

/-! ## Tags -/

structure Tag where
  /-- In normal form. -/
  name : String
  parameters : Option (List Char)
  /-- Where the text of the tag begins. -/
  start : Nat

/-- The words that a tag's style is read from. -/
def Tag.style (t : Tag) : String :=
  match t.parameters with
  | none => t.name
  | some ps => t.name ++ " " ++ String.ofList ps

def normalize (name : List Char) : Except Fault String :=
  (TagStyle.normalize (String.ofList name)).mapError .colour

/-- What reading a style finds wrong with it; a text that is no style has no effect. -/
def checkStyle (style : String) : Except Fault Unit :=
  ((TagStyle.read? style).map fun _ => ()).mapError .colour

/-- A handler's name and what stands in its brackets, or the whole text when it has no such form. -/
def handler (text : List Char) : List Char :=
  let rest := text.dropWhile fun c => Word.holds c || c == '.'
  if rest.isEmpty then ['(', ')']
  else if rest.head? = some '(' && 2 ≤ rest.length && rest.getLast? = some ')' &&
      !rest.contains '\n' then rest
  else text

/-- The parameters of a tag with an at sign have to hold a literal. -/
def checkParameters (t : Tag) : Except Fault Unit :=
  match t.parameters with
  | none => .ok ()
  | some ps =>
      if ps.isEmpty || t.name.toList.head? != some '@' then .ok ()
      else
        let literal := handler (Blank.strip ps)
        match Literal.check literal with
        | .ok () => .ok ()
        | .error (.grammar m) => .error (.handler (String.ofList literal) (String.ofList ps) m)
        | .error (.value m) => .error (.argument (String.ofList ps) m)

/-! ## Reading -/

/-- What has been read: the text, the open tags and the closed spans, each with the latest first. -/
structure Progress where
  text : List Char := []
  opened : List Tag := []
  spans : List Span := []

namespace Progress

def write (p : Progress) (cs : List Char) : Progress :=
  { p with text := p.text ++ cs.filter Styled.shows }

/-- Closes a tag that is open, with the tags that stay open. -/
def close (p : Progress) (t : Tag) (opened : List Tag) : Progress :=
  { p with opened, spans := ⟨t.start, p.text.length, t.style⟩ :: p.spans }

def closeAll (p : Progress) : Progress :=
  p.opened.foldl (fun p t => p.close t p.opened.tail) p

end Progress

/-- A backslash before a bracket that opens no tag is dropped. -/
def unescape : List Char → List Char
  | '\\' :: '[' :: rest => '[' :: unescape rest
  | c :: rest => c :: unescape rest
  | [] => []

/-- The latest open tag of a name, and the other open tags. -/
def take? (name : String) : List Tag → Option (Tag × List Tag)
  | [] => none
  | t :: rest =>
      if t.name = name then some (t, rest)
      else (take? name rest).map fun (found, rest) => (found, t :: rest)

def closing (p : Progress) (text name : List Char) (position : Nat) : Except Fault Progress := do
  let name := Blank.strip name
  let (t, opened) ←
    if name.isEmpty then
      match p.opened with
      | [] => .error (.nothingOpen position)
      | t :: rest => .ok (t, rest)
    else
      match take? (← normalize name) p.opened with
      | none => .error (.unmatched (String.ofList text) position)
      | some found => .ok found
  checkParameters t
  return p.close t opened

def step (p : Progress) : Piece → Except Fault Progress
  | .plain cs => .ok (p.write (Emoji.expand (unescape cs)))
  | .tag text position =>
      let name := text.takeWhile (· != '=')
      match name with
      | '/' :: name => closing p text name position
      | _ => do
          let parameters := (text.drop name.length).tail?
          return { p with opened := ⟨← normalize name, parameters, p.text.length⟩ :: p.opened }

def read (s : String) : Except Fault Styled :=
  let cs := s.toList
  if cs.contains '[' then do
    let p := ((← (pieces cs).foldlM step {}) : Progress).closeAll
    return { text := p.text, spans := p.spans.mergeSort fun a b => a.start ≤ b.start }
  else .ok { text := (Emoji.expand cs).filter Styled.shows }

end Markup
end PartitionKeys
