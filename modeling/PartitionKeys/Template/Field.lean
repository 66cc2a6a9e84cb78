import PartitionKeys.Template.Fault

/-!
# Field — the literals and placeholder fields of a template

A template is text in which a field stands between braces and a doubled brace is a brace.  A field
has a path (a name with steps into its value), perhaps a conversion mark after `!`, and perhaps a
format after `:`, in which fields may be nested.

* `Piece`: a literal character or a field;
* `Field.scan?`: reads one field, just after its opening brace;
* `Scan.ofChars`: all pieces of a template, up to the first fault.
-/

namespace PartitionKeys
namespace Template

structure Field where
  path : List Char
  conversion : Option Char := none
  format : List Char := []
  deriving DecidableEq, Repr

namespace Field

/-- The format has braces, so that it is a template itself. -/
def nests (f : Field) : Bool :=
  f.format.contains '{'

/-! ## Reading one field -/

/-- The path of a field: the text up to a closing brace, a colon or an exclamation mark outside
square brackets, that mark, and what follows. -/
def scanPath (inIndex : Bool) (taken : List Char) :
    List Char → Except Fault (List Char × Char × List Char)
  | [] => .error .unclosedField
  | c :: rest =>
      if inIndex then scanPath (c != ']') (c :: taken) rest
      else if c = '{' then .error .braceInName
      else if c = '}' ∨ c = ':' ∨ c = '!' then .ok (taken.reverse, c, rest)
      else scanPath (c == '[') (c :: taken) rest

/-- The format of a field: the text up to the closing brace of as many as are open. -/
def scanFormat (opened : Nat) (taken : List Char) : List Char → Except Fault (List Char × List Char)
  | [] => .error .unclosedSpec
  | c :: rest =>
      if c = '}' then
        if opened = 0 then .ok (taken.reverse, rest)
        else scanFormat (opened - 1) (c :: taken) rest
      else scanFormat (if c = '{' then opened + 1 else opened) (c :: taken) rest

def scan? (cs : List Char) : Except Fault (Field × List Char) :=
  match scanPath false [] cs with
  | .error e => .error e
  | .ok (path, mark, rest) =>
      if mark = '}' then .ok ({ path }, rest)
      else if mark = ':' then
        match scanFormat 0 [] rest with
        | .error e => .error e
        | .ok (format, rest) => .ok ({ path, format }, rest)
      else
        match rest with
        | [] => .error .endAtConversion
        | [_] => .error .unclosedSpec
        | c :: next :: rest =>
            if next = '}' then .ok ({ path, conversion := some c }, rest)
            else if next = ':' then
              match scanFormat 0 [] rest with
              | .error e => .error e
              | .ok (format, rest) => .ok ({ path, conversion := some c, format }, rest)
            else .error .junkAfterConversion

/-! ## A field takes at least its closing brace -/

theorem scanPath_length {inIndex : Bool} {taken cs path rest : List Char} {mark : Char}
    (h : scanPath inIndex taken cs = .ok (path, mark, rest)) : rest.length < cs.length := by
  induction cs generalizing inIndex taken with
  | nil =>
      simp [scanPath] at h
  | cons c tail ih =>
      rw [scanPath] at h
      split at h
      · have := ih h
        simp only [List.length_cons]
        omega
      · split at h
        · cases h
        · split at h
          · cases h
            simp
          · have := ih h
            simp only [List.length_cons]
            omega

theorem scanFormat_length {opened : Nat} {taken cs format rest : List Char}
    (h : scanFormat opened taken cs = .ok (format, rest)) : rest.length < cs.length := by
  induction cs generalizing opened taken with
  | nil =>
      simp [scanFormat] at h
  | cons c tail ih =>
      rw [scanFormat] at h
      split at h
      · split at h
        · cases h
          simp
        · have := ih h
          simp only [List.length_cons]
          omega
      · have := ih h
        simp only [List.length_cons]
        omega

theorem scan?_length {cs rest : List Char} {f : Field} (h : scan? cs = .ok (f, rest)) :
    rest.length < cs.length := by
  unfold scan? at h
  split at h
  · cases h
  · rename_i path mark tail hpath
    have hp := scanPath_length hpath
    split at h
    · cases h
      exact hp
    · split at h
      · split at h
        · cases h
        · rename_i hf
          cases h
          have := scanFormat_length hf
          omega
      · split at h
        · cases h
        · cases h
        · split at h
          · cases h
            simp only [List.length_cons] at hp
            omega
          · split at h
            · split at h
              · cases h
              · rename_i hf
                cases h
                have := scanFormat_length hf
                simp only [List.length_cons] at hp
                omega
            · cases h

end Field

/-! ## Whole templates -/

inductive Piece where
  | literal (c : Char)
  | field (f : Field)
  deriving DecidableEq, Repr

structure Scan where
  pieces : List Piece
  fault : Option Fault
  deriving DecidableEq, Repr

namespace Scan

def empty : Scan :=
  ⟨[], none⟩

def stop (e : Fault) : Scan :=
  ⟨[], some e⟩

def cons (p : Piece) (s : Scan) : Scan :=
  ⟨p :: s.pieces, s.fault⟩

def ofChars : List Char → Scan
  | [] => empty
  | '{' :: '{' :: rest => cons (.literal '{') (ofChars rest)
  | '}' :: '}' :: rest => cons (.literal '}') (ofChars rest)
  | ['{'] => stop .strayOpen
  | '{' :: rest =>
      match _h : Field.scan? rest with
      | .error e => stop e
      | .ok (f, rest) => cons (.field f) (ofChars rest)
  | '}' :: _ => stop .strayClose
  | c :: rest => cons (.literal c) (ofChars rest)
termination_by cs => cs.length
decreasing_by
  · simp only [List.length_cons]
    omega
  · simp only [List.length_cons]
    omega
  · have := Field.scan?_length _h
    simp only [List.length_cons]
    omega
  · simp only [List.length_cons]
    omega

end Scan
end Template
end PartitionKeys
