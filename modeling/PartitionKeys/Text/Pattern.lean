import PartitionKeys.Text.Word

/-!
# Pattern — forms that stretches of a text have

A pattern describes characters that stand one after another.  Where it can be met in several ways,
the first one counts: the first of two choices, and as many repetitions as possible, or as few.
Some parts of a pattern are marked, and what they stand for is told.

* `Pattern.run`: the first way to meet a pattern that goes on well;
* `Pattern.findAll`: the marked parts of a pattern wherever a text meets it.
-/

namespace PartitionKeys

inductive Pattern where
  | one (holds : Char → Bool)
  | both (first second : Pattern)
  | either (first second : Pattern)
  /-- Repetitions of a pattern, at least and at most so many; `few` takes no more than it has to. -/
  | repeated (p : Pattern) (least : Nat) (most : Option Nat) (few : Bool)
  | marked (p : Pattern)
  /-- Between a character of words and anything else; or anywhere but there. -/
  | wordEdge (holds : Bool)
  | notAfter (holds : Char → Bool)

namespace Pattern

/-! ## Building patterns -/

def all (p : Pattern) (ps : List Pattern) : Pattern :=
  ps.foldl both p

def any (p : Pattern) (ps : List Pattern) : Pattern :=
  ps.foldl either p

def char (c : Char) : Pattern :=
  one (· == c)

def word (s : String) : Pattern :=
  match s.toList.map char with
  | [] => .repeated (one fun _ => true) 0 (some 0) true
  | p :: ps => all p ps

def maybe (p : Pattern) : Pattern :=
  .repeated p 0 (some 1) false

def many (p : Pattern) : Pattern :=
  .repeated p 0 none false

def some (p : Pattern) : Pattern :=
  .repeated p 1 none false

def times (p : Pattern) (least most : Nat) : Pattern :=
  .repeated p least (Option.some most) false

/-! ## Meeting a pattern -/

/-- A place in a text, with the marked parts that lead up to it. -/
structure Place where
  position : Nat := 0
  before : Option Char := none
  rest : List Char
  parts : List (Nat × Nat) := []

def Place.next? (s : Place) (holds : Char → Bool) : Option Place :=
  match s.rest with
  | c :: rest =>
      if holds c then
        Option.some { s with position := s.position + 1, before := Option.some c, rest }
      else none
  | [] => none

def Place.atWordEdge (s : Place) : Bool :=
  s.before.any Word.holds != s.rest.head?.any Word.holds

/-- How a pattern is met from a place on, if what follows can be met as well. -/
abbrev Way := Place → (Place → Option Place) → Option Place

/-- A repetition that takes nothing is the last. -/
def repeatedly (step : Way) (few : Bool) : Nat → Nat → Option Nat → Way
  | 0, _, _, s, after => after s
  | fuel + 1, least, most, s, after =>
      let more (_ : Unit) : Option Place :=
        if most = Option.some 0 then none
        else
          step s fun t =>
            if t.position = s.position then none
            else repeatedly step few fuel (least - 1) (most.map (· - 1)) t after
      if 0 < least then more ()
      else if few then
        match after s with
        | Option.some t => Option.some t
        | none => more ()
      else
        match more () with
        | Option.some t => Option.some t
        | none => after s

def run : Pattern → Way
  | .one holds, s, after => (s.next? holds).bind after
  | .both p q, s, after => p.run s fun t => q.run t after
  | .either p q, s, after =>
      match p.run s after with
      | Option.some t => Option.some t
      | none => q.run s after
  | .repeated p least most few, s, after =>
      repeatedly p.run few (s.rest.length + least + 1) least most s after
  | .marked p, s, after =>
      p.run s fun t => after { t with parts := (s.position, t.position) :: t.parts }
  | .wordEdge holds, s, after => if s.atWordEdge = holds then after s else none
  | .notAfter holds, s, after => if s.before.any holds then none else after s

/-- Stretches do not overlap; the leftmost one counts. -/
def findFrom (p : Pattern) : Nat → Place → List (Nat × Nat)
  | 0, _ => []
  | fuel + 1, s =>
      let found := (p.run { s with parts := [] } Option.some).filter (s.position < ·.position)
      match found with
      | Option.some t => t.parts ++ findFrom p fuel t
      | none =>
          match s.next? fun _ => true with
          | Option.some t => findFrom p fuel t
          | none => []

def findAll (p : Pattern) (cs : List Char) : List (Nat × Nat) :=
  findFrom p (cs.length + 1) { rest := cs }

end Pattern
end PartitionKeys
