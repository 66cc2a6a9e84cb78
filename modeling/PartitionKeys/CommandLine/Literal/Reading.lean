import PartitionKeys.CommandLine.Literal.Expr
import PartitionKeys.CommandLine.Literal.Token

/-!
# Reading — tokens read by the rules of a grammar

A grammar gives each of its rules some alternatives, of which the first that is met counts.  Some
alternatives describe faults: they are tried only once reading has failed without them, and tell
what is wrong.  Tokens are looked at one after another, and reading stops at an obstacle as soon as
it is looked at.

* `Phrase`: what an alternative asks of the tokens;
* `Grammar`: the alternatives of each rule;
* `Grammar.rule`: how a rule is met from a place on;
* `Grammar.read?`: what some tokens are read as, or why they cannot be.
-/

namespace PartitionKeys
namespace Literal

/-! ## Grammars -/

/-- What a part of an expression is read as. -/
inductive Tree where
  | token (t : Token)
  | expr (e : Expr)
  | entry (key : Option Expr) (value : Expr)
  /-- A relation between two expressions; `isIn` if it asks for a member. -/
  | relation (isIn : Bool)
  | keyword
  /-- All entries of a record as keywords. -/
  | keywords
  | arguments (trees : List Tree)
  deriving Repr

/-- Why reading stops. -/
structure Stop where
  message : String
  /-- The message tells by itself where it belongs. -/
  own : Bool := false
  /-- The message stands whatever follows. -/
  settled : Bool := false
  deriving DecidableEq, Repr

inductive Phrase (ρ : Type) where
  | nothing
  | token (kind : Token.Kind)
  /-- A name that may turn out to be one of some words: one of them begins with it. -/
  | beginning (words : List String)
  | rule (r : ρ)
  | both (p q : Phrase ρ)
  | either (p q : Phrase ρ)
  | optional (p : Phrase ρ)
  | repeated (p : Phrase ρ)
  /-- Whether a phrase would be met, without reading it. -/
  | ahead (p : Phrase ρ) (met : Bool)

/-- What comes of an alternative that is met: what it is read as, or that its rule fails after all,
or a fault. -/
inductive Made where
  | trees (ts : List Tree)
  | failed
  | stopped (s : Stop)

structure Alternative (ρ : Type) where
  phrase : Phrase ρ
  /-- Where the phrase is met, this has to follow, and no other alternative counts. -/
  following : Phrase ρ := .nothing
  /-- Takes the number of brackets that are open behind the alternative, and what it is read as. -/
  make : Nat → List Tree → Made := fun _ ts => .trees ts
  describesFault : Bool := false

structure Grammar (ρ : Type) where
  alternatives : ρ → List (Alternative ρ)
  /-- Rules that are read once at each place. -/
  remembers : ρ → Bool
  /-- Rules below which no alternative describes a fault. -/
  overlooksFaults : ρ → Bool

namespace Phrase

variable {ρ : Type}

def all (ps : List (Phrase ρ)) : Phrase ρ :=
  ps.foldr both nothing

def any (p : Phrase ρ) (ps : List (Phrase ρ)) : Phrase ρ :=
  ps.foldl either p

def maybe (ps : List (Phrase ρ)) : Phrase ρ :=
  optional (all ps)

def many (ps : List (Phrase ρ)) : Phrase ρ :=
  repeated (all ps)

def several (ps : List (Phrase ρ)) : Phrase ρ :=
  both (all ps) (many ps)

def followedBy (ps : List (Phrase ρ)) : Phrase ρ :=
  ahead (all ps) true

def notFollowedBy (ps : List (Phrase ρ)) : Phrase ρ :=
  ahead (all ps) false

end Phrase

/-! ## Meeting phrases and rules -/

/-- What a phrase or rule is read as, and the place behind it. -/
abbrev Outcome := Option (List Tree × Nat)

structure Progress (ρ : Type) where
  describingFaults : Bool
  /-- How many tokens have been looked at. -/
  seen : Nat
  /-- The outcomes of rules at each place. -/
  outcomes : Array (List (ρ × Outcome))

abbrev Reader (ρ : Type) := EStateM Stop (Progress ρ)

variable {ρ : Type}

/-- Looks at the token at a place. -/
def tokenAt (ts : Array Token) (place : Nat) : Reader ρ Token := do
  let t := ts.getD place { kind := .ending }
  modify fun p => { p with seen := max p.seen (place + 1) }
  match t.kind with
  | .obstacle o => throw { message := o.message, own := o.misspelt, settled := true }
  | _ => return t

/-- Names, numbers and texts are what a phrase is read as; signs and the like leave nothing. -/
def Token.trees (t : Token) : List Tree :=
  match t.kind with
  | .name | .number | .text => [.token t]
  | _ => []

/-- Meets a phrase as often as it goes; `done` is what has been read so far, reversed. -/
def repeatedly (step : Nat → Reader ρ Outcome) : Nat → List Tree → Nat → Reader ρ Outcome
  | 0, done, place => return some (done.reverse, place)
  | fuel + 1, done, place => do
      match ← step place with
      | some (ts, next) => repeatedly step fuel (ts.reverse ++ done) next
      | none => return some (done.reverse, place)

def Phrase.read (ts : Array Token) (rule : ρ → Nat → Reader ρ Outcome) :
    Phrase ρ → Nat → Reader ρ Outcome
  | .nothing, place => return some ([], place)
  | .token kind, place => do
      let t ← tokenAt ts place
      return if t.kind = kind then some (t.trees, place + 1) else none
  | .beginning words, place => do
      let t ← tokenAt ts place
      let holds := t.kind == .name && words.any fun w => t.chars.isPrefixOf w.toList
      return if holds then some ([], place + 1) else none
  | .rule r, place => rule r place
  | .both p q, place => do
      match ← p.read ts rule place with
      | none => return none
      | some (first, between) =>
          match ← q.read ts rule between with
          | none => return none
          | some (second, next) => return some (first ++ second, next)
  | .either p q, place => do
      match ← p.read ts rule place with
      | none => q.read ts rule place
      | outcome => return outcome
  | .optional p, place => do
      match ← p.read ts rule place with
      | none => return some ([], place)
      | outcome => return outcome
  | .repeated p, place => repeatedly (p.read ts rule) (ts.size + 1) [] place
  | .ahead p met, place => do
      let outcome ← p.read ts rule place
      return if outcome.isSome = met then some ([], place) else none

/-- The brackets that are open behind the token before a place. -/
def levelBefore (ts : Array Token) (place : Nat) : Nat :=
  (ts.getD (place - 1) { kind := .ending }).level

def firstOf (ts : Array Token) (rule : ρ → Nat → Reader ρ Outcome) (place : Nat) :
    List (Alternative ρ) → Reader ρ Outcome
  | [] => return none
  | a :: rest => do
      if a.describesFault && !(← get).describingFaults then firstOf ts rule place rest
      else
        match ← a.phrase.read ts rule place with
        | none => firstOf ts rule place rest
        | some (first, between) =>
            match ← a.following.read ts rule between with
            | none => return none
            | some (second, next) =>
                match a.make (levelBefore ts next) (first ++ second) with
                | .trees trees => return some (trees, next)
                | .failed => return none
                | .stopped s => throw s

variable [DecidableEq ρ]

def Progress.outcome? (p : Progress ρ) (r : ρ) (place : Nat) : Option Outcome :=
  (p.outcomes.getD place []).lookup r

def Progress.remember (p : Progress ρ) (r : ρ) (place : Nat) (o : Outcome) : Progress ρ :=
  { p with outcomes := p.outcomes.modify place ((r, o) :: ·) }

namespace Grammar

/-- Meets a rule that is not remembered, or for the first time. -/
def afresh (g : Grammar ρ) (r : ρ) (read : Reader ρ Outcome) : Reader ρ Outcome := do
  if g.overlooksFaults r then
    let describing := (← get).describingFaults
    modify fun p => { p with describingFaults := false }
    let outcome ← read
    modify fun p => { p with describingFaults := describing }
    return outcome
  else read

/-- Meets a rule; `fuel` is spent on rules within rules. -/
def rule (g : Grammar ρ) (ts : Array Token) : Nat → ρ → Nat → Reader ρ Outcome
  | 0, _, _ => return none
  | fuel + 1, r, place => do
      let read := g.afresh r (firstOf ts (g.rule ts fuel) place (g.alternatives r))
      if g.remembers r then
        match (← get).outcome? r place with
        | some outcome => return outcome
        | none =>
            let outcome ← read
            modify fun p => p.remember r place outcome
            return outcome
      else read

/-! ## Reading whole texts -/

/-- Where a text is read: by itself, or in a field of another text. -/
inductive Frame where
  | alone
  | inField
  deriving DecidableEq, Repr

/-- In a field, a message that does not tell where it belongs is told to be about the field. -/
def Frame.told (frame : Frame) (s : Stop) : Stop :=
  if frame = .alone || s.own then s
  else { s with message := "f-string: " ++ s.message, own := true }

/-- What is wrong further on goes before what is wrong here: a misspelt token, or a bracket that
is not closed and stands in a line before the last token looked at. -/
def overruled (ts : Array Token) (last : Token) (s : Stop) : Stop :=
  match ts.back? with
  | some { kind := .obstacle o, .. } =>
      if o.misspelt then { message := o.message, own := true }
      else
        match o.opened with
        | some b => if b.line < last.line then { message := Lexer.unclosed b } else s
        | none => s
  | _ => s

/-- How a fault is told after `seen` tokens have been looked at. -/
def explained (frame : Frame) (ts : Array Token) (seen : Nat) (s : Stop) : Stop :=
  let last := ts.getD (seen - 1) { kind := .ending }
  let final := s.settled || last.atEnd || last.kind = .ending
  frame.told (if final then s else overruled ts last s)

/-- How it is told that reading failed and no fault was described. -/
def unexplained (frame : Frame) (ts : Array Token) (last : Token) (seen : Nat) : Stop :=
  match last.kind with
  | .indent => frame.told { message := "unexpected indent" }
  | .dedent => frame.told { message := "unexpected unindent" }
  | _ =>
      let final := ts.getD (seen - 1) { kind := .ending }
      frame.told (overruled ts final { message := "invalid syntax" })

/-- More than the number of rules that can be met within one another at one place. -/
def depth : Nat :=
  128

def read? (g : Grammar ρ) (frame : Frame) (start : ρ) (ts : Array Token) :
    Except Stop (List Tree) :=
  let run (describingFaults : Bool) (seen : Nat) :=
    (g.rule ts (depth * (ts.size + 2)) start 0).run
      { describingFaults, seen, outcomes := Array.replicate (ts.size + 1) [] }
  match run false 0 with
  | .ok (some (trees, _)) _ => .ok trees
  | .error s p => .error (explained frame ts p.seen s)
  | .ok none p =>
      match run true p.seen with
      | .error s q => .error (explained frame ts q.seen s)
      | .ok _ q =>
          let last := ts.getD (p.seen - 1) { kind := .ending }
          .error (unexplained frame ts last q.seen)

end Grammar
end Literal
end PartitionKeys
