import PartitionKeys.Text.Blank

/-!
# EnvFile — the lines of a settings file

Each line assigns a value to a name, perhaps after the word `export`.  A value in apostrophes or
double quotes may contain anything, also line breaks; a bare value ends with its line or at a blank
followed by a number sign.  A name alone has no value, and a line of any other form is skipped.

* `EnvFile.assignments`: the assignments of a file, in order;
* `EnvFile.skipped`: where the lines begin that are skipped;
* `EnvFile.expand`: a value with `${NAME}` and `${NAME:-default}` replaced;
* `EnvFile.values`: the last value of each name, in order of the first assignment;
* `EnvFile.Reader`: a library that reads settings files, by default this one.

What is read here is what the library of the program reads; nothing that is said of the program
rests on it, so that any other reader may stand in its place.
-/

namespace PartitionKeys
namespace EnvFile

/-! ## Characters -/

def isInlineBlank (c : Char) : Bool :=
  Blank.holds c && c != '\n'

def skipInline (cs : List Char) : List Char :=
  cs.dropWhile isInlineBlank

def skipLine (cs : List Char) : List Char :=
  (cs.dropWhile (· != '\n')).drop 1

/-! ## Quoted values -/

/-- Up to the first quote outside a pair.  A backslash pairs with the character after it, whichever
it is, and is never read alone: `'a\'` has no end, and `'a\\'` ends at its second quote. -/
def scanQuoted? (quote : Char) (taken : List Char) : List Char → Option (List Char × List Char)
  | [] => none
  | '\\' :: c :: rest => scanQuoted? quote (c :: '\\' :: taken) rest
  | c :: rest =>
      if c = quote then some (taken.reverse, rest) else scanQuoted? quote (c :: taken) rest
termination_by cs => cs.length

def unescape (escapes : List (Char × Char)) : List Char → List Char
  | '\\' :: c :: rest =>
      match escapes.lookup c with
      | some d => d :: unescape escapes rest
      | none => '\\' :: unescape escapes (c :: rest)
  | c :: rest => c :: unescape escapes rest
  | [] => []
termination_by cs => cs.length

def singleEscapes : List (Char × Char) :=
  [('\\', '\\'), ('\'', '\'')]

def doubleEscapes : List (Char × Char) :=
  singleEscapes ++
    [ ('"', '"'), ('a', Char.ofNat 7), ('b', Char.ofNat 8), ('f', Char.ofNat 12), ('n', '\n'),
      ('r', '\r'), ('t', '\t'), ('v', Char.ofNat 11) ]

def quotedValue? (quote : Char) (cs : List Char) : Option (List Char × List Char) :=
  let escapes := if quote = '"' then doubleEscapes else singleEscapes
  (scanQuoted? quote [] cs).map fun v => (unescape escapes v.1, v.2)

/-! ## Bare values -/

/-- The text before the first run of blanks that a number sign follows. -/
def beforeComment : List Char → List Char
  | [] => []
  | c :: rest =>
      if Blank.holds c && (rest.dropWhile Blank.holds).head? == some '#' then []
      else c :: beforeComment rest

/-- The blanks after the equals sign count as blanks before a comment. -/
def bareValue (line : List Char) : List Char :=
  Blank.strip (beforeComment line)

/-! ## Lines -/

inductive Line where
  /-- A name, with its value if one is assigned. -/
  | assigns (name : String) (value : Option String)
  | comment

/-- What a line says, with the text after its last token. -/
abbrev Reading := Line × List Char

def afterExport (cs : List Char) : List Char :=
  let rest := cs.drop 6
  if cs.take 6 = "export".toList && (rest.head?.map isInlineBlank).getD false then skipInline rest
  else cs

/-- The name a line starts with; where none can be read, the text from which the line is
skipped. -/
def scanName (cs : List Char) : Except (List Char) (String × List Char) :=
  match cs with
  | '\'' :: rest =>
      let name := rest.takeWhile (· != '\'')
      if name.isEmpty || name.length = rest.length then .error cs
      else .ok (String.ofList name, rest.drop (name.length + 1))
  | _ =>
      let name := cs.takeWhile fun c => c != '=' && c != '#' && !Blank.holds c
      if name.isEmpty then .error cs else .ok (String.ofList name, cs.drop name.length)

def scanValue (cs : List Char) : Except (List Char) (List Char × List Char) :=
  match skipInline cs with
  | '\'' :: rest =>
      match quotedValue? '\'' rest with
      | some v => .ok v
      | none => .error cs
  | '"' :: rest =>
      match quotedValue? '"' rest with
      | some v => .ok v
      | none => .error cs
  | _ => .ok (bareValue (cs.takeWhile (· != '\n')), cs.dropWhile (· != '\n'))

def scanLine (cs : List Char) : Except (List Char) Reading :=
  let cs := afterExport cs
  if cs.head? = some '#' then .ok (.comment, cs)
  else
    match scanName cs with
    | .error rest => .error rest
    | .ok (name, rest) =>
        match skipInline rest with
        | '=' :: rest =>
            match scanValue rest with
            | .error rest => .error rest
            | .ok (value, rest) => .ok (.assigns name (some (String.ofList value)), rest)
        | rest => .ok (.assigns name none, rest)

/-- Only a comment may follow on the same line. -/
def endOfLine (cs : List Char) : Except (List Char) (List Char) :=
  let rest := skipInline cs
  let rest := if rest.head? = some '#' then rest.dropWhile (· != '\n') else rest
  match rest with
  | [] => .ok []
  | '\n' :: rest => .ok rest
  | rest => .error rest

/-- What the first line says, or nothing when it cannot be read, and the text after that line. -/
def step (cs : List Char) : Option Line × List Char :=
  match scanLine cs with
  | .error rest => (none, skipLine rest)
  | .ok (line, rest) =>
      match endOfLine rest with
      | .error rest => (none, skipLine rest)
      | .ok rest => (some line, rest)

/-- A line that can be read, or the number of the line where the reading of another one began. -/
abbrev Statement := Nat ⊕ Line

/-- Every line takes at least one character. -/
def statementsFrom (fuel number : Nat) (cs : List Char) : List Statement :=
  match fuel with
  | 0 => []
  | fuel + 1 =>
      let start := cs.dropWhile Blank.holds
      if start.isEmpty then []
      else
        let (line, rest) := step start
        let breaks := (cs.take (cs.length - rest.length)).count '\n'
        (line.map Sum.inr).getD (.inl number) :: statementsFrom fuel (number + breaks) rest

/-- A byte order mark at the beginning says nothing. -/
def afterMark : List Char → List Char
  | c :: rest => if c = Char.ofNat 0xfeff then rest else c :: rest
  | [] => []

def statements (text : String) : List Statement :=
  let cs := afterMark (Blank.unifyBreaks text.toList)
  statementsFrom cs.length 1 cs

def assignments (text : String) : List (String × Option String) :=
  (statements text).filterMap fun
    | .inr (.assigns name value) => some (name, value)
    | _ => none

/-- The numbers of the lines where something begins that cannot be read. -/
def skipped (text : String) : List Nat :=
  (statements text).filterMap fun
    | .inl number => some number
    | .inr _ => none

/-! ## Expansion -/

/-- The name and the default of a reference, and what follows its closing brace. -/
def reference? (cs : List Char) : Option (String × String × List Char) :=
  let name := cs.takeWhile fun c => c != '}' && c != ':'
  match cs.drop name.length with
  | '}' :: rest => some (String.ofList name, "", rest)
  | ':' :: '-' :: rest =>
      let standing := rest.takeWhile (· != '}')
      match rest.drop standing.length with
      | _ :: rest => some (String.ofList name, String.ofList standing, rest)
      | [] => none
  | _ => none

/-- A name that is known without a value stands for nothing. -/
def expandFrom (known : String → Option (Option String)) (fuel : Nat) (cs : List Char) :
    List Char :=
  match fuel, cs with
  | fuel + 1, '$' :: '{' :: rest =>
      match reference? rest with
      | some (name, standing, rest) =>
          let value := ((known name).getD (some standing)).getD ""
          value.toList ++ expandFrom known fuel rest
      | none => '$' :: expandFrom known fuel ('{' :: rest)
  | fuel + 1, c :: rest => c :: expandFrom known fuel rest
  | _, _ => []

def expand (known : String → Option (Option String)) (value : String) : String :=
  String.ofList (expandFrom known value.length value.toList)

/-! ## Values -/

abbrev Values := List (String × Option String)

def Values.put (values : Values) (name : String) (value : Option String) : Values :=
  match values with
  | [] => [(name, value)]
  | (n, v) :: rest => if n = name then (n, value) :: rest else (n, v) :: Values.put rest name value

/-- References look at the assignments before, then at the environment. -/
def values (environment : List (String × String)) (text : String) : Values :=
  (assignments text).foldl (fun (done : Values) (name, value) =>
    let known (n : String) : Option (Option String) :=
      (List.lookup n done).or ((environment.lookup n).map some)
    done.put name (value.map (expand known))) []

/-! ## Readers -/

structure Reader where
  /-- The values that a file gives in an environment. -/
  values : List (String × String) → String → Values := EnvFile.values
  /-- Where the lines of a file begin that are skipped. -/
  skipped : String → List Nat := EnvFile.skipped

end EnvFile
end PartitionKeys
