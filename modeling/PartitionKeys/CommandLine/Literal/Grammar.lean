import PartitionKeys.CommandLine.Literal.Reading
import PartitionKeys.Text.Identifier

/-!
# Grammar — the rules of expressions

The rules say what an expression may look like, from conditions and loose operators to the names,
texts and brackets that bind closest, and what likely mistakes look like.

* `Rule`: the names of the rules;
* `Rule.alternatives`: how each of them is met;
* `Grammar.ofExpressions`: the grammar of expressions.
-/

namespace PartitionKeys
namespace Literal

inductive Rule where
  | whole | expressions | starExpressions | starExpression | expression | plainExpression
  | assignment | namedExpression | yielded
  | disjunction | conjunction | inversion | comparison | relation
  | bitOr | bitXor | bitAnd | shift | sum | term | factor | power | awaited
  | primary | trailer | atom | texts
  | group | tuple | generator | items | item | set | setComprehension
  | record | recordComprehension | entries | entry | pair
  | clauses | clause | targets | target | plainTarget | targetAtom | targetTuple | targetStem
  | arguments | argumentList | positional | keywords | keywordOrStar | keywordOrStars | star
  | lambda | parameters | parameterList | slashed | slashedDefaults | starred | keywordStarred
  | bare | defaulted | perhapsDefaulted | default
  | faultyExpression | faultyCall | faultyName | faultyGroup | faultyComprehension
  | faultyRecordComprehension | faultyTarget | faultyEntries | faultyEntry
  | faultyArguments | faultyKeyword
  | faultyParameters | someDefaulted | faultyStarred | faultyKeywordStarred | faultyDefault
  deriving DecidableEq, Repr

instance : Coe Rule (Phrase Rule) :=
  ⟨.rule⟩

/-- A word stands for itself, as a keyword or a sign. -/
instance : Coe String (Phrase Rule) :=
  ⟨fun word => .token (.fixed word)⟩

namespace Rule

/-! ## What alternatives are read as -/

abbrev Make := Nat → List Tree → Made

def exprs (ts : List Tree) : List Expr :=
  ts.filterMap fun t =>
    match t with
    | .expr e => some e
    | _ => none

def asExpr (e : Expr) : Made :=
  .trees [.expr e]

/-- Everything that was read, as it is. -/
def kept : Make := fun _ ts =>
  .trees ts

def dropped : Make := fun _ _ =>
  .trees []

def being (e : Expr) : Make := fun _ _ =>
  asExpr e

def called (kind : String) : Make :=
  being (.other kind)

def joined (join : List Expr → Expr) : Make := fun _ ts =>
  asExpr (join (exprs ts))

def wrapped (wrap : Expr → Expr) : Make := fun _ ts =>
  .trees ((exprs ts).map fun e => .expr (wrap e))

def folded (join : Expr → Expr → Expr) : Make := fun _ ts =>
  match exprs ts with
  | e :: es => asExpr (es.foldl join e)
  | [] => .failed

/-- Operands with operators between them; a lone operand is what it is. -/
def operated : Make :=
  folded fun _ _ => .other "expression"

def compared : Make := fun _ ts =>
  match ts with
  | .expr e :: .relation isIn :: _ => asExpr (.comparison e isIn)
  | _ => .trees ts

/-- What a name or arguments behind an expression make of it. -/
def trailed (e : Expr) (t : Tree) : Expr :=
  match t with
  | .token _ => .attribute
  | .arguments ts => .call e ts.isEmpty
  | _ => e

def paired : Make := fun _ ts =>
  match exprs ts with
  | [key, value] => .trees [.entry (some key) value]
  | [value] => .trees [.entry none value]
  | _ => .failed

def recorded : Make := fun _ ts =>
  asExpr <| .record <| ts.filterMap fun t =>
    match t with
    | .entry key value => some (key, value)
    | _ => none

def fault (message : String) : Make := fun _ _ =>
  .stopped { message }

/-! ## Numbers and names -/

/-- The longest whole number in decimal digits. -/
def digitLimit : Nat :=
  4300

def tooLong (count : Nat) : String :=
  "Exceeds the limit (" ++ toString digitLimit ++
    " digits) for integer string conversion: value has " ++ toString count ++
    " digits; use sys.set_int_max_str_digits() to increase the limit - Consider hexadecimal for " ++
    "huge integer literals to avoid decimal conversion limits."

def numeral (cs : List Char) : Except String Numeral :=
  let cs := cs.filter (· != '_')
  let digits := cs.drop 2
  match cs.map Char.toLower with
  | '0' :: 'x' :: _ => .ok (.whole (Digit.number 16 digits))
  | '0' :: 'o' :: _ => .ok (.whole (Digit.number 8 digits))
  | '0' :: 'b' :: _ => .ok (.whole (Digit.number 2 digits))
  | marks =>
      if marks.contains 'j' then .ok .imaginary
      else if marks.contains '.' || marks.contains 'e' then .ok .real
      else if digitLimit < cs.length && cs.any (· != '0') then .error (tooLong cs.length)
      else .ok (.whole (Digit.number 10 cs))

def numbered : Make := fun _ ts =>
  match ts with
  | [.token t] =>
      match numeral t.chars with
      | .ok n => asExpr (.number n)
      | .error message => .stopped { message }
  | _ => .failed

def named : Make := fun _ ts =>
  match ts with
  | [.token t] => asExpr (.name (Identifier.plain t.chars))
  | _ => .failed

/-- Names of statements of old, which took no brackets. -/
def isStatement (name : List Char) : Bool :=
  name == "print".toList || name == "exec".toList

/-! ## Building alternatives -/

abbrev Alternatives := List (Alternative Rule)

def read (phrases : List (Phrase Rule)) (make : Make) : Alternative Rule :=
  { phrase := .all phrases, make }

/-- Once `phrases` are met, `following` has to be met as well. -/
def bound (phrases following : List (Phrase Rule)) (make : Make) : Alternative Rule :=
  { phrase := .all phrases, following := .all following, make }

/-- A rule that describes faults. -/
def except (r : Rule) : Alternative Rule :=
  { phrase := .rule r, describesFault := true }

def name : Phrase Rule :=
  .token .name

def text : Phrase Rule :=
  .token .text

def brace : Phrase Rule :=
  .token (.fixed (String.singleton openingBrace))

def endBrace : Phrase Rule :=
  .token (.fixed (String.singleton closingBrace))

def either (p : Phrase Rule) (ps : List (Phrase Rule)) : Phrase Rule :=
  .any p ps

/-- Phrases with commas between them. -/
def commas (p : Phrase Rule) : Phrase Rule :=
  .both p (.many [",", p])

/-- Operands with operators between them. -/
def chain (operand : Rule) (operators : Phrase Rule) : Phrase Rule :=
  .both operand (.many [operators, operand])

/-- An assignment within an expression, or an expression that is not the name in one. -/
def assigned : Phrase Rule :=
  either assignment [.all [expression, .notFollowedBy [":="]]]

/-- What makes a target of a stem: a name or call follows. -/
def goesOn : Phrase Rule :=
  .followedBy [either "(" ["."]]

/-! ## Expressions -/

/-- Expressions with commas between them are a tuple; one with a comma behind it is one too. -/
def listed (r : Rule) : Alternatives :=
  [ read [r, .several [",", r], .maybe [","]] (joined .tuple),
    read [r, ","] (joined .tuple),
    read [r] kept ]

def choices : Alternatives :=
  [ read [disjunction, "if", disjunction, "else", expression] (called "conditional expression"),
    read [disjunction] kept,
    read [lambda] kept ]

def sentences : Rule → Alternatives
  | whole => [read [expressions, .many [.token .newline], .token .ending] kept]
  | expressions => listed expression
  | starExpressions => listed starExpression
  | starExpression => [read ["*", bitOr] (wrapped .starred), read [expression] kept]
  | expression => except faultyExpression :: except faultyCall :: choices
  | plainExpression => choices
  | assignment => [bound [name, ":="] [expression] (called "named expression")]
  | namedExpression =>
      [ read [assignment] kept,
        except faultyName,
        read [expression, .notFollowedBy [":="]] kept ]
  | yielded =>
      [ read ["yield", "from", expression] (called "yield expression"),
        read ["yield", .maybe [starExpressions]] (called "yield expression") ]
  | _ => []

/-- Relations between expressions; the first one that is met counts. -/
def relations : Alternatives :=
  let unlike (signs : List (Phrase Rule)) : Alternative Rule :=
    read [.all signs, bitOr] fun _ _ => .trees [.relation false]
  [ unlike ["=="], unlike ["!="], unlike ["<="], unlike ["<"], unlike [">="], unlike [">"],
    unlike ["not", "in"],
    read ["in", bitOr] fun _ _ => .trees [.relation true],
    unlike ["is", "not"], unlike ["is"] ]

def operators : Rule → Alternatives
  | disjunction => [read [chain conjunction "or"] operated]
  | conjunction => [read [chain inversion "and"] operated]
  | inversion => [read ["not", inversion] (called "expression"), read [comparison] kept]
  | comparison => [read [bitOr, .many [relation]] compared]
  | relation => relations
  | bitOr => [read [chain bitXor "|"] operated]
  | bitXor => [read [chain bitAnd "^"] operated]
  | bitAnd => [read [chain shift "&"] operated]
  | shift => [read [chain sum (either "<<" [">>"])] operated]
  | sum => [read [chain term (either "+" ["-"])] (folded .sum)]
  | term => [read [chain factor (either "*" ["/", "//", "%", "@"])] operated]
  | factor =>
      [ read [either "+" ["-"], factor] (wrapped .signed),
        read ["~", factor] (called "expression"),
        read [power] kept ]
  | power => [read [awaited, .maybe ["**", factor]] operated]
  | awaited => [read ["await", primary] (called "await expression"), read [primary] kept]
  | _ => []

/-- Texts side by side are read by `reading`. -/
def atoms (reading : List Token → Except Stop Expr) : Rule → Alternatives
  | primary =>
      [ read [atom, .many [trailer]] fun _ ts =>
          match ts with
          | .expr e :: rest => asExpr (rest.foldl trailed e)
          | _ => .failed ]
  | trailer =>
      [ read [".", name] kept,
        read [generator] fun _ ts => .trees [.arguments ts],
        read ["(", .maybe [arguments], ")"] fun _ ts =>
          .trees (if ts.isEmpty then [.arguments []] else ts) ]
  | atom =>
      [ read [name] named,
        read ["True"] (being (.constant "True")),
        read ["False"] (being (.constant "False")),
        read ["None"] (being (.constant "None")),
        read [.followedBy [text], texts] kept,
        read [.token .number] numbered,
        read [.followedBy ["("], either tuple [group, generator]] kept,
        read [.followedBy [brace], either record [set, recordComprehension, setComprehension]] kept,
        read ["..."] (being (.constant "...")) ]
  | texts =>
      [ read [.several [text]] fun _ ts =>
          let tokens := ts.filterMap fun t =>
            match t with
            | .token t => some t
            | _ => none
          match reading tokens with
          | .ok e => asExpr e
          | .error s => .stopped s ]
  | _ => []

/-! ## Collections -/

def collections : Rule → Alternatives
  | group => [read ["(", either yielded [namedExpression], ")"] kept, except faultyGroup]
  | tuple => [read ["(", .maybe [item, ",", .maybe [items]], ")"] (joined .tuple)]
  | generator =>
      [ read ["(", assigned, clauses, ")"] (called "generator expression"),
        except faultyComprehension ]
  | items => [read [commas item, .maybe [","]] kept]
  | item => [read ["*", bitOr] (wrapped .starred), read [namedExpression] kept]
  | set => [read [brace, items, endBrace] (joined .set)]
  | setComprehension =>
      [ read [brace, namedExpression, clauses, endBrace] (called "set comprehension"),
        except faultyComprehension ]
  | record =>
      [ read [brace, .maybe [entries], endBrace] recorded,
        read [brace, faultyEntries, endBrace] dropped ]
  | recordComprehension =>
      [ read [brace, pair, clauses, endBrace] (called "dict comprehension"),
        except faultyRecordComprehension ]
  | entries => [read [commas entry, .maybe [","]] kept]
  | entry => [read ["**", bitOr] paired, read [pair] kept]
  | pair => [read [expression, ":", expression] paired]
  | _ => []

/-- Loops within brackets; what they are made of is of no account. -/
def loops : Rule → Alternatives
  | clauses => [read [.several [clause]] dropped]
  | clause =>
      let loop : List (Phrase Rule) := ["for", targets, "in"]
      let body : List (Phrase Rule) := [disjunction, .many ["if", disjunction]]
      [bound ("async" :: loop) body dropped, bound loop body dropped, except faultyTarget]
  | targets =>
      [ read [target, .notFollowedBy [","]] dropped,
        read [commas target, .maybe [","]] dropped ]
  | target =>
      [read ["*", .notFollowedBy ["*"], target] dropped, read [plainTarget] dropped]
  | plainTarget =>
      [ read [targetStem, ".", name, .notFollowedBy [either "(" ["."]]] dropped,
        read [targetAtom] dropped ]
  | targetAtom =>
      [ read [name] dropped,
        read ["(", plainTarget, ")"] dropped,
        read ["(", .maybe [targetTuple], ")"] dropped ]
  | targetTuple =>
      [ read [target, .several [",", target], .maybe [","]] dropped,
        read [target, ","] dropped ]
  | targetStem =>
      let further : Phrase Rule :=
        either (.all [".", name, goesOn])
          [.all [generator, goesOn], .all ["(", .maybe [arguments], ")", goesOn]]
      [read [atom, goesOn, .many [further]] dropped]
  | _ => []

/-! ## Calls and functions -/

def calls : Rule → Alternatives
  | arguments =>
      [ read [argumentList, .maybe [","], .followedBy [")"]] kept,
        except faultyArguments ]
  | argumentList =>
      [ read [commas positional, .maybe [",", keywords]] fun _ ts => .trees [.arguments ts],
        read [keywords] fun _ ts => .trees [.arguments ts] ]
  | positional => [read [either star [.all [assigned, .notFollowedBy ["="]]]] kept]
  | keywords =>
      [ read [commas keywordOrStar, ",", commas keywordOrStars] kept,
        read [commas keywordOrStar] kept,
        read [commas keywordOrStars] kept ]
  | keywordOrStar =>
      [ except faultyKeyword,
        read [name, "=", expression] fun _ _ => .trees [.keyword],
        read [star] kept ]
  | keywordOrStars =>
      [ except faultyKeyword,
        read [name, "=", expression] fun _ _ => .trees [.keyword],
        read ["**", expression] fun _ _ => .trees [.keywords] ]
  | star => [read ["*", expression] (wrapped .starred)]
  | _ => []

/-- A parameter ends with a comma, or before the colon. -/
def parameter (phrases : List (Phrase Rule)) : Alternatives :=
  [ read [.all phrases, ","] dropped,
    read [.all phrases, .followedBy [":"]] dropped ]

def functions : Rule → Alternatives
  | lambda => [read ["lambda", .maybe [parameters], ":", expression] (called "lambda")]
  | parameters => [except faultyParameters, read [parameterList] dropped]
  | parameterList =>
      [ read [slashed, .many [bare], .many [defaulted], .maybe [starred]] dropped,
        read [slashedDefaults, .many [defaulted], .maybe [starred]] dropped,
        read [.several [bare], .many [defaulted], .maybe [starred]] dropped,
        read [.several [defaulted], .maybe [starred]] dropped,
        read [starred] dropped ]
  | slashed => parameter [.several [bare], "/"]
  | slashedDefaults => parameter [.many [bare], .several [defaulted], "/"]
  | starred =>
      [ except faultyStarred,
        read ["*", bare, .many [perhapsDefaulted], .maybe [keywordStarred]] dropped,
        read ["*", ",", .several [perhapsDefaulted], .maybe [keywordStarred]] dropped,
        read [keywordStarred] dropped ]
  | keywordStarred => [except faultyKeywordStarred, read ["**", bare] dropped]
  | bare => parameter [name]
  | defaulted => parameter [name, default]
  | perhapsDefaulted => parameter [name, .maybe [default]]
  | default => [read ["=", expression] dropped, except faultyDefault]
  | _ => []

/-! ## Mistakes -/

def notEquality : String :=
  "invalid syntax. Maybe you meant '==' or ':=' instead of '='?"

def loneGenerator : String :=
  "Generator expression must be parenthesized"

def isStatementName : Expr → Bool
  | .name cs => isStatement cs
  | _ => false

/-- Two expressions side by side within brackets, as if a comma had been forgotten. -/
def sideBySide : Make := fun level ts =>
  if level = 0 || (exprs ts).head?.any isStatementName then .failed
  else .stopped { message := "invalid syntax. Perhaps you forgot a comma?" }

def statementCall : Make := fun _ ts =>
  match ts with
  | .token t :: _ =>
      let cs := Identifier.plain t.chars
      let name := String.ofList cs
      if isStatement cs then
        .stopped
          { message :=
              "Missing parentheses in call to '" ++ name ++ "'. Did you mean " ++ name ++ "(...)?" }
      else .failed
  | _ => .failed

/-- A fault of the first expression. -/
def faultOf (message : Expr → String) : Make := fun _ ts =>
  match exprs ts with
  | e :: _ => .stopped { message := message e }
  | [] => .failed

def unassignable : Make := fun _ ts =>
  match (exprs ts).head?.bind Expr.unassignable? with
  | some e => .stopped { message := "cannot assign to " ++ e.kind }
  | none => .failed

def mistakes : Rule → Alternatives
  | faultyExpression =>
      [ read [.notFollowedBy [either (.all [name, text]) [.beginning ["_", "case", "match"]]],
          disjunction, plainExpression] sideBySide,
        read [disjunction, "if", disjunction, .notFollowedBy [either "else" [":"]]]
          (fault "expected 'else' after 'if' expression") ]
  | faultyCall => [read [name, .notFollowedBy ["("], starExpressions] statementCall]
  | faultyName =>
      let notAssigned : Phrase Rule := .notFollowedBy [either "=" [":="]]
      [ read [expression, ":=", expression]
          (faultOf fun e => "cannot use assignment expressions with " ++ e.kind),
        read [name, "=", bitOr, notAssigned] (fault notEquality),
        read [.notFollowedBy [either tuple [generator, "True", "None", "False"]],
          bitOr, "=", bitOr, notAssigned]
          (faultOf fun e =>
            "cannot assign to " ++ e.kind ++ " here. Maybe you meant '==' instead of '='?") ]
  | faultyGroup =>
      [ read ["(", star, ")"] (fault "cannot use starred expression here"),
        read ["(", "**", expression, ")"] (fault "cannot use double starred expression here") ]
  | faultyComprehension =>
      let forgotten := fault "did you forget parentheses around the comprehension target?"
      [ read [either "(" [brace], star, clauses]
          (fault "iterable unpacking cannot be used in comprehension"),
        read [brace, item, ",", items, clauses] forgotten,
        read [brace, item, ",", clauses] forgotten ]
  | faultyRecordComprehension =>
      [ read [brace, "**", bitOr, clauses, endBrace]
          (fault "dict unpacking cannot be used in dict comprehension") ]
  | faultyTarget => [read [.maybe ["async"], "for", starExpressions] unassignable]
  | _ => []

def recordMistakes : Rule → Alternatives :=
  let values : Alternatives :=
    [ read [expression, ":", "*", bitOr]
        (fault "cannot use a starred expression in a dictionary value"),
      read [expression, ":", .followedBy [either endBrace [","]]]
        (fault "expression expected after dictionary key and ':'") ]
  fun r =>
    match r with
    | faultyEntries => read [commas entry, ",", faultyEntry] dropped :: values
    | faultyEntry =>
        read [expression, .notFollowedBy [":"]] (fault "':' expected after dictionary key") ::
          values
    | _ => []

/-- Arguments that go on with a loop, of which more than one have no name. -/
def looped : Make := fun _ ts =>
  match ts with
  | .arguments args :: _ =>
      if (exprs args).length ≤ 1 then .failed else .stopped { message := loneGenerator }
  | _ => .failed

/-- Arguments without a name behind those with one. -/
def misplaced : Make := fun _ ts =>
  match ts with
  | .arguments args :: _ =>
      let unpacked := args.any fun t =>
        match t with
        | .keywords => true
        | _ => false
      .stopped
        { message :=
            "positional argument follows keyword argument" ++
              if unpacked then " unpacking" else "" }
  | _ => .failed

def callMistakes : Rule → Alternatives
  | faultyArguments =>
      [ read [argumentList, ",", "*"]
          (fault "iterable argument unpacking follows keyword argument unpacking"),
        read [expression, clauses, ",",
          .maybe [either argumentList [.all [expression, clauses]]]] (fault loneGenerator),
        read [name, "=", expression, clauses] (fault notEquality),
        read [argumentList, clauses] looped,
        read [argumentList, ",", expression, clauses] (fault loneGenerator),
        read [argumentList, ",", argumentList] misplaced ]
  | faultyKeyword =>
      let constant (word : String) : Alternative Rule :=
        read [word, "="] (fault ("cannot assign to " ++ word))
      [ constant "True", constant "False", constant "None",
        read [name, "=", expression, clauses] (fault notEquality),
        read [.notFollowedBy [name, "="], expression, "="]
          (fault "expression cannot contain assignment, perhaps you meant \"==\"?") ]
  | _ => []

def parameterMistakes : Rule → Alternatives
  | faultyParameters =>
      let beforeSlash := either slashed [slashedDefaults]
      [ read [.many [bare], someDefaulted, bare]
          (fault "non-default argument follows default argument"),
        read [.many [bare], "(", commas name, .maybe [","], ")"]
          (fault "Lambda expression parameters cannot be parenthesized"),
        read ["/", ","] (fault "at least one argument must precede /"),
        read [beforeSlash, .many [perhapsDefaulted], "/"] (fault "/ may appear only once"),
        read [.maybe [beforeSlash], .many [perhapsDefaulted], "*", either "," [bare],
          .many [perhapsDefaulted], "/"] (fault "/ must be ahead of *"),
        read [.several [perhapsDefaulted], "/", "*"] (fault "expected comma between / and *") ]
  | someDefaulted => [read [slashedDefaults] dropped, read [.several [defaulted]] dropped]
  | faultyStarred =>
      [ read ["*", either ":" [.all [",", either ":" ["**"]]]]
          (fault "named arguments must follow bare *"),
        read ["*", name, "="] (fault "var-positional argument cannot have default value"),
        read ["*", either bare [","], .many [perhapsDefaulted], "*", either bare [","]]
          (fault "* argument may appear only once") ]
  | faultyKeywordStarred =>
      let followed := fault "arguments cannot follow var-keyword argument"
      [ read ["**", name, "="] (fault "var-keyword argument cannot have default value"),
        read ["**", name, ",", name] followed,
        read ["**", name, ",", either "*" ["**", "/"]] followed ]
  | faultyDefault =>
      [read ["=", .followedBy [either ")" [","]]] (fault "expected default value expression")]
  | _ => []

/-! ## All rules -/

def alternatives (reading : List Token → Except Stop Expr) (r : Rule) : Alternatives :=
  [ sentences, operators, atoms reading, collections, loops, calls, functions,
    mistakes, recordMistakes, callMistakes, parameterMistakes ].flatMap (· r)

def remembered : Rule → Bool
  | expression | starExpression | disjunction | conjunction | inversion | bitOr | bitXor | bitAnd
  | shift | sum | term | factor | awaited | primary | texts | arguments | target | plainTarget
  | targetStem | faultyName => true
  | _ => false

end Rule

/-- Texts side by side are read by `reading`. -/
def Grammar.ofExpressions (reading : List Token → Except Stop Expr) : Grammar Rule where
  alternatives := Rule.alternatives reading
  remembers := Rule.remembered
  overlooksFaults r := r == .plainExpression

end Literal
end PartitionKeys
