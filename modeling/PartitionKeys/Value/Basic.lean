import PartitionKeys.Number.Binary64
import PartitionKeys.Text.Quoted

/-!
# Value — data of any shape, as configuration sources hand it over

* `Value`: null, truth values, integers, reals, texts, lists and records;
* `Fields`: the entries of a record, in order, with `get?`, `put` and `erase`;
* `Value.isTruthy`: everything except null, false, zero and the empty text, list and record;
* `Value.written`: the value as it is written inside messages, texts quoted;
* `Value.shown`: the same, except that a text on its own stands unquoted.
-/

namespace PartitionKeys

inductive Value where
  | null
  | bool (b : Bool)
  | int (n : Int)
  | real (x : Binary64)
  | text (s : String)
  | list (items : List Value)
  | record (fields : List (String × Value))
  deriving Inhabited

/-! ## Record entries -/

abbrev Fields := List (String × Value)

namespace Fields

def get? (fields : Fields) (key : String) : Option Value :=
  List.lookup key fields

/-- A known key keeps its place. -/
def put (fields : Fields) (key : String) (value : Value) : Fields :=
  match fields with
  | [] => [(key, value)]
  | (k, v) :: rest => if k = key then (k, value) :: rest else (k, v) :: put rest key value

def erase (fields : Fields) (key : String) : Fields :=
  List.filter (fun f => f.1 ≠ key) fields

def putAll (fields others : Fields) : Fields :=
  others.foldl (fun acc f => acc.put f.1 f.2) fields

theorem get?_put_self (fields : Fields) (key : String) (value : Value) :
    (fields.put key value).get? key = some value := by
  induction fields with
  | nil =>
      simp [put, get?]
  | cons f rest ih =>
      obtain ⟨k, v⟩ := f
      by_cases h : k = key
      · simp [put, get?, h]
      · have h' : (key == k) = false := by
          simpa using fun e => h e.symm
        simpa [put, get?, List.lookup_cons, h, h'] using ih

theorem get?_put_of_ne {fields : Fields} {key other : String} {value : Value} (hne : other ≠ key) :
    (fields.put key value).get? other = fields.get? other := by
  have hkey : (other == key) = false := by
    simpa using hne
  induction fields with
  | nil =>
      simp [put, get?, List.lookup_cons, hkey]
  | cons f rest ih =>
      obtain ⟨k, v⟩ := f
      by_cases h : k = key
      · simp [put, get?, List.lookup_cons, h, hkey]
      · simp only [put, get?, h, if_false, List.lookup_cons] at ih ⊢
        split
        · rfl
        · exact ih

end Fields

namespace Value

/-! ## Views -/

def isNull : Value → Bool
  | .null => true
  | _ => false

def text? : Value → Option String
  | .text s => some s
  | _ => none

def isTruthy : Value → Bool
  | .null => false
  | .bool b => b
  | .int n => n != 0
  | .real x => !x.isZero
  | .text s => !s.isEmpty
  | .list items => !items.isEmpty
  | .record fields => !fields.isEmpty

/-- The name of the sort of data a value is. -/
def kind : Value → String
  | .null => "NoneType"
  | .bool _ => "bool"
  | .int _ => "int"
  | .real _ => "float"
  | .text _ => "str"
  | .list _ => "list"
  | .record _ => "dict"

/-- Absent text is null. -/
def ofText? : Option String → Value
  | some s => .text s
  | none => .null

/-! ## Written form -/

mutual

def written : Value → String
  | .null => "None"
  | .bool true => "True"
  | .bool false => "False"
  | .int n => toString n
  | .real x => x.written
  | .text s => Quoted.text s
  | .list items => "[" ++ ", ".intercalate (writtenItems items) ++ "]"
  | .record fields => "\x7b" ++ ", ".intercalate (writtenFields fields) ++ "\x7d"

def writtenItems : List Value → List String
  | [] => []
  | v :: rest => written v :: writtenItems rest

def writtenFields : List (String × Value) → List String
  | [] => []
  | (key, v) :: rest => (Quoted.text key ++ ": " ++ written v) :: writtenFields rest

end

def shown : Value → String
  | .text s => s
  | v => v.written

end Value
end PartitionKeys
