import PartitionKeys.Proofs.Template.Alike
import PartitionKeys.Template.Render

/-!
# Path — one path followed from different texts

How a path is read does not depend on what it leads to, so from two texts it takes the same steps.
They lead to alike operands, unless a step asks for a character that the second text does not have.

* `Step`: one step of a path, read before it is taken;
* `follow_cons`: following a path is taking its steps;
* `follow_alike`: a path leads to alike operands, if the second text is long enough;
* `Placeholders.find_alike`: the same from the text of a placeholder;
* `Placeholders.find_whole`: a path without steps.
-/

namespace PartitionKeys
namespace Template

/-! ## Steps of a path -/

inductive Step where
  | member (name : String)
  | element (key : Key)
  deriving DecidableEq, Repr

namespace Step

variable {c : Char} {rest rest' : List Char} {s : Step}

/-- Reads a step that begins with `c`, and what is left of the path. -/
def scan (c : Char) (rest : List Char) : Except Fault (Step × List Char) :=
  if c = '.' then
    let name := rest.takeWhile (!endsName ·)
    if name.isEmpty then .error .emptyStep
    else .ok (.member (String.ofList name), rest.dropWhile (!endsName ·))
  else if c = '[' then
    let item := rest.takeWhile (· != ']')
    if item.length = rest.length then .error .unclosedIndex
    else
      match wholeNumber? item with
      | .error e => .error e
      | .ok position =>
          if item.isEmpty then .error .emptyStep
          else .ok (.element (keyOf position item), (rest.dropWhile (· != ']')).drop 1)
  else .error .junkAfterIndex

def takenFrom (v : Operand) : Step → Except Fault Operand
  | .member name => v.memberOf name
  | .element key => v.elementAt key

theorem scan_eq_ok (hs : scan c rest = .ok (s, rest')) :
    rest'.Sublist rest ∧ ∀ key, s = .element key → c = '[' := by
  unfold scan at hs
  dsimp only at hs
  split at hs
  · split at hs
    · cases hs
    · cases hs
      exact ⟨List.dropWhile_sublist _, fun key hkey => nomatch hkey⟩
  · split at hs
    · rename_i hbracket
      split at hs
      · cases hs
      · split at hs
        · cases hs
        · split at hs
          · cases hs
          · cases hs
            exact ⟨(List.drop_sublist 1 _).trans (List.dropWhile_sublist _), fun _ _ => hbracket⟩
    · cases hs

theorem takenFrom_alike {long : Prop} {v v' u : Operand} (ha : v.Alike long v')
    (hu : s.takenFrom v = .ok u) :
    (∃ u', s.takenFrom v' = .ok u' ∧ u.Alike long u') ∨
      s.takenFrom v' = .error (.indexOutOfRange "string") ∧ ¬long ∧ ∃ key, s = .element key := by
  cases s with
  | member name => exact Or.inl (ha.memberOf hu)
  | element key =>
      rcases ha.elementAt hu with hok | ⟨hshort, hlong⟩
      · exact Or.inl hok
      · exact Or.inr ⟨hshort, hlong, key, rfl⟩

end Step

/-! ## Paths -/

section

variable {long : Prop} {v v' w : Operand} {path : List Char}

theorem follow_nil (v : Operand) : follow v [] = .ok v := by
  rw [follow]

/-- A path is read one step at a time, whatever it leads to. -/
theorem follow_cons (v : Operand) (c : Char) (rest : List Char) :
    follow v (c :: rest) =
      match Step.scan c rest with
      | .error e => .error e
      | .ok (s, rest') =>
          match s.takenFrom v with
          | .error e => .error e
          | .ok u => follow u rest' := by
  rw [follow, Step.scan]
  dsimp only
  by_cases hdot : c = '.'
  · simp only [if_pos hdot]
    split
    · rfl
    · rfl
  · simp only [if_neg hdot]
    by_cases hbracket : c = '['
    · simp only [if_pos hbracket]
      split
      · rfl
      · cases wholeNumber? (rest.takeWhile (· != ']')) with
        | error e => rfl
        | ok position =>
            dsimp only
            split
            · rfl
            · rfl
    · simp only [if_neg hbracket]

theorem follow_cons_eq_ok {c : Char} {rest : List Char} :
    follow v (c :: rest) = .ok w ↔
      ∃ s rest', Step.scan c rest = .ok (s, rest') ∧
        ∃ u, s.takenFrom v = .ok u ∧ follow u rest' = .ok w := by
  rw [follow_cons]
  cases Step.scan c rest with
  | error e => simp
  | ok next =>
      rcases next with ⟨s, rest'⟩
      simp only [Except.ok.injEq, Prod.mk.injEq]
      constructor
      · intro hw
        cases hu : s.takenFrom v with
        | error e =>
            simp [hu] at hw
        | ok u =>
            rw [hu] at hw
            exact ⟨s, rest', ⟨rfl, rfl⟩, u, hu, hw⟩
      · rintro ⟨_, _, ⟨rfl, rfl⟩, u, hu, hw⟩
        rw [hu]
        exact hw

/-- Where a path leads from alike operands, or that it ends at a text without the character. -/
theorem follow_alike (ha : v.Alike long v') (hw : follow v path = .ok w) :
    (∃ w', follow v' path = .ok w' ∧ w.Alike long w') ∨
      follow v' path = .error (.indexOutOfRange "string") ∧ ¬long ∧ '[' ∈ path := by
  -- A step may take several characters, so the induction is on the length of what is left.
  induction hn : path.length using Nat.strongRecOn generalizing path v v' with
  | ind n ih =>
      cases path with
      | nil =>
          rw [follow_nil] at hw ⊢
          cases hw
          exact Or.inl ⟨v', rfl, ha⟩
      | cons c rest =>
          rcases follow_cons_eq_ok.1 hw with ⟨s, rest', hscan, u, hu, hrest⟩
          rcases Step.scan_eq_ok hscan with ⟨hsub, helement⟩
          rw [follow_cons v', hscan]
          dsimp only
          rcases Step.takenFrom_alike ha hu with ⟨u', hu', hau⟩ | ⟨hshort, hlong, key, hkey⟩
          · have hlt : rest'.length < n := by
              have := hsub.length_le
              rw [List.length_cons] at hn
              omega
            rw [hu']
            rcases ih _ hlt hau hrest rfl with hok | ⟨hshort, hlong, hin⟩
            · exact Or.inl hok
            · exact Or.inr ⟨hshort, hlong, List.mem_cons_of_mem c (hsub.mem hin)⟩
          · -- Only a step between brackets asks for a character.
            rw [hshort]
            exact Or.inr ⟨rfl, hlong, helement key hkey ▸ List.mem_cons_self⟩

end

namespace Placeholders

variable {p q : Placeholders} {path : List Char}

/-- The text that a path starts from. -/
def start? (p : Placeholders) (path : List Char) : Option String :=
  p.get? (String.ofList (path.takeWhile (!endsName ·)))

/-- The path starts from a shorter text than for other placeholders. -/
def ShorterAt (p q : Placeholders) (path : List Char) : Prop :=
  ∃ s s', p.start? path = some s ∧ q.start? path = some s' ∧ s.length < s'.length

theorem exists_start? {s : String} (hs : q.start? path = some s) :
    ∃ s', p.start? path = some s' := by
  unfold start? get? at hs ⊢
  split at hs
  · exact ⟨_, rfl⟩
  · exact ⟨_, rfl⟩
  · cases hs

theorem find_of_start {s : String}
    (hposition : wholeNumber? (path.takeWhile (!endsName ·)) = .ok none)
    (hname : (path.takeWhile (!endsName ·)).isEmpty = false) (hs : p.start? path = some s) :
    p.find path = follow (.text s.toList) (path.dropWhile (!endsName ·)) := by
  rw [start?] at hs
  simp [find, hposition, hname, hs]

theorem start_of_find {w : Operand} (hw : q.find path = .ok w) :
    wholeNumber? (path.takeWhile (!endsName ·)) = .ok none ∧
      (path.takeWhile (!endsName ·)).isEmpty = false ∧ ∃ s, q.start? path = some s := by
  unfold find at hw
  dsimp only at hw
  split at hw
  · cases hw
  · cases hw
  · rename_i hposition
    split at hw
    · cases hw
    · rename_i hname
      split at hw
      · cases hw
      · rename_i s hs
        exact ⟨hposition, by simpa using hname, s, hs⟩

theorem find_alike {w : Operand} (hw : q.find path = .ok w) :
    (∃ w', p.find path = .ok w' ∧ w.Alike False w') ∨
      p.find path = .error (.indexOutOfRange "string") ∧ '[' ∈ path ∧ p.ShorterAt q path := by
  rcases start_of_find hw with ⟨hposition, hname, s, hs⟩
  rcases exists_start? (p := p) hs with ⟨s', hs'⟩
  rw [find_of_start hposition hname hs] at hw
  rw [find_of_start hposition hname hs']
  have ha : (Operand.text s.toList).Alike (s.length ≤ s'.length) (.text s'.toList) :=
    .text fun hle => by rwa [String.length_toList, String.length_toList]
  rcases follow_alike ha hw with ⟨w', hw', haw⟩ | ⟨hshort, hlong, hin⟩
  · exact Or.inl ⟨w', hw', haw.weaken False.elim⟩
  · exact Or.inr ⟨hshort, (List.dropWhile_sublist _).mem hin, s', s, hs', hs,
      Nat.lt_of_not_le hlong⟩

/-- A path without steps leads to the text of its name. -/
theorem find_whole {word : List Char} {s : String} (hs : p.get? (String.ofList word) = some s) :
    p.find word = .ok (.text s.toList) := by
  have hword : word = "alias".toList ∨ word = "name".toList := by
    unfold get? at hs
    split at hs
    · rename_i halias
      exact Or.inl (by rw [← halias, String.toList_ofList])
    · rename_i hname
      exact Or.inr (by rw [← hname, String.toList_ofList])
    · cases hs
  have hends : word.takeWhile (!endsName ·) = word ∧ word.dropWhile (!endsName ·) = [] := by
    rcases hword with rfl | rfl
    · decide
    · decide
  have hposition : wholeNumber? (word.takeWhile (!endsName ·)) = .ok none := by
    rcases hword with rfl | rfl
    · cbv
    · cbv
  have hname : (word.takeWhile (!endsName ·)).isEmpty = false := by
    rcases hword with rfl | rfl
    · decide
    · decide
  have hstart : p.start? word = some s := by
    rw [start?, hends.1, hs]
  rw [find_of_start hposition hname hstart, hends.2, follow_nil]

end Placeholders

end Template
end PartitionKeys
