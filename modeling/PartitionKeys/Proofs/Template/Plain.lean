import PartitionKeys.Proofs.Template.Check
import PartitionKeys.Proofs.Template.Telling

/-!
# Plain — templates of literal text and bare placeholders

In a plain template every field is a placeholder and nothing else, and every brace of the text is
doubled.  Reading one gives back its parts, whatever braces stand next to its fields, and rendering
puts the parts together, whatever is in the alias and the name.

* `Plain`: a plain template by its parts, with `Plain.source` as its text;
* `Plain.scan_source`: its text is read as its parts;
* `Plain.render_source`: rendering is substitution;
* `Plain.infix_substituted_iff`: where the sample alias stands in the sample rendering;
* `Predicate.fragment_of_plain`: which plain templates are accepted, and their fragments.
-/

namespace PartitionKeys
namespace Template

/-! ## Parts -/

/-- A placeholder that stands alone between its braces. -/
inductive Slot where
  | queryAlias
  | typeName
  deriving DecidableEq, Repr

namespace Slot

def word : Slot → List Char
  | .queryAlias => "alias".toList
  | .typeName => "name".toList

def source (s : Slot) : List Char :=
  '{' :: (s.word ++ ['}'])

def value (p : Placeholders) : Slot → List Char
  | .queryAlias => p.queryAlias.toList
  | .typeName => p.name.toList

end Slot

/-- A run of literal text, or a run with a placeholder and more of a template after it. -/
inductive Plain where
  | run (literal : List Char)
  | slot (literal : List Char) (s : Slot) (rest : Plain)
  deriving DecidableEq, Repr

namespace Plain

def doubledChar (c : Char) : List Char :=
  if c = '{' ∨ c = '}' then [c, c] else [c]

/-- Literal text as a template has it. -/
def doubled (literal : List Char) : List Char :=
  literal.flatMap doubledChar

def chars : Plain → List Char
  | .run literal => doubled literal
  | .slot literal s rest => doubled literal ++ (s.source ++ rest.chars)

/-- The template itself. -/
def source (t : Plain) : String :=
  String.ofList t.chars

def slots : Plain → List Slot
  | .run _ => []
  | .slot _ s rest => s :: rest.slots

/-- The literal runs, without doubling; those between two placeholders may be empty. -/
def runs : Plain → List (List Char)
  | .run literal => [literal]
  | .slot literal _ rest => literal :: rest.runs

/-- Each placeholder replaced by its value. -/
def substituted (p : Placeholders) : Plain → List Char
  | .run literal => literal
  | .slot literal s rest => literal ++ (s.value p ++ rest.substituted p)

def pieces : Plain → List Piece
  | .run literal => literal.map .literal
  | .slot literal s rest => literal.map .literal ++ .field { path := s.word } :: rest.pieces

/-! ## Reading -/

theorem ofChars_doubledChar (c : Char) (tail : List Char) :
    Scan.ofChars (doubledChar c ++ tail) = Scan.cons (.literal c) (Scan.ofChars tail) := by
  unfold doubledChar
  by_cases hopen : c = '{'
  · subst hopen
    show Scan.ofChars ('{' :: '{' :: tail) = _
    rw [Scan.ofChars]
  · by_cases hclose : c = '}'
    · subst hclose
      show Scan.ofChars ('}' :: '}' :: tail) = _
      rw [Scan.ofChars]
    · rw [if_neg (by simp [hopen, hclose])]
      show Scan.ofChars (c :: tail) = _
      rw [Scan.ofChars]
      all_goals simp [hopen, hclose]

/-- Literal text is read as it was before doubling, even if a field follows it at once. -/
theorem ofChars_doubled (literal tail : List Char) :
    Scan.ofChars (doubled literal ++ tail) =
      ⟨literal.map .literal ++ (Scan.ofChars tail).pieces, (Scan.ofChars tail).fault⟩ := by
  induction literal with
  | nil =>
      rfl
  | cons c literal ih =>
      have hsplit : doubled (c :: literal) ++ tail =
          doubledChar c ++ (doubled literal ++ tail) := by
        rw [doubled, List.flatMap_cons, List.append_assoc]
        rfl
      rw [hsplit, ofChars_doubledChar, ih]
      rfl

theorem ofChars_field {c : Char} {f : Field} {cs tail : List Char} (hc : c ≠ '{')
    (hf : Field.scan? (c :: cs) = .ok (f, tail)) :
    Scan.ofChars ('{' :: c :: cs) = Scan.cons (.field f) (Scan.ofChars tail) := by
  rw [Scan.ofChars]
  -- Of the equations of a scan this is the one for a brace that is neither doubled nor the last.
  · split
    · rename_i he
      simp [hf] at he
    · rename_i he
      rw [hf] at he
      cases he
      rfl
  · simpa using hc
  · simp

theorem ofChars_slot (s : Slot) (tail : List Char) :
    Scan.ofChars (s.source ++ tail) =
      Scan.cons (.field { path := s.word }) (Scan.ofChars tail) := by
  cases s with
  | queryAlias => exact ofChars_field (by decide) rfl
  | typeName => exact ofChars_field (by decide) rfl

theorem scan_source (t : Plain) : Scan.ofChars t.source.toList = ⟨t.pieces, none⟩ := by
  rw [source, String.toList_ofList]
  -- A part is read whatever follows it, so the parts can be taken from the front.
  induction t with
  | run literal =>
      have hend := ofChars_doubled literal []
      rwa [List.append_nil, Scan.ofChars, Scan.empty, List.append_nil] at hend
  | slot literal s rest ih =>
      rw [chars, ofChars_doubled, ofChars_slot, ih]
      rfl

/-! ## Rendering -/

section

variable {nested : List Char → Except Fault (List Char)} {p : Placeholders}

theorem renderField_slot (s : Slot) :
    renderField nested p { path := s.word } = .ok (s.value p) := by
  have hfind : p.find s.word = .ok (.text (s.value p)) := by
    cases s with
    | queryAlias => exact Placeholders.find_whole rfl
    | typeName => exact Placeholders.find_whole rfl
  exact renderField_eq_ok.2 ⟨_, hfind, _, rfl, [], rfl, rfl⟩

theorem renderPieces_literals_append {literal cs : List Char} {ps : List Piece}
    (h : renderPieces nested p ps = .ok cs) :
    renderPieces nested p (literal.map .literal ++ ps) = .ok (literal ++ cs) := by
  induction literal with
  | nil =>
      exact h
  | cons c literal ih =>
      exact renderPieces_cons_eq_ok.2 ⟨[c], rfl, literal ++ cs, ih, rfl⟩

theorem renderPieces_pieces (t : Plain) :
    renderPieces nested p t.pieces = .ok (t.substituted p) := by
  induction t with
  | run literal =>
      exact renderPieces_literals nested p literal
  | slot literal s rest ih =>
      exact renderPieces_literals_append
        (renderPieces_cons_eq_ok.2 ⟨s.value p, renderField_slot s, _, ih, rfl⟩)

theorem render_source (t : Plain) (p : Placeholders) :
    render t.source p = .ok (String.ofList (t.substituted p)) := by
  have hscan : renderTo p maxDepth t.source.toList = .ok (t.substituted p) := by
    show renderScan (renderTo p 1) p (Scan.ofChars t.source.toList) = _
    rw [scan_source]
    exact renderScan_eq_ok.2 ⟨renderPieces_pieces t, rfl⟩
  rw [render, hscan]
  rfl

end

/-! ## The sample alias -/

/-- The sample alias reaches neither into nor across the sample name. -/
theorem infix_sampleName_iff {front back : List Char} :
    sample.queryAlias.toList <:+: front ++ (sample.name.toList ++ back) ↔
      sample.queryAlias.toList <:+: front ∨ sample.queryAlias.toList <:+: back := by
  have hname : sample.name.toList ++ back = 'S' :: ("ampl".toList ++ 'e' :: back) := rfl
  have hinside : ¬sample.queryAlias.toList <:+: "ampl".toList := by
    intro h
    exact absurd h.length_le (by decide)
  rw [hname, infix_append_cons_iff (by decide), infix_append_cons_iff (by decide)]
  simp only [hinside, false_or]

theorem infix_substituted_iff (t : Plain) :
    sample.queryAlias.toList <:+: t.substituted sample ↔
      .queryAlias ∈ t.slots ∨ ∃ literal ∈ t.runs, sample.queryAlias.toList <:+: literal := by
  induction t with
  | run literal =>
      simp [substituted, slots, runs]
  | slot literal s rest ih =>
      rw [substituted, slots, runs, List.exists_mem_cons_iff]
      cases s with
      | queryAlias =>
          refine iff_of_true ?_ (Or.inl List.mem_cons_self)
          exact ⟨literal, rest.substituted sample, List.append_assoc _ _ _⟩
      | typeName =>
          have hslot : Slot.queryAlias ∈ .typeName :: rest.slots ↔ .queryAlias ∈ rest.slots := by
            simp
          show _ <:+: literal ++ (sample.name.toList ++ rest.substituted sample) ↔ _
          rw [infix_sampleName_iff, ih, hslot]
          exact or_left_comm

end Plain
end Template

namespace Predicate

open Template in
/-- A plain template is accepted exactly if it has a field of the alias, or the sample alias in one
run of its text.  Its fragments are its text with the fields replaced, nothing of what they are
replaced by being read as a template again. -/
theorem fragment_of_plain (t : Plain) :
    (check t.source = .ok () ↔
      .queryAlias ∈ t.slots ∨ ∃ literal ∈ t.runs, "__alias__".toList <:+: literal) ∧
    ∀ name queryAlias, fragment ⟨name, t.source⟩ queryAlias =
      .ok (String.ofList (t.substituted ⟨queryAlias, name⟩)) := by
  constructor
  · rw [check_eq_ok_iff]
    simp only [Plain.render_source, Except.ok.injEq, exists_eq_left', String.toList_ofList]
    exact Plain.infix_substituted_iff t
  · intro name queryAlias
    exact Plain.render_source t ⟨queryAlias, name⟩

/-- A doubled brace before a field, and an alias that looks like a field. -/
example : fragment ⟨"Mail", "\x7b\x7b\x7balias\x7d\x7d\x7d"⟩ "\x7bname\x7d" =
    .ok "\x7b\x7bname\x7d\x7d" := by
  cbv

end Predicate
end PartitionKeys
