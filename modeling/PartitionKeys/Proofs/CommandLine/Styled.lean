import PartitionKeys.CommandLine.Styled

/-!
# Styled — lines keep the styles of their text

However a text is cut, filled up and put together, a line has no style that the text did not have.

* `Styled.styles`: the styles that stand on a text;
* `Styled.styles_wrap`: those of its lines.
-/

namespace PartitionKeys
namespace Styled

variable {s t : Styled} {width : Nat} {folding : Bool} {found : List String}

def styles (s : Styled) : List String :=
  s.spans.map (·.style)

theorem styles_subset_of_spans (h : ∀ p ∈ t.spans, ∃ q ∈ s.spans, q.style = p.style) :
    t.styles ⊆ s.styles := by
  intro style hstyle
  rcases List.mem_map.1 hstyle with ⟨p, hp, rfl⟩
  exact List.mem_map.2 (h p hp)

/-! ## Parts -/

theorem styles_slice (first last : Nat) : (s.slice first last).styles ⊆ s.styles := by
  apply styles_subset_of_spans
  intro p hp
  rcases List.mem_filterMap.1 hp with ⟨q, hq, hspan⟩
  dsimp only at hspan
  split at hspan
  · cases hspan
    exact ⟨q, hq, rfl⟩
  · cases hspan

theorem styles_slicesFrom {first : Nat} {positions : List Nat}
    (ht : t ∈ s.slicesFrom first positions) : t.styles ⊆ s.styles := by
  induction positions generalizing first with
  | nil =>
      rw [slicesFrom, List.mem_singleton] at ht
      exact ht ▸ styles_slice _ _
  | cons last rest ih =>
      rw [slicesFrom, List.mem_cons] at ht
      rcases ht with rfl | ht
      · exact styles_slice _ _
      · exact ih ht

theorem styles_divide {positions : List Nat} (ht : t ∈ s.divide positions) :
    t.styles ⊆ s.styles := by
  unfold divide at ht
  split at ht
  · rw [List.mem_singleton] at ht
    exact ht ▸ List.Subset.refl _
  · exact styles_slicesFrom ht

theorem styles_crop (length : Nat) : (s.crop length).styles ⊆ s.styles := by
  apply styles_subset_of_spans
  intro p hp
  rcases List.mem_filterMap.1 hp with ⟨q, hq, hspan⟩
  split at hspan
  · cases hspan
    exact ⟨q, hq, rfl⟩
  · cases hspan

/-! ## Line feeds and tabs -/

theorem styles_linesFrom {first : Nat} {parts : List (List Char)}
    (ht : t ∈ s.linesFrom first parts) : t.styles ⊆ s.styles := by
  induction parts generalizing first with
  | nil =>
      cases ht
  | cons line rest ih =>
      rw [linesFrom, List.mem_cons] at ht
      rcases ht with rfl | ht
      · exact styles_slice _ _
      · exact ih ht

theorem styles_lines (ht : t ∈ s.lines) : t.styles ⊆ s.styles := by
  unfold lines at ht
  split at ht
  · exact styles_linesFrom ht
  · rw [List.mem_singleton] at ht
    exact ht ▸ List.Subset.refl _

theorem styles_extended (spaces : Nat) : (s.extended spaces).styles ⊆ s.styles := by
  apply styles_subset_of_spans
  intro p hp
  rcases List.mem_map.1 hp with ⟨q, hq, rfl⟩
  refine ⟨q, hq, ?_⟩
  split
  · rfl
  · rfl

theorem styles_append (hs : s.styles ⊆ found) (ht : t.styles ⊆ found) :
    (s.append t).styles ⊆ found := by
  intro style hstyle
  rcases List.mem_map.1 hstyle with ⟨p, hp, rfl⟩
  rcases List.mem_append.1 hp with hp | hp
  · exact hs (List.mem_map_of_mem hp)
  · rcases List.mem_map.1 hp with ⟨q, hq, rfl⟩
    exact ht (List.mem_map.2 ⟨q, hq, rfl⟩)

theorem styles_expandFrom {done : Styled} {column : Nat} {parts : List Styled}
    (hdone : done.styles ⊆ found) (hparts : ∀ t ∈ parts, t.styles ⊆ found) :
    (expandFrom done column parts).styles ⊆ found := by
  induction parts generalizing done column with
  | nil =>
      exact hdone
  | cons part rest ih =>
      rw [List.forall_mem_cons] at hparts
      rw [expandFrom]
      split
      · exact ih (styles_append hdone (List.Subset.trans (styles_extended _) hparts.1)) hparts.2
      · exact ih (styles_append hdone hparts.1) hparts.2

theorem styles_expandTabs : s.expandTabs.styles ⊆ s.styles := by
  unfold expandTabs
  split
  · exact styles_expandFrom (List.nil_subset _) fun t ht => styles_divide ht
  · exact List.Subset.refl _

/-! ## Lines of a width -/

theorem styles_trimmed : (s.trimmed width).styles ⊆ s.styles := by
  unfold trimmed
  dsimp only
  split
  · exact List.Subset.refl _
  · exact styles_crop _

theorem styles_fitted : (s.fitted width folding).styles ⊆ s.styles := by
  unfold fitted
  dsimp only
  split
  · exact styles_crop _
  · split
    · exact List.Subset.refl _
    · exact List.Subset.refl _

theorem styles_wrap (ht : t ∈ s.wrap width folding) : t.styles ⊆ s.styles := by
  rcases List.mem_flatMap.1 ht with ⟨line, hline, ht⟩
  rcases List.mem_map.1 ht with ⟨part, hpart, rfl⟩
  have hline : line.expandTabs.styles ⊆ s.styles :=
    List.Subset.trans styles_expandTabs (styles_lines hline)
  have hpart : part.styles ⊆ s.styles := List.Subset.trans (styles_divide hpart) hline
  exact List.Subset.trans styles_fitted (List.Subset.trans styles_trimmed hpart)

end Styled
end PartitionKeys
