import PartitionKeys.Proofs.Template.Render
import PartitionKeys.Proofs.Text.Quoted

/-!
# Inside — what one field renders to for two names

For two type names a field may render to texts of which one stands inside the other.  Padding and
cutting, quoting, and steps of a path leave only one way for this: the name that renders to the inner
text is the shorter one.

* `FormatSpec.within_of_format`: a formatted text inside another comes from a text inside another;
* `Operand.Alike.not_long_of_within`: so do converted and formatted operands;
* `Placeholders.find_alike_name`: a path leads to alike operands from two names;
* `name_lt_of_within`: the name of the inner text is the shorter one.
-/

namespace PartitionKeys
namespace Template

/-! ## Formats -/

namespace FormatSpec

variable {fill : Char} {align : Align} {width : Nat} {precision : Option Nat}
  {spec cs cs' out out' : List Char}

theorem length_pad : (pad fill align width cs).length = max width cs.length := by
  unfold pad
  cases align with
  | left | right | center | afterSign =>
      simp only [List.length_append, List.length_replicate]
      omega

theorem infix_pad : cs <:+: pad fill align width cs :=
  ⟨_, _, rfl⟩

theorem pad_of_le (h : width ≤ cs.length) : pad fill align width cs = cs := by
  have hmissing : width - cs.length = 0 := Nat.sub_eq_zero_of_le h
  unfold pad
  cases align with
  | left | right | center | afterSign => simp [hmissing]

theorem within_of_pad (h : Within (pad fill align width cs) (pad fill align width cs')) :
    Within cs cs' := by
  -- A text inside a padded one that is longer than the width: the longer one is not padded.
  have hlen := h.2
  rw [length_pad, length_pad] at hlen
  have hbare : pad fill align width cs' = cs' := pad_of_le (by omega)
  rw [hbare] at h
  exact ⟨infix_pad.trans h.1, by omega⟩

theorem within_of_cut (h : Within (cut precision cs) (cut precision cs')) : Within cs cs' := by
  cases precision with
  | none =>
      exact h
  | some n =>
      have hlen : (cs.take n).length < (cs'.take n).length := h.2
      rw [List.length_take, List.length_take] at hlen
      have hwhole : cut (some n) cs = cs := List.take_of_length_le (by omega)
      rw [hwhole] at h
      exact h.trans_infix (List.take_prefix n cs').isInfix

theorem within_of_format (h : format spec cs = .ok out) (h' : format spec cs' = .ok out')
    (hin : Within out out') : Within cs cs' := by
  rcases format_eq_ok.1 h with ⟨hempty, rfl⟩ | ⟨hempty, read, hread, _, _, rfl⟩
  · rcases format_eq_ok.1 h' with ⟨_, rfl⟩ | ⟨hfull, _⟩
    · exact hin
    · simp [hempty] at hfull
  · rcases format_eq_ok.1 h' with ⟨hempty', _⟩ | ⟨_, read', hread', _, _, rfl⟩
    · simp [hempty] at hempty'
    · cases hread.symm.trans hread'
      exact within_of_cut (within_of_pad hin)

end FormatSpec

/-! ## Conversions -/

section

variable {long : Prop} {v v' w w' : Operand} {mark : Option Char} {format out out' : List Char}

/-- What a mark does is the same for all operands. -/
theorem convert_cases (mark : Option Char) :
    (∀ v, convert mark v = .ok v) ∨ (∀ v, convert mark v = .ok (.text v.shown)) ∨
      (∀ v, convert mark v = .ok (.text v.written.toList)) ∨
      (∀ v, convert mark v = .ok (.text (Quoted.ascii v.written).toList)) ∨
      ∃ e, ∀ v, convert mark v = .error e := by
  unfold convert
  split
  · exact Or.inl fun v => rfl
  · exact Or.inr (Or.inl fun v => rfl)
  · exact Or.inr (Or.inr (Or.inl fun v => rfl))
  · exact Or.inr (Or.inr (Or.inr (Or.inl fun v => rfl)))
  · rename_i c _ _ _
    by_cases hc : c.toNat = 0
    · exact Or.inl fun v => if_pos hc
    · exact Or.inr (Or.inr (Or.inr (Or.inr ⟨.unknownConversion c, fun v => if_neg hc⟩)))

theorem formatOperand_bound {kind : String} {m : Member}
    (h : formatOperand format (.bound v kind m) = .ok out) :
    out = (Operand.bound v kind m).shown := by
  unfold formatOperand at h
  dsimp only at h
  split at h
  · cases h
    rfl
  · cases h

/-- A text stays as it is or is quoted, in one way or another. -/
theorem convert_text_cases (mark : Option Char) :
    (∀ cs, convert mark (.text cs) = .ok (.text cs)) ∨
      (∃ plain, ∀ cs, convert mark (.text cs) =
        .ok (.text (Quoted.encode plain (String.ofList cs)).toList)) ∨
      ∃ e, ∀ cs, convert mark (.text cs) = .error e := by
  rcases convert_cases mark with hall | hall | hall | hall | ⟨e, hall⟩
  · exact Or.inl fun cs => hall (.text cs)
  · exact Or.inl fun cs => hall (.text cs)
  · exact Or.inr (Or.inl ⟨CharSet.printable.contains, fun cs => hall (.text cs)⟩)
  · refine Or.inr (Or.inl ⟨Quoted.printableAscii, ?_⟩)
    intro cs
    rw [hall, ← Quoted.ascii_text]
    rfl
  · exact Or.inr (Or.inr ⟨e, fun cs => hall (.text cs)⟩)

theorem length_lt_of_within_text {cs cs' : List Char} (hw : convert mark (.text cs) = .ok w)
    (hw' : convert mark (.text cs') = .ok w') (hout : formatOperand format w = .ok out)
    (hout' : formatOperand format w' = .ok out') (hin : Within out out') :
    cs.length < cs'.length := by
  rcases convert_text_cases mark with hall | ⟨plain, hall⟩ | ⟨e, hall⟩
  · rw [hall] at hw hw'
    cases hw
    cases hw'
    exact (FormatSpec.within_of_format hout hout' hin).2
  · rw [hall] at hw hw'
    cases hw
    cases hw'
    have hlt := Quoted.length_lt_of_within (FormatSpec.within_of_format hout hout' hin)
    rwa [String.length_ofList, String.length_ofList] at hlt
  · rw [hall] at hw
    cases hw

/-- Different texts are converted to different texts. -/
theorem eq_of_convert_text {cs cs' : List Char} (hw : convert mark (.text cs) = .ok w)
    (hw' : convert mark (.text cs') = .ok w) : cs = cs' := by
  rcases convert_text_cases mark with hall | ⟨plain, hall⟩ | ⟨e, hall⟩
  · rw [hall] at hw hw'
    exact Operand.text.inj (Except.ok.inj (hw.trans hw'.symm))
  · rw [hall] at hw hw'
    have hquoted := Operand.text.inj (Except.ok.inj (hw.trans hw'.symm))
    exact String.ofList_injective (Quoted.encode_injective plain (String.toList_inj.1 hquoted))
  · rw [hall] at hw
    cases hw

theorem exists_text_of_convert {cs : List Char} (hw : convert mark (.text cs) = .ok w) :
    ∃ out, w = .text out := by
  rcases convert_text_cases mark with hall | ⟨plain, hall⟩ | ⟨e, hall⟩
  · rw [hall] at hw
    exact ⟨_, (Except.ok.inj hw).symm⟩
  · rw [hall] at hw
    exact ⟨_, (Except.ok.inj hw).symm⟩
  · rw [hall] at hw
    cases hw

/-- Bound members are told with the kind of their value and nothing else of it. -/
theorem eq_of_bound {kind : String} {m : Member} (ha : v'.Alike long v)
    (hw : convert mark (.bound v kind m) = .ok w) (hw' : convert mark (.bound v' kind m) = .ok w')
    (hout : formatOperand format w = .ok out) (hout' : formatOperand format w' = .ok out') :
    out = out' := by
  have hwritten : (Operand.bound v kind m).written = (Operand.bound v' kind m).written := by
    simp only [Operand.written, ha.kindOf_eq]
  have hshown : (Operand.bound v kind m).shown = (Operand.bound v' kind m).shown := by
    simp only [Operand.shown, hwritten]
  -- Unless it stays as it is, the operand is converted to a text, and that is one for both.
  have hboth : w = w' → out = out' := by
    rintro rfl
    exact Except.ok.inj (hout.symm.trans hout')
  rcases convert_cases mark with hall | hall | hall | hall | ⟨e, hall⟩
  · rw [hall] at hw hw'
    cases hw
    cases hw'
    rw [formatOperand_bound hout, formatOperand_bound hout', hshown]
  · rw [hall, Except.ok.injEq] at hw hw'
    exact hboth (by rw [← hw, ← hw', hshown])
  · rw [hall, Except.ok.injEq] at hw hw'
    exact hboth (by rw [← hw, ← hw', hwritten])
  · rw [hall, Except.ok.injEq] at hw hw'
    exact hboth (by rw [← hw, ← hw', hwritten])
  · rw [hall] at hw
    cases hw

/-- Of alike operands the first does not render to a text inside the other's if it is no longer. -/
theorem Operand.Alike.not_long_of_within (ha : v'.Alike long v) (hw : convert mark v = .ok w)
    (hw' : convert mark v' = .ok w') (hout : formatOperand format w = .ok out)
    (hout' : formatOperand format w' = .ok out') (hin : Within out out') : ¬long := by
  cases ha with
  | same =>
      cases hw.symm.trans hw'
      cases hout.symm.trans hout'
      exact absurd hin (Within.irrefl out)
  | bound kind m ha =>
      have hsame : out = out' := eq_of_bound ha hw hw' hout hout'
      exact absurd (hsame ▸ hin) (Within.irrefl out)
  | text hlen =>
      intro hlong
      exact Nat.not_lt.2 (hlen hlong) (length_lt_of_within_text hw hw' hout hout' hin)

end

/-! ## Fields -/

section

variable {queryAlias n n' : String} {path out out' : List Char} {f : Field} {v v' : Operand}
  {nested nested' : List Char → Except Fault (List Char)}

/-- The name that a path begins with. -/
def rootOf (path : List Char) : String :=
  String.ofList (path.takeWhile (!endsName ·))

theorem Placeholders.start?_of_root_eq (hroot : rootOf path = "name") :
    Placeholders.start? ⟨queryAlias, n⟩ path = some n := by
  show Placeholders.get? ⟨queryAlias, n⟩ (rootOf path) = some n
  rw [hroot]
  rfl

/-- A path starts from the same text for placeholders that agree on the one it begins with. -/
theorem Placeholders.start?_congr {p q : Placeholders}
    (halias : rootOf path = "alias" → p.queryAlias = q.queryAlias)
    (hname : rootOf path = "name" → p.name = q.name) : p.start? path = q.start? path := by
  show p.get? (rootOf path) = q.get? (rootOf path)
  unfold Placeholders.get?
  split
  · rw [halias ‹_›]
  · rw [hname ‹_›]
  · rfl

theorem Placeholders.find_alike_name
    (hv : Placeholders.find ⟨queryAlias, n⟩ path = .ok v)
    (hv' : Placeholders.find ⟨queryAlias, n'⟩ path = .ok v') :
    v'.Alike (n'.length ≤ n.length) v := by
  rcases start_of_find hv with ⟨hposition, hname, s, hs⟩
  rcases start_of_find hv' with ⟨_, _, s', hs'⟩
  rw [find_of_start hposition hname hs] at hv
  rw [find_of_start hposition hname hs'] at hv'
  have ha : (Operand.text s'.toList).Alike (n'.length ≤ n.length) (.text s.toList) := by
    by_cases hroot : rootOf path = "name"
    · rw [start?_of_root_eq hroot] at hs hs'
      cases hs
      cases hs'
      exact .text fun hle => by rwa [String.length_toList, String.length_toList]
    · -- Other paths start from one text in both.
      have hstart : start? ⟨queryAlias, n⟩ path = start? ⟨queryAlias, n'⟩ path :=
        start?_congr (fun _ => rfl) fun h => absurd h hroot
      rw [hstart, hs'] at hs
      cases hs
      exact .same _
  rcases follow_alike ha hv' with ⟨w, hw, haw⟩ | ⟨hshort, _, _⟩
  · cases hv.symm.trans hw
    exact haw
  · cases hv.symm.trans hshort

/-- The format may have been rendered for each name on its own, as long as it is the same. -/
theorem name_lt_of_within (hformat : f.nests = true → nested f.format = nested' f.format)
    (hout : renderField nested ⟨queryAlias, n⟩ f = .ok out)
    (hout' : renderField nested' ⟨queryAlias, n'⟩ f = .ok out') (hin : Within out out') :
    n.length < n'.length := by
  rcases renderField_eq_ok.1 hout with ⟨v, hv, w, hw, format, hf, hcs⟩
  rcases renderField_eq_ok.1 hout' with ⟨v', hv', w', hw', format', hf', hcs'⟩
  have hsame : format = format' := by
    by_cases hnests : f.nests = true
    · rw [if_pos hnests] at hf hf'
      rw [hformat hnests, hf'] at hf
      exact (Except.ok.inj hf).symm
    · rw [if_neg hnests] at hf hf'
      exact Except.ok.inj (hf.symm.trans hf')
  subst hsame
  have ha := Placeholders.find_alike_name hv hv'
  exact Nat.lt_of_not_le (ha.not_long_of_within hw hw' hcs hcs' hin)

end

end Template
end PartitionKeys
