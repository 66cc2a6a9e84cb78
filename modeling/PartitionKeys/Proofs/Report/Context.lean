import PartitionKeys.Proofs.Value.Fields
import PartitionKeys.Report.Context

/-!
# Context — what a context shows after entries have been added

Three names of a context are attributes, every other entry is metadata, and both are shown together.
Adding under any name that is not a standing one goes to the one place or the other, so the last
entry of a name is the one that is shown and the rest stays as it was.

* `Context.Plain`: contexts as they are made, with the metadata they hold;
* `Context.Extends`: a context after entries have been added;
* `Context.putAll_extends`: entries can always be added, except under a standing name;
* `Context.Extends.get?_of_given`, `Context.Extends.get?_of_not_given`: what is shown then.
-/

namespace PartitionKeys
namespace Context

variable {c c' c'' : Context} {entries entries' entries'' given more : Fields} {key : String}
  {value : Value}

/-! ## Attributes and metadata -/

def attributes (c : Context) : Fields :=
  [("type_name", c.typeName), ("supertype", c.supertype), ("setting", c.setting)]

def attributeNames : List String :=
  ["type_name", "supertype", "setting"]

/-- The metadata is a record of entries, and nothing has been put under a standing name. -/
structure Plain (c : Context) (entries : Fields) : Prop where
  metadata : c.metadata = some (.record entries)
  others : c.others = []
  distinct : entries.Distinct

theorem distinct_attributes (c : Context) : c.attributes.Distinct := by
  have hnames : attributeNames.Nodup := by
    decide
  exact hnames

theorem get?_attributes_eq_none (hkey : key ∉ attributeNames) : c.attributes.get? key = none :=
  Fields.get?_eq_none hkey

theorem plain_default : Plain {} [] :=
  ⟨rfl, rfl, List.nodup_nil⟩

/-- A context is made from no names but its own. -/
theorem mem_entryNames_of_check {names : List String} (h : signature.check 1 names = none) :
    ∀ n ∈ names, n ∈ entryNames := by
  intro n hn
  have hname : signature.nameFault? 1 n = none := by
    unfold Signature.check at h
    split at h
    · cases h
    · rename_i hnone
      exact List.findSome?_eq_none_iff.1 hnone n hn
  unfold Signature.nameFault? at hname
  split at hname
  · cases hname
  · rename_i htaken
    split at hname
    · rename_i hknown
      have hself : n ≠ "self" := by
        simpa [signature] using htaken
      have hmem : n = "self" ∨ n ∈ entryNames := by
        simpa [signature] using hknown
      exact hmem.resolve_left hself
    · cases hname

/-- A context is made plain from a record of metadata, or without metadata. -/
theorem plain_of_ofFields {fields : Fields} (h : ofFields fields = .ok c)
    (hmetadata : (fields.get? "metadata").getD (.record []) = .record entries)
    (hdistinct : entries.Distinct) : c.Plain entries := by
  unfold ofFields at h
  split at h
  · cases h
  · rename_i hcheck
    cases h
    refine ⟨congrArg some hmetadata, ?_, hdistinct⟩
    refine List.filter_eq_nil_iff.2 fun e he => ?_
    have hmem : e.1 ∈ entryNames := mem_entryNames_of_check hcheck e.1 (List.mem_map_of_mem he)
    simpa using hmem

/-! ## Rendering -/

theorem Plain.rendered (h : c.Plain entries) : c.rendered = .ok (c.named.putAll entries) := by
  unfold Context.rendered
  rw [h.others, h.metadata]
  cases entries with
  | nil => rfl
  | cons e rest => rfl

/-- Metadata hides an attribute of its name, and an attribute that is null is not shown. -/
theorem Plain.get?_rendered (h : c.Plain entries) (key : String) :
    (c.named.putAll entries).get? key =
      (entries.get? key).or ((c.attributes.get? key).filter fun v => !v.isNull) := by
  have hnamed : c.named.get? key = (c.attributes.get? key).filter fun v => !v.isNull :=
    (distinct_attributes c).get?_filter (fun v => !v.isNull) key
  rw [Fields.get?_putAll, h.distinct.last?_eq, hnamed]

/-! ## Adding entries -/

/-- The attributes and the metadata have the last of the entries given, each under its names. -/
structure Extends (c c' : Context) (entries entries' given : Fields) : Prop where
  plain : c'.Plain entries'
  named : ∀ key ∈ attributeNames,
    c'.attributes.get? key = (given.last? key).or (c.attributes.get? key) ∧
      entries'.get? key = entries.get? key
  metadata : ∀ key ∉ attributeNames,
    entries'.get? key = (given.last? key).or (entries.get? key)

theorem Plain.extends_refl (h : c.Plain entries) : Extends c c entries entries [] :=
  ⟨h, fun _ _ => ⟨rfl, rfl⟩, fun _ _ => rfl⟩

theorem Extends.trans (h : Extends c c' entries entries' given)
    (h' : Extends c' c'' entries' entries'' more) :
    Extends c c'' entries entries'' (given ++ more) := by
  refine ⟨h'.plain, ?_, ?_⟩
  · intro key hkey
    refine ⟨?_, (h'.named key hkey).2.trans (h.named key hkey).2⟩
    rw [(h'.named key hkey).1, (h.named key hkey).1, Fields.last?_append, Option.or_assoc]
  · intro key hkey
    rw [h'.metadata key hkey, h.metadata key hkey, Fields.last?_append, Option.or_assoc]

theorem put_attribute (hc : c.Plain entries) (hkey : key ∈ attributeNames) (value : Value) :
    ∃ c', c.put key value = .ok c' ∧ Extends c c' entries entries [(key, value)] := by
  have hother (name : String) (hname : name ∉ attributeNames) :
      Fields.last? [(key, value)] name = none :=
    Fields.last?_singleton_of_ne fun heq => hname (heq ▸ hkey)
  have hput : ∃ c', c.put key value = .ok c' ∧ c'.attributes = c.attributes.put key value ∧
      c'.Plain entries := by
    simp only [attributeNames, List.mem_cons, List.not_mem_nil, or_false] at hkey
    rcases hkey with rfl | rfl | rfl
    · exact ⟨{ c with typeName := value }, rfl, rfl, hc.metadata, hc.others, hc.distinct⟩
    · exact ⟨{ c with supertype := value }, rfl, rfl, hc.metadata, hc.others, hc.distinct⟩
    · exact ⟨{ c with setting := value }, rfl, rfl, hc.metadata, hc.others, hc.distinct⟩
  rcases hput with ⟨c', hput, hattributes, hplain⟩
  refine ⟨c', hput, hplain, ?_, ?_⟩
  · intro name _
    rw [hattributes, Fields.get?_put]
    exact ⟨rfl, rfl⟩
  · intro name hname
    rw [hother name hname, Option.none_or]

theorem put_metadata (hc : c.Plain entries) (hkey : key ∉ attributeNames)
    (hstanding : key ∉ standingNames) (value : Value) :
    ∃ c', c.put key value = .ok c' ∧
      Extends c c' entries (entries.put key value) [(key, value)] := by
  have hput : c.put key value = c.putMetadata key value := by
    simp only [attributeNames, List.mem_cons, List.not_mem_nil, or_false, not_or] at hkey
    have hfree : (standingNames.contains key || (c.others.get? key).isSome) = false := by
      simp [hstanding, hc.others, Fields.get?]
    unfold put
    split
    · exact absurd rfl hkey.1
    · exact absurd rfl hkey.2.1
    · exact absurd rfl hkey.2.2
    · simp only [hfree, Bool.false_eq_true, if_false]
  have hadded : c.putMetadata key value =
      .ok { c with metadata := some (.record (entries.put key value)) } := by
    simp only [putMetadata, hc.metadata]
  refine ⟨_, hput.trans hadded, ⟨rfl, hc.others, hc.distinct.put key value⟩, ?_, ?_⟩
  · intro name hname
    have hne : name ≠ key := fun heq => hkey (heq ▸ hname)
    rw [Fields.last?_singleton_of_ne hne, Option.none_or, Fields.get?_put_of_ne hne]
    exact ⟨rfl, rfl⟩
  · intro name _
    exact Fields.get?_put entries key value name

theorem put_extends (hc : c.Plain entries) (hstanding : key ∉ standingNames) (value : Value) :
    ∃ c' entries', c.put key value = .ok c' ∧ Extends c c' entries entries' [(key, value)] := by
  by_cases hkey : key ∈ attributeNames
  · rcases put_attribute hc hkey value with ⟨c', hput, hextends⟩
    exact ⟨c', entries, hput, hextends⟩
  · rcases put_metadata hc hkey hstanding value with ⟨c', hput, hextends⟩
    exact ⟨c', entries.put key value, hput, hextends⟩

/-- Every run of entries can be added, one after another, if none has a standing name. -/
theorem putAll_extends (hc : c.Plain entries) (hgiven : ∀ e ∈ given, e.1 ∉ standingNames) :
    ∃ c' entries', c.putAll given = .ok c' ∧ Extends c c' entries entries' given := by
  -- One entry after another; each leaves the context plain, which is all that the next one needs.
  induction given generalizing c entries with
  | nil => exact ⟨c, entries, rfl, hc.extends_refl⟩
  | cons e rest ih =>
      rcases put_extends hc (hgiven e List.mem_cons_self) e.2 with ⟨c₁, entries₁, hput, hstep⟩
      have hrest : ∀ e ∈ rest, e.1 ∉ standingNames :=
        fun e he => hgiven e (List.mem_cons_of_mem _ he)
      rcases ih hstep.plain hrest with ⟨c₂, entries₂, hputAll, hrun⟩
      refine ⟨c₂, entries₂, ?_, hstep.trans hrun⟩
      simp only [putAll, hput, hputAll]

/-! ## What is shown -/

/-- Under a name with entries the last of them is shown, except that null hides an attribute and
that metadata which stood under the name of an attribute from the start hides it too. -/
theorem Extends.get?_of_given (h : Extends c c' entries entries' given)
    (hgiven : given.last? key = some value) :
    (key ∉ attributeNames → (c'.named.putAll entries').get? key = some value) ∧
      (key ∈ attributeNames → entries.get? key = none →
        (c'.named.putAll entries').get? key = if value.isNull then none else some value) := by
  rw [h.plain.get?_rendered]
  refine ⟨?_, ?_⟩
  · intro hkey
    rw [h.metadata key hkey, hgiven]
    rfl
  · intro hkey hnone
    rw [(h.named key hkey).2, hnone, (h.named key hkey).1, hgiven]
    cases hnull : value.isNull with
    | true => simp [Option.filter, hnull]
    | false => simp [Option.filter, hnull]

/-- Under a name without entries the same is shown as before. -/
theorem Extends.get?_of_not_given (hc : c.Plain entries)
    (h : Extends c c' entries entries' given) (hgiven : given.last? key = none) :
    (c'.named.putAll entries').get? key = (c.named.putAll entries).get? key := by
  rw [h.plain.get?_rendered, hc.get?_rendered]
  by_cases hkey : key ∈ attributeNames
  · rw [(h.named key hkey).2, (h.named key hkey).1, hgiven, Option.none_or]
  · rw [h.metadata key hkey, hgiven, Option.none_or, get?_attributes_eq_none hkey,
      get?_attributes_eq_none hkey]

end Context
end PartitionKeys
