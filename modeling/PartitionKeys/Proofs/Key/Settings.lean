import PartitionKeys.Proofs.Bindings.Validation
import PartitionKeys.Proofs.Key.KeyRing

/-!
# Settings — what of the settings reaches which keys

Settings are two like halves, one for each category, and a template for both.  Each half passes
through a record of fields, where the partition attribute falls back on the id attribute and the
mapper is looked up, and comes out as the bindings of all keys of its category.

* `CategorySettings.toBindings`: the bindings that the settings of a category stand for;
* `Settings.ofCategory_bindings`: the bindings that settings have for a category;
* `KeyRing.collection_congr`: the keys of a category, by the bindings of that category alone;
* `KeyRing.bindings_of_settings`: no setting of one category reaches a key of the other.
-/

namespace PartitionKeys

/-! ## Settings of a category -/

namespace CategorySettings

/-- The partition attribute set, else the id attribute unless it is empty. -/
def partition (s : CategorySettings) : String :=
  s.partitionAttribute.getD (if s.idAttribute = "" then "id" else s.idAttribute)

def toBindings (s : CategorySettings) (m : StateMapper) : CategoryBindings where
  idAttribute := s.idAttribute
  scheduleAttribute := s.scheduleAttribute
  lastExecutionAttribute := s.lastExecutionAttribute
  partitionAttribute := s.partition
  stateAttribute := s.stateAttribute
  stateMapper := m

end CategorySettings

namespace Settings

variable {w : World} {s : CategorySettings}

/-- The settings of a category; a type that takes no part needs none. -/
def ofCategory (s : Settings) : Category → CategorySettings
  | .jobTrigger => s.trigger
  | .jobInstance => s.instances
  | .neither => {}

theorem givenPartition_bindingFields (s : CategorySettings) :
    CategoryBindings.givenPartition (bindingFields s) = .text s.partition := by
  have hpartition : (bindingFields s).get? "partition_attribute" =
      some (Value.ofText? s.partitionAttribute) := rfl
  have hid : (bindingFields s).get? "id_attribute" = some (.text s.idAttribute) := rfl
  unfold CategoryBindings.givenPartition CategoryBindings.standingPartition
    CategorySettings.partition
  rw [hpartition, hid]
  cases s.partitionAttribute with
  | some p => rfl
  | none =>
      by_cases hempty : s.idAttribute = ""
      · simp [Value.ofText?, Value.isNull, Value.isTruthy, hempty]
      · simp [Value.ofText?, Value.isNull, Value.isTruthy, hempty]

/-- All attributes are texts, so only the mapper can fail. -/
theorem ofFields_bindingFields {m : StateMapper} (hm : w.resolve (.text s.stateMapping) = .ok m) :
    CategoryBindings.ofFields w (bindingFields s) = .accepted (s.toBindings m) := by
  have htexts : CategoryBindings.attributeValues (bindingFields s)
      (CategoryBindings.givenPartition (bindingFields s)) = (s.toBindings m).attributeTexts := by
    rw [givenPartition_bindingFields]
    rfl
  exact CategoryBindings.ofFields_texts hm htexts

theorem ofFields_bindingFields_eq_ok {b : CategoryBindings} :
    (CategoryBindings.ofFields w (bindingFields s)).toExcept = .ok b ↔
      ∃ m, w.resolve (.text s.stateMapping) = .ok m ∧ s.toBindings m = b := by
  cases hresolve : w.resolve (.text s.stateMapping) with
  | ok m =>
      rw [ofFields_bindingFields hresolve]
      show Except.ok (s.toBindings m) = Except.ok b ↔ _
      simp only [Except.ok.injEq, exists_eq_left']
  | error f =>
      rw [CategoryBindings.ofFields_error hresolve]
      -- A mapper that is refused and one that is given up at both leave no bindings.
      cases hf : f.isRefusal with
      | true => simp [Checked.toExcept]
      | false => simp [Checked.toExcept]

theorem ofCategory_bindings {s : Settings} {b : AttributeBindings} (hb : s.bindings w = .ok b)
    {category : Category} (hcat : category ≠ .neither) :
    ∃ m, w.resolve (.text (s.ofCategory category).stateMapping) = .ok m ∧
      b.ofCategory category = (s.ofCategory category).toBindings m := by
  unfold bindings at hb
  cases htrigger : (CategoryBindings.ofFields w (bindingFields s.trigger)).toExcept with
  | error f =>
      simp [htrigger] at hb
  | ok trigger =>
      cases hinstances : (CategoryBindings.ofFields w (bindingFields s.instances)).toExcept with
      | error f =>
          simp [htrigger, hinstances] at hb
      | ok instances =>
          have hboth : AttributeBindings.mk trigger instances = b := by
            simpa [htrigger, hinstances] using hb
          subst hboth
          cases category with
          | jobTrigger =>
              rcases ofFields_bindingFields_eq_ok.1 htrigger with ⟨m, hm, rfl⟩
              exact ⟨m, hm, rfl⟩
          | jobInstance =>
              rcases ofFields_bindingFields_eq_ok.1 hinstances with ⟨m, hm, rfl⟩
              exact ⟨m, hm, rfl⟩
          | neither =>
              exact absurd rfl hcat

end Settings

/-! ## Keys by settings -/

namespace KeyRing

variable {w : World} {catalog : Option (Traced Listing)} {s s' : Settings} {category : Category}
  {b b' : AttributeBindings} {template : String} {ring ring' : KeyRing} {k : PartitionKey}

theorem ofSettings_eq_ok :
    (ofSettings w catalog s).result = .ok ring ↔
      ∃ b, s.bindings w = .ok b ∧
        (ofCatalog catalog b s.predicateTemplate).result = .ok ring := by
  unfold ofSettings
  rw [Traced.result_bind_eq_ok]
  rfl

/-- The entries that keys are made from do not depend on bindings. -/
theorem exists_entries_of_ofCatalog (hring : (ofCatalog catalog b template).result = .ok ring) :
    ∃ h entries, ofEntries h b template entries = ring ∧
      ∀ b' ring', (ofCatalog catalog b' template).result = .ok ring' →
        ofEntries h b' template entries = ring' := by
  rcases exists_listing_of_ofCatalog hring with ⟨listing, l, c, rfl, hl, hc, hentries⟩
  refine ⟨l.hierarchy, c.entries, hentries, ?_⟩
  intro b' ring' hring'
  rcases (ofCatalog_eq_ok hl).1 hring' with ⟨c', hc', _, hentries'⟩
  cases hc.symm.trans hc'
  exact hentries'

theorem bindings_of_mem_ofEntries {h : Hierarchy} {entries : List Coverage.Entry}
    (hcat : category ≠ .neither) (hk : k ∈ (ofEntries h b template entries).collection category) :
    k.bindings = b.ofCategory category := by
  rw [collection_eq_keysOf h b template entries hcat, keysOf, List.mem_mergeSort] at hk
  rcases List.mem_map.1 hk with ⟨e, _, rfl⟩
  rfl

theorem bindings_of_mem_collection (hring : (ofCatalog catalog b template).result = .ok ring)
    (hcat : category ≠ .neither) (hk : k ∈ ring.collection category) :
    k.bindings = b.ofCategory category := by
  rcases exists_entries_of_ofCatalog hring with ⟨h, entries, rfl, _⟩
  exact bindings_of_mem_ofEntries hcat hk

/-- Of the bindings only those of a category matter for its keys. -/
theorem collection_congr (hring : (ofCatalog catalog b template).result = .ok ring)
    (hring' : (ofCatalog catalog b' template).result = .ok ring')
    (hb : b'.ofCategory category = b.ofCategory category) :
    ring'.collection category = ring.collection category := by
  rcases exists_entries_of_ofCatalog hring with ⟨h, entries, rfl, hsame⟩
  have hring' : ofEntries h b' template entries = ring' := hsame b' ring' hring'
  subst hring'
  by_cases hcat : category = .neither
  · subst hcat
    rfl
  · rw [collection_eq_keysOf h b template entries hcat,
      collection_eq_keysOf h b' template entries hcat, hb]

/-- The keys of a category carry the settings of that category, with the mapper that its mapping
resolves to; and two settings that agree on them and on the template give it the same keys,
whatever the other category is set to. -/
theorem bindings_of_settings (hring : (ofSettings w catalog s).result = .ok ring) :
    (∀ category, category ≠ .neither →
      ∃ m, w.resolve (.text (s.ofCategory category).stateMapping) = .ok m ∧
        ∀ k ∈ ring.collection category, k.bindings = (s.ofCategory category).toBindings m) ∧
    ∀ s' ring', (ofSettings w catalog s').result = .ok ring' →
      s'.predicateTemplate = s.predicateTemplate →
        ∀ category, s'.ofCategory category = s.ofCategory category →
          ring'.collection category = ring.collection category := by
  rcases ofSettings_eq_ok.1 hring with ⟨b, hb, hkeys⟩
  refine ⟨?_, ?_⟩
  · intro category hcat
    rcases Settings.ofCategory_bindings hb hcat with ⟨m, hm, hbindings⟩
    refine ⟨m, hm, ?_⟩
    intro k hk
    rw [bindings_of_mem_collection hkeys hcat hk, hbindings]
  · intro s' ring' hring' htemplate category hagree
    rcases ofSettings_eq_ok.1 hring' with ⟨b', hb', hkeys'⟩
    have hsame : b'.ofCategory category = b.ofCategory category := by
      by_cases hcat : category = .neither
      · subst hcat
        rfl
      · -- Both mappers are resolved from the one mapping.
        rcases Settings.ofCategory_bindings hb hcat with ⟨m, hm, hbindings⟩
        rcases Settings.ofCategory_bindings hb' hcat with ⟨m', hm', hbindings'⟩
        rw [hagree, hm] at hm'
        cases hm'
        rw [hbindings, hbindings', hagree]
    rw [htemplate] at hkeys'
    exact collection_congr hkeys hkeys' hsame

/-- Triggers without an id attribute, stored by ordinal, and instances with a shard. -/
def shardSettings : Settings where
  trigger := { idAttribute := "", stateMapping := "ordinal" }
  instances := { idAttribute := "runId", partitionAttribute := some "shard" }

/-- Settings that have bindings give keys to the notices. -/
theorem exists_ofSettings_notices {s : Settings} {b : AttributeBindings}
    (hb : s.bindings World.standard = .ok b) (ht : s.predicateTemplate = Template.default) :
    ∃ ring, (ofSettings World.standard
      (some (Traced.done ⟨Coverage.notices, Coverage.noticesListed⟩)) s).result = .ok ring := by
  refine ⟨ofEntries Coverage.notices b s.predicateTemplate Coverage.noticesCoverage.entries,
    ofSettings_eq_ok.2 ⟨b, hb, (ofCatalog_eq_ok rfl).2 ⟨_, Coverage.ofCatalog_notices, ?_, rfl⟩⟩⟩
  rw [ht]
  exact check_default

/-- The triggers of the notices fall back on the conventional id, and stay as they are when the
instances lose their shard. -/
theorem bindings_of_settings_notices :
    ∃ ring ring',
      (ofSettings World.standard (some (Traced.done ⟨Coverage.notices, Coverage.noticesListed⟩))
        shardSettings).result = .ok ring ∧
      (ofSettings World.standard (some (Traced.done ⟨Coverage.notices, Coverage.noticesListed⟩))
        { shardSettings with instances := {} }).result = .ok ring' ∧
      (∀ k ∈ ring.triggers, k.bindings.idAttribute = "" ∧ k.bindings.partitionAttribute = "id" ∧
        k.bindings.stateMapper = .ordinal) ∧
      (∀ k ∈ ring.instances, k.bindings.partitionAttribute = "shard" ∧
        k.bindings.stateMapper = .identity) ∧
      ring'.triggers = ring.triggers := by
  rcases exists_ofSettings_notices (s := shardSettings) rfl rfl with ⟨ring, hring⟩
  rcases exists_ofSettings_notices (s := { shardSettings with instances := {} }) rfl rfl with
    ⟨ring', hring'⟩
  rcases bindings_of_settings hring with ⟨hkeys, hsame⟩
  rcases hkeys .jobTrigger (by decide) with ⟨m, hm, htriggers⟩
  rcases hkeys .jobInstance (by decide) with ⟨m', hm', hinstances⟩
  cases hm
  cases hm'
  refine ⟨ring, ring', hring, hring', ?_, ?_, hsame _ ring' hring' rfl .jobTrigger rfl⟩
  · intro k hk
    rw [htriggers k hk]
    exact ⟨rfl, rfl, rfl⟩
  · intro k hk
    rw [hinstances k hk]
    exact ⟨rfl, rfl⟩

end KeyRing
end PartitionKeys
