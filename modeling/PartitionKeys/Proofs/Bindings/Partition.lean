import PartitionKeys.Proofs.Bindings.Validation
import PartitionKeys.Proofs.Key.Settings

/-!
# Partition — the partition attribute follows the id attribute

A category without a partition attribute of its own is partitioned by its id attribute, whether its
bindings are read from a record or asked for by settings, and its keys carry both names along.  An
id attribute that is given but empty is the one exception: the conventional id takes its place as
the partition attribute, while it stays empty itself.

* `CategoryBindings.PartitionFollows`: how the partition attribute stands to the one asked for;
* `CategoryBindings.partitionFollows_of_accepted`: bindings read from a record;
* `KeyRing.partition_falls_back`: records, settings and keys.
-/

namespace PartitionKeys

/-! ## Bindings of one category -/

namespace CategoryBindings

variable {w : World} {fields : Fields} {b : CategoryBindings} {given : Option String}

structure PartitionFollows (b : CategoryBindings) (given : Option String) : Prop where
  own : ∀ p, given = some p → b.partitionAttribute = p
  id : given = none → b.idAttribute ≠ "" → b.partitionAttribute = b.idAttribute
  conventional : given = none → b.idAttribute = "" → b.partitionAttribute = "id"

theorem partitionFollows_of_eq
    (h : b.partitionAttribute = given.getD (if b.idAttribute = "" then "id" else b.idAttribute)) :
    b.PartitionFollows given := by
  cases given with
  | some p =>
      refine ⟨?_, nofun, nofun⟩
      rintro q ⟨⟩
      exact h
  | none =>
      refine ⟨nofun, fun _ hid => ?_, fun _ hid => ?_⟩
      · simpa [hid] using h
      · simpa [hid] using h

theorem eq_null_of_isNull {v : Value} (h : v.isNull = true) : v = .null := by
  cases v with
  | null => rfl
  | _ => cases h

theorem isTruthy_text_iff {s : String} : (Value.text s).isTruthy = true ↔ s ≠ "" := by
  simp [Value.isTruthy]

/-- A record gives null, or nothing, or the partition attribute that its bindings have. -/
theorem partitionFollows_of_accepted (h : ofValue w (.record fields) = .accepted b) :
    ∃ given, (fields.get? "partition_attribute").getD .null = Value.ofText? given ∧
      b.PartitionFollows given := by
  cases ofValue_eq_iff.1 h with
  | accepted hmapper hp htexts =>
      rename_i p
      rcases attributeValues_eq_iff.1 htexts with ⟨hid, _, _, hpartition, _⟩
      cases hp with
      | partition hgiven hsome =>
          subst hpartition
          exact ⟨some b.partitionAttribute, by simp [hgiven, Value.ofText?],
            partitionFollows_of_eq rfl⟩
      | id hnone hgiven htrue =>
          have hsame : b.partitionAttribute = b.idAttribute := by
            simpa [hgiven, hpartition] using hid
          have hsome : b.idAttribute ≠ "" := by
            rw [hpartition, isTruthy_text_iff, hsame] at htrue
            exact htrue
          refine ⟨none, eq_null_of_isNull hnone, partitionFollows_of_eq ?_⟩
          simpa [hsome] using hsame
      | conventional hnone hfalse =>
          have hconventional : b.partitionAttribute = "id" := by
            simpa using hpartition.symm
          have hid : b.idAttribute = "" ∨ b.idAttribute = "id" := by
            cases hgiven : fields.get? "id_attribute" with
            | none =>
                exact Or.inr (by simpa [hgiven] using hid.symm)
            | some v =>
                -- A text that counts as false is empty.
                have hv : v = .text b.idAttribute := by
                  simpa [hgiven] using hid
                have hfalsy : (Value.text b.idAttribute).isTruthy = false := hv ▸ hfalse v hgiven
                by_contra hne
                have htrue := isTruthy_text_iff.2 (not_or.1 hne).1
                exact absurd (hfalsy.symm.trans htrue) (by simp)
          refine ⟨none, eq_null_of_isNull hnone, partitionFollows_of_eq ?_⟩
          rcases hid with hempty | hid
          · simpa [hempty] using hconventional
          · simpa [hid] using hconventional

end CategoryBindings

/-! ## Bindings of both categories -/

namespace AttributeBindings

variable {w : World} {fields : Fields} {b : AttributeBindings} {category : Category}

/-- The record in which the bindings of a category are given; without one there is nothing. -/
def given (fields : Fields) (category : Category) : Fields :=
  match fields.get? category.value with
  | some (.record own) => own
  | _ => []

theorem partitionFollows_of_part {c : CategoryBindings}
    (hpart : PartOutcome w fields category.value (.accepted c)) :
    ∃ asked, ((given fields category).get? "partition_attribute").getD .null =
      Value.ofText? asked ∧ c.PartitionFollows asked := by
  unfold given
  cases hpart with
  | missing hnone =>
      rw [hnone]
      exact ⟨none, rfl, CategoryBindings.partitionFollows_of_eq rfl⟩
  | given hsome houtcome =>
      rename_i v
      rw [hsome]
      cases v with
      | record own =>
          have haccepted : CategoryBindings.ofValue w (.record own) = .accepted c :=
            CategoryBindings.ofValue_eq_iff.2 houtcome
          exact CategoryBindings.partitionFollows_of_accepted haccepted
      | _ => cases houtcome

theorem partitionFollows_of_accepted (h : ofValue w (.record fields) = .accepted b)
    (hcat : category ≠ .neither) :
    ∃ asked, ((given fields category).get? "partition_attribute").getD .null =
      Value.ofText? asked ∧ (b.ofCategory category).PartitionFollows asked := by
  have houtcome : Outcome w (.record fields) (.accepted b) := h ▸ outcome_ofValue_record w fields
  cases houtcome with
  | accepted htrigger hinstances =>
      cases category with
      | jobTrigger => exact partitionFollows_of_part htrigger
      | jobInstance => exact partitionFollows_of_part hinstances
      | neither => exact absurd rfl hcat

end AttributeBindings

theorem Settings.partitionFollows_of_bindings {w : World} {s : Settings} {b : AttributeBindings}
    {category : Category} (hb : s.bindings w = .ok b) (hcat : category ≠ .neither) :
    (b.ofCategory category).PartitionFollows (s.ofCategory category).partitionAttribute := by
  rcases Settings.ofCategory_bindings hb hcat with ⟨m, _, hbindings⟩
  rw [hbindings]
  exact CategoryBindings.partitionFollows_of_eq rfl

/-! ## Keys -/

namespace KeyRing

/-- Where a record or settings ask for a partition attribute, the bindings and all keys of that
category have it, and where they do not, it is the id attribute.  An empty id attribute is not taken
for one: then it is the conventional id. -/
theorem partition_falls_back (w : World) :
    (∀ (fields : Fields) b, CategoryBindings.ofValue w (.record fields) = .accepted b →
      ∃ asked, (fields.get? "partition_attribute").getD .null = Value.ofText? asked ∧
        b.PartitionFollows asked) ∧
    (∀ (s : Settings) b, s.bindings w = .ok b → ∀ category, category ≠ .neither →
      (b.ofCategory category).PartitionFollows (s.ofCategory category).partitionAttribute) ∧
    (∀ catalog s ring, (ofSettings w catalog s).result = .ok ring →
      ∀ category, category ≠ .neither → ∀ k ∈ ring.collection category,
        k.bindings.PartitionFollows (s.ofCategory category).partitionAttribute) ∧
    ∀ fields b, AttributeBindings.ofValue w (.record fields) = .accepted b →
      ∀ category, category ≠ .neither → ∃ asked,
        ((AttributeBindings.given fields category).get? "partition_attribute").getD .null =
          Value.ofText? asked ∧
        (b.ofCategory category).PartitionFollows asked ∧
        (∀ catalog template ring, (ofCatalog catalog b template).result = .ok ring →
          ∀ k ∈ ring.collection category, k.bindings.PartitionFollows asked) ∧
        ∀ h template c ring, (ofCoverage h (some b) template c).result = .ok ring →
          ∀ k ∈ ring.collection category, k.bindings.PartitionFollows asked := by
  refine ⟨fun fields b => CategoryBindings.partitionFollows_of_accepted,
    fun s b hb category => Settings.partitionFollows_of_bindings hb, ?_, ?_⟩
  · intro catalog s ring hring category hcat k hk
    rcases ofSettings_eq_ok.1 hring with ⟨b, hb, hkeys⟩
    rw [bindings_of_mem_collection hkeys hcat hk]
    exact Settings.partitionFollows_of_bindings hb hcat
  · intro fields b hb category hcat
    rcases AttributeBindings.partitionFollows_of_accepted hb hcat with ⟨asked, hasked, hfollows⟩
    refine ⟨asked, hasked, hfollows, ?_, ?_⟩
    · intro catalog template ring hring k hk
      rw [bindings_of_mem_collection hring hcat hk]
      exact hfollows
    · intro h template c ring hring k hk
      rcases ofCoverage_eq_ok.1 hring with ⟨b', hb', _, rfl⟩
      cases hb'
      rw [bindings_of_mem_ofEntries hcat hk]
      exact hfollows

/-- Triggers stored under their own id, and instances with a shard. -/
def shardFields : Fields :=
  [ ("trigger", .record [("id_attribute", .text "uuid"), ("partition_attribute", .null)]),
    ("instance", .record [("id_attribute", .text "runId"), ("partition_attribute", .text "shard")]) ]

def shardBindings : AttributeBindings where
  trigger := { idAttribute := "uuid", partitionAttribute := "uuid" }
  instances := { idAttribute := "runId", partitionAttribute := "shard" }

/-- The trigger keys of the notices follow the id attribute, and the instance keys the shard. -/
theorem partition_falls_back_notices :
    ∃ ring,
      AttributeBindings.ofValue World.standard (.record shardFields) = .accepted shardBindings ∧
      (ofCatalog (some (Traced.done ⟨Coverage.notices, Coverage.noticesListed⟩)) shardBindings
        Template.default).result = .ok ring ∧
      (∀ k ∈ ring.triggers, k.bindings.PartitionFollows none) ∧
      ∀ k ∈ ring.instances, k.bindings.partitionAttribute = "shard" := by
  have haccepted : AttributeBindings.ofValue World.standard (.record shardFields) =
      .accepted shardBindings := rfl
  have hring : (ofCatalog (some (Traced.done ⟨Coverage.notices, Coverage.noticesListed⟩))
      shardBindings Template.default).result =
      .ok (ofEntries Coverage.notices shardBindings Template.default
        Coverage.noticesCoverage.entries) :=
    (ofCatalog_eq_ok rfl).2 ⟨_, Coverage.ofCatalog_notices, check_default, rfl⟩
  have hfollows := (partition_falls_back World.standard).2.2.2 shardFields shardBindings haccepted
  refine ⟨_, haccepted, hring, ?_, ?_⟩
  · rcases hfollows .jobTrigger (by decide) with ⟨asked, hasked, _, hkeys, _⟩
    cases asked with
    | none => exact hkeys _ _ _ hring
    | some p => cases hasked
  · rcases hfollows .jobInstance (by decide) with ⟨asked, hasked, _, hkeys, _⟩
    cases asked with
    | none => cases hasked
    | some p =>
        have hp : some p = some "shard" := by
          cases hasked
          rfl
        intro k hk
        exact (hkeys _ _ _ hring k hk).own "shard" hp

/-- An empty id attribute is not followed. -/
theorem partition_of_empty_id :
    ∃ b, CategoryBindings.ofValue World.standard (.record [("id_attribute", .text "")]) =
        .accepted b ∧
      b.idAttribute = "" ∧ b.partitionAttribute = "id" :=
  ⟨_, rfl, rfl, rfl⟩

end KeyRing
end PartitionKeys
