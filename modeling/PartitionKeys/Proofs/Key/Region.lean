import PartitionKeys.Proofs.Key.KeyRing

/-!
# Region — whose rows a key without a predicate returns

Coverage starts from the participants of a catalog, so a key is narrowed for their rows only.  A
concrete type that takes no part may stand below a participant and is not kept out.

* `KeyRing.below_eq_nil_of_predicate`: without a predicate no other participant is below;
* `KeyRing.neither_of_reaches_plain`: what else is below takes no part;
* `KeyRing.plain_key_with_bystander`: such a type can be there.
-/

namespace PartitionKeys
namespace KeyRing

variable {h : Hierarchy} {catalog : List TypeId} {c : Coverage} {b : AttributeBindings}
  {template : String} {ring : KeyRing}

theorem below_eq_nil_of_predicate (hc : (Coverage.ofCatalog h catalog).result = .ok c)
    {k : PartitionKey} (hk : k ∈ (ofEntries h b template c.entries).keys)
    (hplain : k.predicate = none) :
    ∃ r ∈ catalog, h.name r = k.name ∧ h.below catalog r = [] := by
  rcases (mem_keys_iff hc).1 hk with ⟨r, hr, hp, rfl⟩
  refine ⟨r, hr, rfl, ?_⟩
  by_contra hbelow
  exact (Hierarchy.keyFor_predicate_ne_none_iff hp).2 hbelow hplain

/-- Below the representative of a key without a predicate stands no other concrete participant: the
other concrete types that reach it take no part. -/
theorem neither_of_reaches_plain {listing : Traced Listing} {l : Listing}
    (hl : listing.result = .ok l)
    (hring : (ofCatalog (some listing) b template).result = .ok ring) :
    ∀ k ∈ ring.keys, k.predicate = none →
      ∃ r, (∀ u, u ∈ l.types ∧ l.hierarchy.name u = k.name ↔ u = r) ∧
        ∀ t ∈ l.types, l.hierarchy.isAbstract t = false → t ≠ r →
          l.hierarchy.Reaches l.types t r → l.hierarchy.category t = .neither := by
  rcases (ofCatalog_eq_ok hl).1 hring with ⟨c, hc, _, rfl⟩
  intro k hk hplain
  rcases below_eq_nil_of_predicate hc hk hplain with ⟨r, hr, hname, hbelow⟩
  refine ⟨r, ?_, ?_⟩
  · intro u
    constructor
    · rintro ⟨hu, hn⟩
      exact Coverage.name_injective hc hu hr (hn.trans hname.symm)
    · rintro rfl
      exact ⟨hr, hname⟩
  · intro t ht ha hne hreach
    -- A participant here would be below the representative.
    by_contra hcat
    have hp : l.hierarchy.isConcreteParticipant t = true :=
      Hierarchy.isConcreteParticipant_iff.2 ⟨ha, hcat⟩
    have hmem : t ∈ l.hierarchy.below l.types r := Hierarchy.mem_below.2 ⟨ht, hp, hne, hreach⟩
    rw [hbelow] at hmem
    cases hmem

/-- A concrete type that takes no part, below a trigger. -/
def archive : Listing where
  hierarchy :=
    ⟨#[{ name := "Mail", category := .jobTrigger }, { name := "Archived", supertype := some 0 }]⟩
  types := [0, 1]

def archiveRing : KeyRing :=
  ofEntries archive.hierarchy {} Template.default [⟨0, [0]⟩]

theorem ofCatalog_archive :
    (ofCatalog (some (Traced.done archive)) {} Template.default).result = .ok archiveRing := by
  have hc : (Coverage.ofCatalog archive.hierarchy archive.types).result = .ok ⟨[⟨0, [0]⟩]⟩ := by
    cbv
  exact (ofCatalog_eq_ok rfl).2 ⟨_, hc, check_default, rfl⟩

/-- The key of mails has no predicate, and the one type below it takes no part. -/
theorem neither_of_reaches_plain_archive :
    (ofCatalog (some (Traced.done archive)) {} Template.default).result = .ok archiveRing ∧
    ∀ k ∈ archiveRing.keys, k.predicate = none →
      ∃ r, (∀ u, u ∈ archive.types ∧ archive.hierarchy.name u = k.name ↔ u = r) ∧
        ∀ t ∈ archive.types, archive.hierarchy.isAbstract t = false → t ≠ r →
          archive.hierarchy.Reaches archive.types t r → archive.hierarchy.category t = .neither :=
  ⟨ofCatalog_archive, neither_of_reaches_plain rfl ofCatalog_archive⟩

/-- Archived mails are rows of the region of mails, whose key has no predicate to keep them out. -/
theorem plain_key_with_bystander :
    (ofCatalog (some (Traced.done archive)) {} Template.default).result = .ok archiveRing ∧
    ¬∀ k ∈ archiveRing.keys, k.predicate = none →
      ∀ r ∈ archive.types, archive.hierarchy.name r = k.name →
        ∀ t ∈ archive.types, archive.hierarchy.isAbstract t = false → t ≠ r →
          ¬archive.hierarchy.Reaches archive.types t r := by
  refine ⟨ofCatalog_archive, ?_⟩
  intro hapart
  have hkey : PartitionKey.ofEntry archive.hierarchy {} Template.default ⟨0, [0]⟩ ∈
      archiveRing.keys := by
    simp [archiveRing, ofEntries, keysOf, keys, archive, Hierarchy.category, Hierarchy.get]
  have hstep : archive.hierarchy.Extends archive.types 1 0 := ⟨rfl, by simp [archive]⟩
  exact hapart _ hkey rfl 0 (by simp [archive]) rfl 1 (by simp [archive]) rfl (by decide)
    (hstep.reaches (Hierarchy.Under.refl 0))

end KeyRing
end PartitionKeys
