import PartitionKeys.Proofs.Key.KeyRing

/-!
# Selection — every participant is polled by exactly one key

A query of a key with a predicate returns the rows of its representative alone; without one it
returns the rows of every participant under the representative.

* `PartitionKey.Selects`: the types whose rows a query of a key returns;
* `PartitionKey.selects_keyFor_iff`: a key of a catalog selects its representative only;
* `KeyRing.exactly_one_key_selects`: each participant is selected by the key of its name alone.
-/

namespace PartitionKeys
namespace PartitionKey

/-- A key speaks of the listed type of its name. -/
def Selects (k : PartitionKey) (h : Hierarchy) (catalog : List TypeId) (t : TypeId) : Prop :=
  ∃ r ∈ catalog, h.name r = k.name ∧
    if k.predicate.isSome then t = r
    else t ∈ catalog ∧ h.isConcreteParticipant t = true ∧ h.Under catalog t r

variable {h : Hierarchy} {catalog : List TypeId} {c : Coverage} {b : AttributeBindings}
  {template : String} {r t : TypeId}

theorem selects_keyFor_iff (hc : (Coverage.ofCatalog h catalog).result = .ok c)
    (hr : r ∈ catalog) (hp : h.isConcreteParticipant r = true) :
    (h.keyFor catalog b template r).Selects h catalog t ↔ t = r := by
  constructor
  · rintro ⟨r', hr', hname, hsel⟩
    have hsame : r' = r := Coverage.name_injective hc hr' hr hname
    subst hsame
    rw [Hierarchy.keyFor_predicate hp] at hsel
    by_cases hbelow : h.below catalog r' = []
    · simp only [hbelow, if_true, Option.isSome_none, Bool.false_eq_true, if_false] at hsel
      rcases hsel with ⟨ht, hpt, hu⟩
      by_contra htr
      -- Another participant under the representative would have given the key a predicate.
      have hmem : t ∈ h.below catalog r' :=
        Hierarchy.mem_below.2 ⟨ht, hpt, htr, hu.resolve_left htr⟩
      rw [hbelow] at hmem
      cases hmem
    · simpa [hbelow] using hsel
  · rintro rfl
    refine ⟨t, hr, rfl, ?_⟩
    split
    · rfl
    · exact ⟨hr, hp, Hierarchy.Under.refl t⟩

end PartitionKey

namespace KeyRing

variable {h : Hierarchy} {catalog : List TypeId} {c : Coverage} {b : AttributeBindings}
  {template : String} {ring : KeyRing} {t : TypeId}

/-- Names single out the places of keys. -/
theorem name_ne_of_keys_eq (hc : (Coverage.ofCatalog h catalog).result = .ok c)
    {front back : List PartitionKey} {k other : PartitionKey}
    (hkeys : (ofEntries h b template c.entries).keys = front ++ k :: back)
    (hother : other ∈ front ++ back) : other.name ≠ k.name := by
  have hnames : ((ofEntries h b template c.entries).keys.map (·.name)).Nodup :=
    keys_names_nodup hc
  rw [hkeys, List.map_append, List.map_cons, List.nodup_middle, List.nodup_cons,
    ← List.map_append] at hnames
  intro hsame
  apply hnames.1
  rw [← hsame]
  exact List.mem_map_of_mem hother

/-- Each concrete participant is selected by one key in one place: the key of its name, among the
keys of its category. -/
theorem exactly_one_key_selects {listing : Traced Listing} {l : Listing}
    (hl : listing.result = .ok l)
    (hring : (ofCatalog (some listing) b template).result = .ok ring) (ht : t ∈ l.types)
    (hp : l.hierarchy.isConcreteParticipant t = true) :
    ∃ front k back, ring.keys = front ++ k :: back ∧
      k.Selects l.hierarchy l.types t ∧ k.name = l.hierarchy.name t ∧
      k ∈ ring.collection (l.hierarchy.category t) ∧
      ∀ other ∈ front ++ back,
        ¬other.Selects l.hierarchy l.types t ∧ other.name ≠ l.hierarchy.name t := by
  rcases (ofCatalog_eq_ok hl).1 hring with ⟨c, hc, _, rfl⟩
  rcases Hierarchy.isConcreteParticipant_iff.1 hp with ⟨ha, hcat⟩
  have hown : l.hierarchy.keyFor l.types b template t ∈
      (ofEntries l.hierarchy b template c.entries).keys :=
    (mem_keys_iff hc).2 ⟨t, ht, hp, rfl⟩
  rcases List.append_of_mem hown with ⟨front, back, hkeys⟩
  refine ⟨front, _, back, hkeys, (PartitionKey.selects_keyFor_iff hc ht hp).2 rfl, rfl,
    (mem_collection_iff hc hcat).2 ⟨t, Hierarchy.mem_concrete.2 ⟨ht, ha, rfl⟩, rfl⟩, ?_⟩
  intro other hother
  have hname : other.name ≠ l.hierarchy.name t := name_ne_of_keys_eq hc hkeys hother
  have hmem : other ∈ (ofEntries l.hierarchy b template c.entries).keys := by
    rw [hkeys, List.mem_append, List.mem_cons]
    rcases List.mem_append.1 hother with hf | hb
    · exact Or.inl hf
    · exact Or.inr (Or.inr hb)
  refine ⟨?_, hname⟩
  intro hsel
  -- A key selects its own representative only, so this one would have the name of `t`.
  rcases (mem_keys_iff hc).1 hmem with ⟨r, hr, hpr, rfl⟩
  rw [(PartitionKey.selects_keyFor_iff hc hr hpr).1 hsel] at hname
  exact hname rfl

/-- The base of the jobs and the trigger above hold digests too; only their own key selects them. -/
theorem exactly_one_key_selects_digest :
    (ofCatalog (some (Traced.done ⟨Coverage.notices, Coverage.noticesListed⟩)) {}
      Template.default).result = .ok noticesRing ∧
    3 ∈ Coverage.noticesListed ∧ Coverage.notices.isConcreteParticipant 3 = true ∧
    ∃ front k back, noticesRing.keys = front ++ k :: back ∧
      k.Selects Coverage.notices Coverage.noticesListed 3 ∧ k.name = "Digest" ∧
      k ∈ noticesRing.triggers ∧
      ∀ other ∈ front ++ back,
        ¬other.Selects Coverage.notices Coverage.noticesListed 3 ∧ other.name ≠ "Digest" := by
  have hlisted : 3 ∈ Coverage.noticesListed := by decide
  have hp : Coverage.notices.isConcreteParticipant 3 = true := by decide
  exact ⟨ofCatalog_notices, hlisted, hp,
    exactly_one_key_selects rfl ofCatalog_notices hlisted hp⟩

end KeyRing
end PartitionKeys
