import PartitionKeys.Proofs.Key.Settings

/-!
# Entries — the keys of a coverage, entry by entry

A coverage need not be that of a catalog: its entries may cover nothing, leave out their own
representative, repeat types, and stand for abstract types or for several types of one name.  Still
each entry of a participating type has one key, which nothing but the entry decides.

* `PartitionKey.Describes`: what the key of an entry says;
* `Coverage.entriesByName`: the entries of a category in the order of its keys;
* `KeyRing.keys_entry_by_entry`: one key for each entry, in order of names and of entries.
-/

namespace PartitionKeys

/-! ## The key of one entry -/

namespace PartitionKey

variable {h h' : Hierarchy} {bindings : CategoryBindings} {template : String} {e : Coverage.Entry}
  {k k' : PartitionKey}

/-- What a key says of an entry, all of it: the covered names in their order, and a predicate
exactly if something else than the representative is covered. -/
structure Describes (h : Hierarchy) (bindings : CategoryBindings) (template : String)
    (e : Coverage.Entry) (k : PartitionKey) : Prop where
  name : k.name = h.name e.representative
  category : k.category = h.category e.representative
  bindings : k.bindings = bindings
  covered : k.covered = e.covered.map h.name
  predicate : ∀ p, k.predicate = some p ↔
    p = ⟨h.name e.representative, template⟩ ∧ ∃ t ∈ e.covered, t ≠ e.representative
  source : k.source = (h.get e.representative).source

theorem describes_ofEntry : (ofEntry h bindings template e).Describes h bindings template e where
  name := rfl
  category := rfl
  bindings := rfl
  covered := rfl
  predicate := by
    intro p
    have hshared : e.covered.any (· != e.representative) = true ↔
        ∃ t ∈ e.covered, t ≠ e.representative := by
      simp
    dsimp only [ofEntry]
    split
    · rename_i hany
      simp only [Option.some.injEq, hshared.1 hany, and_true, eq_comm]
    · rename_i hany
      simp only [reduceCtorEq, false_iff, not_and]
      exact fun _ hex => hany (hshared.2 hex)
  source := rfl

/-- Nothing is left open. -/
theorem Describes.unique (hk : k.Describes h bindings template e)
    (hk' : k'.Describes h bindings template e) : k = k' := by
  have hpredicate : k.predicate = k'.predicate := by
    ext p
    rw [hk.predicate, hk'.predicate]
  rw [mk.injEq]
  exact ⟨hk.name.trans hk'.name.symm, hk.category.trans hk'.category.symm,
    hk.bindings.trans hk'.bindings.symm, hpredicate, hk.covered.trans hk'.covered.symm,
    hk.source.trans hk'.source.symm⟩

/-- Only the types of the entry are looked at. -/
theorem Describes.congr (hk : k.Describes h bindings template e)
    (hagree : ∀ t, t = e.representative ∨ t ∈ e.covered → h'.get t = h.get t) :
    k.Describes h' bindings template e := by
  have hrepresentative : h'.get e.representative = h.get e.representative := hagree _ (Or.inl rfl)
  have hname : h'.name e.representative = h.name e.representative := by
    rw [Hierarchy.name, hrepresentative, Hierarchy.name]
  have hcovered : e.covered.map h'.name = e.covered.map h.name := by
    apply List.map_congr_left
    intro t ht
    rw [Hierarchy.name, hagree t (Or.inr ht), Hierarchy.name]
  refine ⟨hk.name.trans hname.symm, ?_, hk.bindings, hk.covered.trans hcovered.symm, ?_, ?_⟩
  · rw [hk.category, Hierarchy.category, Hierarchy.category, hrepresentative]
  · rw [hname]
    exact hk.predicate
  · rw [hk.source, hrepresentative]

end PartitionKey

/-! ## The entries of a category -/

namespace Coverage

/-- The entries whose representative is of a category, in their order. -/
def entriesOf (c : Coverage) (h : Hierarchy) (category : Category) : List Entry :=
  c.entries.filter fun e => h.category e.representative == category

/-- The same in the order of the names of the representatives. -/
def entriesByName (c : Coverage) (h : Hierarchy) (category : Category) : List Entry :=
  (c.entriesOf h category).mergeSort fun e e' =>
    decide (h.name e.representative ≤ h.name e'.representative)

variable {h : Hierarchy} {c c' : Coverage} {category : Category} {e : Entry}

theorem mem_entriesOf : e ∈ c.entriesOf h category ↔
    e ∈ c.entries ∧ h.category e.representative = category := by
  simp [entriesOf]

theorem mem_entriesByName : e ∈ c.entriesByName h category ↔ e ∈ c.entriesOf h category := by
  rw [entriesByName, List.mem_mergeSort]

/-- Representatives with names of their own leave one order. -/
theorem entriesByName_congr (hp : c'.entries.Perm c.entries)
    (hn : (c.entries.map fun e => h.name e.representative).Nodup) :
    c'.entriesByName h category = c.entriesByName h category := by
  apply sortedByName_congr (hp.filter _)
  intro e he e' he' hname
  have hlisted := hp.mem_iff.1 (List.mem_of_mem_filter he)
  have hlisted' := hp.mem_iff.1 (List.mem_of_mem_filter he')
  exact List.inj_on_of_nodup_map hn hlisted hlisted' hname

end Coverage

/-! ## The keys of a coverage -/

namespace KeyRing

variable {h : Hierarchy} {b : AttributeBindings} {template : String} {c c' : Coverage}
  {category : Category}

/-- Sorting the keys by name is sorting their entries by name. -/
theorem collection_eq_map_entries (hcat : category ≠ .neither) :
    (ofEntries h b template c.entries).collection category =
      (c.entriesByName h category).map
        (PartitionKey.ofEntry h (b.ofCategory category) template) := by
  rw [collection_eq_keysOf h b template c.entries hcat, Coverage.entriesByName,
    List.map_mergeSort]
  · rfl
  · intro e _ e' _
    rfl

theorem forall₂_entriesByName (hcat : category ≠ .neither) :
    List.Forall₂ (PartitionKey.Describes h (b.ofCategory category) template)
      (c.entriesByName h category) ((ofEntries h b template c.entries).collection category) := by
  rw [collection_eq_map_entries hcat, List.forall₂_map_right_iff, List.forall₂_same]
  intro e _
  exact PartitionKey.describes_ofEntry

theorem exists_key_of_entry (b : AttributeBindings) (template : String)
    (hcat : category ≠ .neither) {e : Coverage.Entry} (he : e ∈ c.entriesOf h category) :
    ∃ k ∈ (ofEntries h b template c.entries).collection category,
      k.Describes h (b.ofCategory category) template e := by
  rw [collection_eq_map_entries hcat]
  exact ⟨_, List.mem_map_of_mem (Coverage.mem_entriesByName.2 he), PartitionKey.describes_ofEntry⟩

theorem ofEntries_congr (hp : c'.entries.Perm c.entries)
    (hn : (c.entries.map fun e => h.name e.representative).Nodup) :
    ofEntries h b template c'.entries = ofEntries h b template c.entries := by
  have hcollection : ∀ category, category ≠ .neither →
      (ofEntries h b template c'.entries).collection category =
        (ofEntries h b template c.entries).collection category := by
    intro category hcat
    rw [collection_eq_map_entries hcat, collection_eq_map_entries hcat,
      Coverage.entriesByName_congr hp hn]
  rw [mk.injEq]
  exact ⟨hcollection .jobTrigger (by decide), hcollection .jobInstance (by decide)⟩

/-- Each entry of a participating type has one key of its category, in the order of names and, for
equal names, of entries.  Wherever else the entry stands, it has the same key there.  So entries
with names of their own give the same keys in any order. -/
theorem keys_entry_by_entry (ht : Template.check template = .ok ()) :
    ∃ ring, (ofCoverage h (some b) template c).result = .ok ring ∧
      (∀ category, category ≠ .neither →
        (∃ entries : List Coverage.Entry,
          List.Forall₂ (PartitionKey.Describes h (b.ofCategory category) template) entries
            (ring.collection category) ∧
          entries.Perm (c.entriesOf h category) ∧
          entries.Pairwise (fun e e' => h.name e.representative ≤ h.name e'.representative) ∧
          ∀ n, entries.filter (fun e => h.name e.representative = n) =
            (c.entriesOf h category).filter fun e => h.name e.representative = n) ∧
        ∀ h' b' c' ring', (ofCoverage h' (some b') template c').result = .ok ring' →
          b'.ofCategory category = b.ofCategory category →
            ∀ e ∈ c.entriesOf h category, e ∈ c'.entries →
              (∀ t, t = e.representative ∨ t ∈ e.covered → h'.get t = h.get t) →
                ∃ k, k.Describes h (b.ofCategory category) template e ∧
                  k ∈ ring.collection category ∧ k ∈ ring'.collection category) ∧
      ((c.entries.map fun e => h.name e.representative).Nodup →
        ∀ c', c'.entries.Perm c.entries →
          (ofCoverage h (some b) template c').result = .ok ring) := by
  refine ⟨_, ofCoverage_eq_ok.2 ⟨b, rfl, ht, rfl⟩, ?_, ?_⟩
  · intro category hcat
    refine ⟨⟨c.entriesByName h category, forall₂_entriesByName hcat, List.mergeSort_perm _ _,
      pairwise_sortedByName _ _, fun n => filter_sortedByName _ n _⟩, ?_⟩
    intro h' b' c' ring' hring' hb e he he' hagree
    rcases ofCoverage_eq_ok.1 hring' with ⟨_, hsome, _, rfl⟩
    cases hsome
    rcases exists_key_of_entry b template hcat he with ⟨k, hk, hdescribes⟩
    have hcategory : h'.category e.representative = category := by
      rw [← (Coverage.mem_entriesOf.1 he).2, Hierarchy.category, hagree _ (Or.inl rfl),
        Hierarchy.category]
    rcases exists_key_of_entry b' template hcat (Coverage.mem_entriesOf.2 ⟨he', hcategory⟩) with
      ⟨k', hk', hdescribes'⟩
    -- Both keys say the same of the entry, so they are one.
    have hsame : k' = k := by
      rw [hb] at hdescribes'
      exact hdescribes'.unique (hdescribes.congr hagree)
    exact ⟨k, hdescribes, hk, hsame ▸ hk'⟩
  · intro hn c' hp
    rw [ofCoverage_eq_ok]
    exact ⟨b, rfl, ht, ofEntries_congr hp hn⟩

/-- Two types by the name of mail, one of them abstract, an export and a log. -/
def sheets : Hierarchy where
  descriptors :=
    #[ { name := "Mail", isAbstract := true, category := .jobTrigger },
       { name := "Mail", category := .jobTrigger },
       { name := "Export", category := .jobInstance },
       { name := "Log" } ]

/-- No coverage of a catalog: an abstract type covers nothing, another one exports alone, an export
stands twice in its own place, and the log covers a mail. -/
def sheetsCoverage : Coverage :=
  ⟨[⟨0, []⟩, ⟨3, [1]⟩, ⟨1, [2, 2]⟩, ⟨2, [2, 2]⟩]⟩

/-- Both mails have a key, in the order of their entries, and only the one that covers exports has a
predicate.  An export that stands twice in its own place has none. -/
theorem keys_entry_by_entry_sheets :
    Template.check Template.default = .ok () ∧
      ∃ ring, (ofCoverage sheets (some {}) Template.default sheetsCoverage).result = .ok ring ∧
        (∃ k k', ring.triggers = [k, k'] ∧
          k.Describes sheets {} Template.default ⟨0, []⟩ ∧
          k'.Describes sheets {} Template.default ⟨1, [2, 2]⟩) ∧
        ∃ k, ring.instances = [k] ∧ k.Describes sheets {} Template.default ⟨2, [2, 2]⟩ := by
  have htriggers : sheetsCoverage.entriesOf sheets .jobTrigger = [⟨0, []⟩, ⟨1, [2, 2]⟩] := by
    decide
  have hinstances : sheetsCoverage.entriesOf sheets .jobInstance = [⟨2, [2, 2]⟩] := by
    decide
  rcases keys_entry_by_entry (h := sheets) (b := {}) (c := sheetsCoverage) check_default with
    ⟨ring, hring, hcategories, _⟩
  refine ⟨check_default, ring, hring, ?_, ?_⟩
  · rcases (hcategories .jobTrigger (by decide)).1 with ⟨entries, hkeys, hperm, _, hstable⟩
    rw [htriggers] at hperm hstable
    -- All triggers have one name, so they stand as in the coverage.
    have hmails : entries.filter (fun e => sheets.name e.representative = "Mail") =
        [⟨0, []⟩, ⟨1, [2, 2]⟩] :=
      (hstable "Mail").trans (by decide)
    have hentries : entries = [⟨0, []⟩, ⟨1, [2, 2]⟩] := by
      rw [← hmails, List.filter_sublist.eq_of_length (hmails ▸ hperm.length_eq.symm)]
    rw [hentries] at hkeys
    rcases List.forall₂_cons_left_iff.1 hkeys with ⟨k, rest, hk, hrest, htwo⟩
    rcases List.forall₂_cons_left_iff.1 hrest with ⟨k', none, hk', hnone, hone⟩
    cases hnone
    exact ⟨k, k', htwo.trans (congrArg _ hone), hk, hk'⟩
  · rcases (hcategories .jobInstance (by decide)).1 with ⟨entries, hkeys, hperm, _, _⟩
    rw [hinstances, List.perm_singleton] at hperm
    rw [hperm] at hkeys
    rcases List.forall₂_cons_left_iff.1 hkeys with ⟨k, rest, hk, hrest, hone⟩
    cases hrest
    exact ⟨k, hone, hk⟩

end KeyRing
end PartitionKeys
