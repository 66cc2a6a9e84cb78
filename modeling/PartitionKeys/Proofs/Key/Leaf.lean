import Mathlib
import PartitionKeys.Proofs.Hierarchy.Leaf
import PartitionKeys.Proofs.Key.Order

/-!
# Leaf — what one more type at the end of a catalog does to the keys

A catalog that has keys takes in a participant below all that it lists.  The new type gets a key of
its own, and the keys of the participants that it reaches cover it too, in the last place.  All
other keys stay as they are.

* `Hierarchy.leafKey`: the key of a participant that nothing stands below;
* `Hierarchy.grow`: what becomes of a key;
* `Hierarchy.keyFor_append`: the key of a type listed before;
* `KeyRing.ofCatalog_append_leaf`: when the larger catalog has keys, and which.
-/

namespace PartitionKeys

open scoped Classical

namespace Hierarchy

variable {h : Hierarchy} {catalog : List TypeId} {b : AttributeBindings} {template : String}
  {t r : TypeId} {category : Category}

/-! ## Keys before and after -/

def leafKey (h : Hierarchy) (b : AttributeBindings) (t : TypeId) : PartitionKey where
  name := h.name t
  category := h.category t
  bindings := b.ofCategory (h.category t)
  predicate := none
  covered := [h.name t]
  source := (h.get t).source

/-- The key of a participant that the new type `t` reaches is the key of a region that holds rows
of `t` as well; other keys stay. -/
noncomputable def grow (h : Hierarchy) (catalog : List TypeId) (template : String) (t : TypeId)
    (k : PartitionKey) : PartitionKey :=
  if ∃ r ∈ catalog, h.isConcreteParticipant r = true ∧ h.name r = k.name ∧
      h.Reaches (catalog ++ [t]) t r then
    { k with covered := k.covered ++ [h.name t], predicate := some ⟨k.name, template⟩ }
  else k

theorem keyFor_append (hleaf : h.Leaf catalog t) (hp : h.isConcreteParticipant t = true)
    (hr : r ∈ catalog) (hpr : h.isConcreteParticipant r = true) :
    h.keyFor (catalog ++ [t]) b template r =
      if h.Reaches (catalog ++ [t]) t r then
        { h.keyFor catalog b template r with
          covered := (h.keyFor catalog b template r).covered ++ [h.name t]
          predicate := some ⟨h.name r, template⟩ }
      else h.keyFor catalog b template r := by
  rw [keyFor_eq hpr, keyFor_eq hpr, hleaf.below_append hp hr]
  split
  · simp
  · simp

theorem keyFor_append_eq_grow (hleaf : h.Leaf catalog t) (hp : h.isConcreteParticipant t = true)
    (hd : h.DistinctNames catalog) (hr : r ∈ catalog) (hpr : h.isConcreteParticipant r = true) :
    h.keyFor (catalog ++ [t]) b template r =
      h.grow catalog template t (h.keyFor catalog b template r) := by
  -- Names single out the listed types, so a key speaks of `r` alone.
  have hsame : (∃ s ∈ catalog, h.isConcreteParticipant s = true ∧
      h.name s = (h.keyFor catalog b template r).name ∧ h.Reaches (catalog ++ [t]) t s) ↔
        h.Reaches (catalog ++ [t]) t r := by
    constructor
    · rintro ⟨s, hs, _, hname, hreach⟩
      rwa [← hd s hs r hr hname]
    · intro hreach
      exact ⟨r, hr, hpr, rfl, hreach⟩
  rw [keyFor_append hleaf hp hr hpr, grow]
  simp only [hsame]
  rfl

theorem keyFor_append_self (hleaf : h.Leaf catalog t) (hp : h.isConcreteParticipant t = true) :
    h.keyFor (catalog ++ [t]) b template t = h.leafKey b t := by
  rw [keyFor_eq hp, hleaf.below_self]
  rfl

/-! ## Types of a category -/

theorem concrete_append (hleaf : h.Leaf catalog t) (hp : h.isConcreteParticipant t = true) :
    h.concrete (catalog ++ [t]) category =
      h.concrete catalog category ++ if h.category t = category then [t] else [] := by
  have ha : h.isAbstract t = false := (isConcreteParticipant_iff.1 hp).1
  rw [concrete, hleaf.eraseDups_append, List.filter_append, List.filter_singleton]
  simp [ha, concrete]

theorem concreteByName_append_of_ne (hleaf : h.Leaf catalog t)
    (hp : h.isConcreteParticipant t = true) (hne : h.category t ≠ category) :
    h.concreteByName (catalog ++ [t]) category = h.concreteByName catalog category := by
  rw [concreteByName, concrete_append hleaf hp, if_neg hne, List.append_nil]
  rfl

theorem concreteByName_append_self (hleaf : h.Leaf catalog t)
    (hp : h.isConcreteParticipant t = true) (hd : h.DistinctNames catalog) :
    ∃ front back,
      h.concreteByName catalog (h.category t) = front ++ back ∧
      h.concreteByName (catalog ++ [t]) (h.category t) = front ++ t :: back ∧
      (∀ r ∈ front, h.name r < h.name t) ∧ ∀ r ∈ back, h.name t < h.name r := by
  rw [concreteByName, concreteByName, concrete_append hleaf hp, if_pos rfl]
  apply sortedByName_append_singleton
  · intro a ha b hb
    exact hd a (mem_concrete.1 ha).1 b (mem_concrete.1 hb).1
  · intro a ha
    exact hleaf.name_ne a (mem_concrete.1 ha).1

end Hierarchy

/-! ## Key rings -/

namespace KeyRing

variable {h : Hierarchy} {catalog : List TypeId} {t : TypeId} {c c' : Coverage}
  {b : AttributeBindings} {template : String} {ring : KeyRing}

theorem collection_append_self (hc : (Coverage.ofCatalog h catalog).result = .ok c)
    (hc' : (Coverage.ofCatalog h (catalog ++ [t])).result = .ok c') (hleaf : h.Leaf catalog t)
    (hp : h.isConcreteParticipant t = true) :
    ∃ front back,
      (ofEntries h b template c.entries).collection (h.category t) = front ++ back ∧
      (ofEntries h b template c'.entries).collection (h.category t) =
        front.map (h.grow catalog template t) ++
          h.leafKey b t :: back.map (h.grow catalog template t) ∧
      (∀ k ∈ front, k.name < h.name t) ∧ ∀ k ∈ back, h.name t < k.name := by
  have hcat : h.category t ≠ .neither := (Hierarchy.isConcreteParticipant_iff.1 hp).2
  have hd : h.DistinctNames catalog := (Coverage.exists_ofCatalog_iff.1 ⟨c, hc⟩).1
  rcases Hierarchy.concreteByName_append_self hleaf hp hd with
    ⟨front, back, hold, hnew, hfront, hback⟩
  rw [collection_eq_map hc hcat, collection_eq_map hc' hcat, hold, hnew]
  refine ⟨front.map (h.keyFor catalog b template), back.map (h.keyFor catalog b template),
    List.map_append, ?_, ?_, ?_⟩
  · -- The old types keep their places, so each key is compared with the one it was.
    have hgrow : ∀ r ∈ front ++ back, h.keyFor (catalog ++ [t]) b template r =
        h.grow catalog template t (h.keyFor catalog b template r) := by
      intro r hr
      have hmem : r ∈ h.concrete catalog (h.category t) :=
        Hierarchy.mem_concreteByName.1 (hold ▸ hr)
      exact Hierarchy.keyFor_append_eq_grow hleaf hp hd (Hierarchy.mem_concrete.1 hmem).1
        (Hierarchy.isConcreteParticipant_of_mem_concrete hcat hmem)
    rw [List.map_append, List.map_cons, Hierarchy.keyFor_append_self hleaf hp, List.map_map,
      List.map_map]
    congr 1
    · exact List.map_congr_left fun r hr => hgrow r (List.mem_append_left back hr)
    · congr 1
      exact List.map_congr_left fun r hr => hgrow r (List.mem_append_right front hr)
  · simpa using hfront
  · simpa using hback

theorem collection_append_of_ne (hc : (Coverage.ofCatalog h catalog).result = .ok c)
    (hc' : (Coverage.ofCatalog h (catalog ++ [t])).result = .ok c') (hleaf : h.Leaf catalog t)
    (hp : h.isConcreteParticipant t = true) {category : Category} (hcat : category ≠ .neither)
    (hne : h.category t ≠ category) :
    (ofEntries h b template c'.entries).collection category =
      (ofEntries h b template c.entries).collection category := by
  rw [collection_eq_map hc hcat, collection_eq_map hc' hcat,
    Hierarchy.concreteByName_append_of_ne hleaf hp hne]
  apply List.map_congr_left
  intro r hr
  have hmem : r ∈ h.concrete catalog category := Hierarchy.mem_concreteByName.1 hr
  rcases Hierarchy.mem_concrete.1 hmem with ⟨hlisted, ha, hcr⟩
  rw [Hierarchy.keyFor_append hleaf hp hlisted
    (Hierarchy.isConcreteParticipant_of_mem_concrete hcat hmem), if_neg]
  intro hreach
  -- A concrete type above `t` that takes part would have been an offender.
  have hsame : h.category r = h.category t :=
    Coverage.category_eq_of_under hc' (by simp) hp hreach.under ha (hcr ▸ hcat)
  exact hne (hsame.symm.trans hcr)

theorem ofCatalog_append_refused {listing' : Traced Listing}
    (hc : (Coverage.ofCatalog h catalog).result = .ok c)
    (hl' : listing'.result = .ok ⟨h, catalog ++ [t]⟩) (ht : Template.check template = .ok ())
    (hleaf : h.Leaf catalog t) (hp : h.isConcreteParticipant t = true)
    (hfaulty : h.Faulty (catalog ++ [t]) t) :
    ∃ f report, (ofCatalog (some listing') b template).result = .error f ∧
      f.report? = some report ∧ report.context.typeName = .text (h.name t) ∧
      (report.kind = .classification ∧
          (∃ a, h.Reaches (catalog ++ [t]) t a ∧ h.Offends t a) ∨
        report.kind = .invalidCatalog ∧
          ∀ a, h.Reaches (catalog ++ [t]) t a → ¬h.Offends t a) := by
  cases hf : (Coverage.ofCatalog h (catalog ++ [t])).result with
  | ok c' =>
      exact absurd hfaulty ((Coverage.exists_ofCatalog_append_iff hc hleaf hp).1 ⟨c', hf⟩)
  | error f =>
      rcases Coverage.report_of_ofCatalog_append hc hleaf hf with ⟨report, hreport, hrest⟩
      exact ⟨f, report, (ofCatalog_eq_error hl' ht).2 hf, hreport, hrest⟩

/-- A catalog that has keys is refused with one more type at its end when the type reaches a
concrete type of the other category, or else when its walk upward comes back to where it was.
Otherwise the type gets a key between the smaller and the greater names of its category, and the
keys of the participants that it reaches grow by it; no other key changes. -/
theorem ofCatalog_append_leaf {listing listing' : Traced Listing}
    (hl : listing.result = .ok ⟨h, catalog⟩) (hl' : listing'.result = .ok ⟨h, catalog ++ [t]⟩)
    (hring : (ofCatalog (some listing) b template).result = .ok ring)
    (hp : h.isConcreteParticipant t = true) (hleaf : h.Leaf catalog t) :
    ((∃ a, h.Reaches (catalog ++ [t]) t a ∧ h.Offends t a) →
      ∃ f report, (ofCatalog (some listing') b template).result = .error f ∧
        f.report? = some report ∧ report.kind = .classification ∧
        report.context.typeName = .text (h.name t)) ∧
    ((∀ a, h.Reaches (catalog ++ [t]) t a → ¬h.Offends t a) →
      (∃ path, h.Ascent (catalog ++ [t]) t path ∧ ¬(t :: path).Nodup) →
      ∃ f report, (ofCatalog (some listing') b template).result = .error f ∧
        f.report? = some report ∧ report.kind = .invalidCatalog ∧
        report.context.typeName = .text (h.name t)) ∧
    ((∀ a, h.Reaches (catalog ++ [t]) t a → ¬h.Offends t a) →
      (∀ path, h.Ascent (catalog ++ [t]) t path → (t :: path).Nodup) →
      ∃ ring', (ofCatalog (some listing') b template).result = .ok ring' ∧
        (∃ front back,
          ring.collection (h.category t) = front ++ back ∧
          ring'.collection (h.category t) =
            front.map (h.grow catalog template t) ++
              h.leafKey b t :: back.map (h.grow catalog template t) ∧
          (∀ k ∈ front, k.name < h.name t) ∧ ∀ k ∈ back, h.name t < k.name) ∧
        ∀ category, category ≠ .neither → h.category t ≠ category →
          ring'.collection category = ring.collection category) := by
  rcases (ofCatalog_eq_ok hl).1 hring with ⟨c, hc, ht, rfl⟩
  refine ⟨?_, ?_, ?_⟩
  · intro hoff
    rcases ofCatalog_append_refused hc hl' ht hleaf hp (Or.inl hoff) with
      ⟨f, report, hf, hreport, hname, ⟨hkind, _⟩ | ⟨_, hnone⟩⟩
    · exact ⟨f, report, hf, hreport, hkind, hname⟩
    · rcases hoff with ⟨a, hreach, ha⟩
      exact absurd ha (hnone a hreach)
  · intro hnone hback
    rcases ofCatalog_append_refused hc hl' ht hleaf hp (Or.inr hback) with
      ⟨f, report, hf, hreport, hname, ⟨_, a, hreach, ha⟩ | ⟨hkind, _⟩⟩
    · exact absurd ha (hnone a hreach)
    · exact ⟨f, report, hf, hreport, hkind, hname⟩
  · intro hnone hnodup
    have hsound : ¬h.Faulty (catalog ++ [t]) t := by
      rintro (⟨a, hreach, ha⟩ | ⟨path, hwalk, hrepeat⟩)
      · exact hnone a hreach ha
      · exact hrepeat (hnodup path hwalk)
    rcases (Coverage.exists_ofCatalog_append_iff hc hleaf hp).2 hsound with ⟨c', hc'⟩
    exact ⟨_, (ofCatalog_eq_ok hl').2 ⟨c', hc', ht, rfl⟩,
      collection_append_self hc hc' hleaf hp,
      fun category hcat hne => collection_append_of_ne hc hc' hleaf hp hcat hne⟩

/-- Bulletins are mails, through an abstract type. -/
def bulletins : Hierarchy where
  descriptors :=
    #[ { name := "Mail", category := .jobTrigger },
       { name := "Notice", isAbstract := true, supertype := some 0 },
       { name := "Run", category := .jobInstance },
       { name := "Bulletin", supertype := some 1, category := .jobTrigger } ]

def mailsRing : KeyRing :=
  ofEntries bulletins {} Template.default [⟨0, [0]⟩, ⟨2, [2]⟩]

theorem ofCatalog_mails :
    (ofCatalog (some (Traced.done ⟨bulletins, [0, 1, 2]⟩)) {} Template.default).result =
      .ok mailsRing := by
  have hc : (Coverage.ofCatalog bulletins [0, 1, 2]).result = .ok ⟨[⟨0, [0]⟩, ⟨2, [2]⟩]⟩ := by
    cbv
  exact (ofCatalog_eq_ok rfl).2 ⟨_, hc, check_default, rfl⟩

theorem not_faulty_bulletin : ¬bulletins.Faulty [0, 1, 2, 3] 3 := by
  have hc : (Coverage.ofCatalog bulletins [0, 1, 2, 3]).result =
      .ok ⟨[⟨0, [0, 3]⟩, ⟨2, [2]⟩, ⟨3, [3]⟩]⟩ := by
    cbv
  exact (Coverage.exists_ofCatalog_iff.1 ⟨_, hc⟩).2 3 (by decide) (by decide)

/-- With bulletins the key of mails grows, theirs stands before it, and that of runs stays. -/
theorem ofCatalog_append_leaf_bulletins :
    (ofCatalog (some (Traced.done ⟨bulletins, [0, 1, 2]⟩)) {} Template.default).result =
        .ok mailsRing ∧
      bulletins.isConcreteParticipant 3 = true ∧ bulletins.Leaf [0, 1, 2] 3 ∧
      ∃ ring', (ofCatalog (some (Traced.done ⟨bulletins, [0, 1, 2] ++ [3]⟩)) {}
          Template.default).result = .ok ring' ∧
        (∃ front back, mailsRing.triggers = front ++ back ∧
          ring'.triggers =
            front.map (bulletins.grow [0, 1, 2] Template.default 3) ++
              bulletins.leafKey {} 3 ::
                back.map (bulletins.grow [0, 1, 2] Template.default 3) ∧
          (∀ k ∈ front, k.name < "Bulletin") ∧ ∀ k ∈ back, "Bulletin" < k.name) ∧
        ring'.instances = mailsRing.instances := by
  have hp : bulletins.isConcreteParticipant 3 = true := by
    decide
  have hleaf : bulletins.Leaf [0, 1, 2] 3 := ⟨by decide, by decide⟩
  have hnone : ∀ a, bulletins.Reaches [0, 1, 2, 3] 3 a → ¬bulletins.Offends 3 a :=
    fun a hr ha => not_faulty_bulletin (Or.inl ⟨a, hr, ha⟩)
  have hnodup : ∀ path, bulletins.Ascent [0, 1, 2, 3] 3 path → (3 :: path).Nodup := by
    intro path hwalk
    by_contra hrepeat
    exact not_faulty_bulletin (Or.inr ⟨path, hwalk, hrepeat⟩)
  have hl' : (Traced.done (⟨bulletins, [0, 1, 2] ++ [3]⟩ : Listing)).result =
      .ok ⟨bulletins, [0, 1, 2] ++ [3]⟩ := rfl
  rcases (ofCatalog_append_leaf rfl hl' ofCatalog_mails hp hleaf).2.2 hnone hnodup with
    ⟨ring', hring', hsame, hother⟩
  exact ⟨ofCatalog_mails, hp, hleaf, ring', hring', hsame,
    hother .jobInstance (by decide) (by decide)⟩

end KeyRing
end PartitionKeys
