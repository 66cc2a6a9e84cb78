import Mathlib
import PartitionKeys.Proofs.Key.KeyRing

/-!
# Events — what a derivation tells of itself

A derivation goes through a listing, a coverage, the check of the template, and the keys.  Past the
check nothing can fail, and before it nothing is told of keys; so events about keys are those of a
derivation that succeeds.

* `Coverage.flattened`, `KeyRing.skips`: the events of a coverage and of what it gives no key;
* `Coverage.events_of_ok`, `Coverage.events_of_error`: a coverage is told of when there is one;
* `KeyRing.events_of_refused`, `KeyRing.events_of_accepted`: what follows for a template;
* `KeyRing.events_ofCatalog`: the events of every derivation.
-/

namespace PartitionKeys

/-! ## Coverages -/

namespace Coverage

variable {h : Hierarchy} {catalog : List TypeId} {c : Coverage} {f : Failure}

/-- Tells how many names a catalog lists and, of the entries, how many there are and how many of
them cover two types or more. -/
def flattened (h : Hierarchy) (catalog : List TypeId) (c : Coverage) : Event :=
  .hierarchyFlattened (catalog.map h.name).toFinset.card c.entries.length
    (c.entries.countP fun e => 2 ≤ e.covered.length)

/-- Distinct types of a covered catalog have distinct names, so counting either is the same. -/
theorem card_names_of_ofCatalog (hc : (Coverage.ofCatalog h catalog).result = .ok c) :
    (catalog.map h.name).toFinset.card = catalog.eraseDups.length := by
  have hsame : (catalog.map h.name).toFinset = (catalog.eraseDups.map h.name).toFinset := by
    ext n
    simp
  rw [hsame, List.toFinset_card_of_nodup (distinct_of_ofCatalog hc), List.length_map]

theorem events_of_ok (hc : (Coverage.ofCatalog h catalog).result = .ok c) :
    (Coverage.ofCatalog h catalog).events = [flattened h catalog c] := by
  rcases ofCatalog_eq_ok.1 hc with ⟨i, hi, hcov⟩
  have hcount : (Traced.ofExcept (count h catalog)).result = .ok (i.members.length, c) :=
    count_eq_ok.2 ⟨i, hi, hcov, rfl⟩
  have htypes : i.members.length = (catalog.map h.name).toFinset.card := by
    rw [card_names_of_ofCatalog hc, Index.members_of_ofCatalog hi]
  have hshared : c.shared = c.entries.countP fun e => 2 ≤ e.covered.length :=
    List.countP_eq_length_filter.symm
  unfold Coverage.ofCatalog
  rw [Traced.events_bind_ok _ hcount, flattened, ← hshared, ← htypes]
  rfl

theorem events_of_error (hf : (Coverage.ofCatalog h catalog).result = .error f) :
    (Coverage.ofCatalog h catalog).events = [] := by
  unfold Coverage.ofCatalog at hf ⊢
  cases hcount : count h catalog with
  | error g =>
      rfl
  | ok p =>
      rw [hcount] at hf
      cases hf

end Coverage

/-! ## Keys -/

namespace KeyRing

variable {h : Hierarchy} {catalog : List TypeId} {c : Coverage} {l : Listing}
  {listing : Traced Listing} {b : AttributeBindings} {template : String} {f : Failure}

/-- One event for each representative that takes no part, by first occurrence in the catalog. -/
noncomputable def skips (h : Hierarchy) (catalog : List TypeId) : List Event :=
  ((h.representatives catalog).filter fun r => h.category r = .neither).map fun r =>
    .keySkipped (h.name r) ((h.covered catalog r).map h.name)

theorem skipped_of_ofCatalog (hc : (Coverage.ofCatalog h catalog).result = .ok c) :
    skipped h c.entries = skips h catalog := by
  have hneither : ∀ r, (!(h.category r).participates) = decide (h.category r = .neither) := by
    intro r
    cases h.category r <;> rfl
  simp only [skipped, skips, Coverage.entries_of_ofCatalog hc, List.filter_map, List.map_map,
    Function.comp_def, hneither]

/-- The keys that follow an accepted template. -/
def built (ring : KeyRing) : Event :=
  .keysBuilt (ring.triggers.map (·.name)) (ring.instances.map (·.name))

theorem events_of_refused (hl : listing.result = .ok l)
    (hc : (Coverage.ofCatalog l.hierarchy l.types).result = .ok c)
    (hf : Template.check template = .error f) :
    (ofCatalog (some listing) b template).result = .error f ∧
      (ofCatalog (some listing) b template).events =
        listing.events ++ [Coverage.flattened l.hierarchy l.types c] := by
  have hstop : ofCoverage l.hierarchy (some b) template c = Traced.fail f := by
    simp only [ofCoverage, hf]
  have hfail : (ofCoverage l.hierarchy (some b) template c).result = .error f := by
    rw [hstop]
    rfl
  unfold ofCatalog derive
  constructor
  · rw [Traced.result_bind_ok _ hl, Traced.result_bind_ok _ hc]
    exact Traced.result_bind_error _ hfail
  · rw [Traced.events_bind_ok _ hl, Traced.events_bind_ok _ hc, Traced.events_bind_error _ hfail,
      Coverage.events_of_ok hc, hstop]
    rfl

theorem events_of_accepted (hl : listing.result = .ok l)
    (hc : (Coverage.ofCatalog l.hierarchy l.types).result = .ok c)
    (ht : Template.check template = .ok ()) :
    ∃ ring, (ofCatalog (some listing) b template).result = .ok ring ∧
      (ofCatalog (some listing) b template).events =
        listing.events ++
          (Coverage.flattened l.hierarchy l.types c :: skips l.hierarchy l.types ++
            [ring.built]) := by
  have hkeys : ofCoverage l.hierarchy (some b) template c =
      ⟨skips l.hierarchy l.types, .ok (ofEntries l.hierarchy b template c.entries)⟩ := by
    simp only [ofCoverage, ht, skipped_of_ofCatalog hc]
  have hok : (ofCoverage l.hierarchy (some b) template c).result =
      .ok (ofEntries l.hierarchy b template c.entries) := by
    rw [hkeys]
  refine ⟨_, (ofCatalog_eq_ok hl).2 ⟨c, hc, ht, rfl⟩, ?_⟩
  unfold ofCatalog derive
  rw [Traced.events_bind_ok _ hl, Traced.events_bind_ok _ hc, Traced.events_bind_ok _ hok,
    Coverage.events_of_ok hc, hkeys]
  simp only [List.cons_append]
  rfl

theorem events_of_uncovered
    (hnone : ¬∃ l c, listing.result = .ok l ∧
      (Coverage.ofCatalog l.hierarchy l.types).result = .ok c) :
    (ofCatalog (some listing) b template).events = listing.events := by
  unfold ofCatalog
  cases hl : listing.result with
  | error f =>
      exact Traced.events_bind_error _ hl
  | ok l =>
      rw [Traced.events_bind_ok _ hl]
      cases hc : (Coverage.ofCatalog l.hierarchy l.types).result with
      | ok c =>
          exact absurd ⟨l, c, hl, hc⟩ hnone
      | error f =>
          have hderive : (derive l b template).events = [] := by
            unfold derive
            rw [Traced.events_bind_error _ hc, Coverage.events_of_error hc]
          rw [hderive, List.append_nil]

/-! ## All or nothing -/

/-- After the events of the listing, a coverage is told of exactly when there is one.  A refused
template ends the derivation there; else the types without a key follow, and the keys last.  A
derivation that fails tells nothing about keys. -/
theorem events_ofCatalog (listing : Traced Listing) (b : AttributeBindings) (template : String) :
    ∃ emitted, (ofCatalog (some listing) b template).events = listing.events ++ emitted ∧
      ((∃ n r s, .hierarchyFlattened n r s ∈ emitted) ↔
        ∃ l c, listing.result = .ok l ∧
          (Coverage.ofCatalog l.hierarchy l.types).result = .ok c) ∧
      (∀ l c, listing.result = .ok l →
        (Coverage.ofCatalog l.hierarchy l.types).result = .ok c →
          (∀ f, Template.check template = .error f →
            (ofCatalog (some listing) b template).result = .error f ∧
              emitted = [Coverage.flattened l.hierarchy l.types c]) ∧
          (Template.check template = .ok () →
            ∃ ring, (ofCatalog (some listing) b template).result = .ok ring ∧
              emitted = Coverage.flattened l.hierarchy l.types c ::
                skips l.hierarchy l.types ++ [ring.built])) ∧
      ∀ f, (ofCatalog (some listing) b template).result = .error f →
        (∀ n covered, .keySkipped n covered ∉ emitted) ∧
          ∀ triggers instances, .keysBuilt triggers instances ∉ emitted := by
  by_cases hex : ∃ l c, listing.result = .ok l ∧
      (Coverage.ofCatalog l.hierarchy l.types).result = .ok c
  · rcases hex with ⟨l, c, hl, hc⟩
    have honly : ∀ l' c', listing.result = .ok l' →
        (Coverage.ofCatalog l'.hierarchy l'.types).result = .ok c' → l' = l ∧ c' = c := by
      intro l' c' hl' hc'
      cases hl.symm.trans hl'
      cases hc.symm.trans hc'
      exact ⟨rfl, rfl⟩
    cases ht : Template.check template with
    | error f =>
        rcases events_of_refused (b := b) hl hc ht with ⟨hres, hevents⟩
        refine ⟨_, hevents, iff_of_true ⟨_, _, _, List.mem_cons_self⟩ ⟨l, c, hl, hc⟩, ?_, ?_⟩
        · intro l' c' hl' hc'
          rcases honly l' c' hl' hc' with ⟨rfl, rfl⟩
          simp [hres]
        · simp [Coverage.flattened]
    | ok u =>
        rcases events_of_accepted (b := b) hl hc ht with ⟨ring, hres, hevents⟩
        refine ⟨_, hevents, iff_of_true ⟨_, _, _, List.mem_cons_self⟩ ⟨l, c, hl, hc⟩, ?_, ?_⟩
        · intro l' c' hl' hc'
          rcases honly l' c' hl' hc' with ⟨rfl, rfl⟩
          simp [hres]
        · intro f hf
          cases hres.symm.trans hf
  · refine ⟨[], ?_, ?_, ?_, ?_⟩
    · rw [events_of_uncovered hex, List.append_nil]
    · simpa using hex
    · intro l c hl hc
      exact absurd ⟨l, c, hl, hc⟩ hex
    · simp

/-- Of the notices the base of the jobs gets no key. -/
example :
    (ofCatalog (some (Traced.done ⟨Coverage.notices, Coverage.noticesListed⟩)) {}
      Template.default).events =
      [ .hierarchyFlattened 7 4 2, .keySkipped "Job" ["Digest", "Mail", "Run"],
        .keysBuilt ["Digest", "Mail"] ["Run"] ] := by
  cbv

end KeyRing
end PartitionKeys
