import Mathlib
import PartitionKeys.Proofs.Hierarchy.Line

/-!
# Coverage — what a representative covers is what reaches it

The coverage of a catalog is computed by climbing from each participant.  Here it is told without
climbs: the representatives are the non-abstract types with a participant under them, and each
covers the participants under it.

* `Hierarchy.representatives`, `Hierarchy.covered`: representatives and what they cover;
* `Coverage.entries_of_ofCatalog`: the entries of a coverage are those of the two definitions;
* `Coverage.category_eq_of_under`: a participant has the category of the representatives above it;
* `Coverage.ofCatalog_exact`: which types represent and are covered, and in which order.
-/

namespace PartitionKeys

open scoped Classical

/-! ## Coverage by reachability -/

namespace Hierarchy

variable {h : Hierarchy} {catalog : List TypeId} {t r : TypeId}

/-- The non-abstract types with a concrete participant under them, by first occurrence. -/
noncomputable def representatives (h : Hierarchy) (catalog : List TypeId) : List TypeId :=
  catalog.eraseDups.filter fun r =>
    h.isAbstract r = false ∧ ∃ t ∈ catalog, h.isConcreteParticipant t = true ∧ h.Under catalog t r

/-- The other concrete participants that reach a type, by first occurrence. -/
noncomputable def below (h : Hierarchy) (catalog : List TypeId) (r : TypeId) : List TypeId :=
  catalog.eraseDups.filter fun t =>
    h.isConcreteParticipant t = true ∧ t ≠ r ∧ h.Reaches catalog t r

/-- A participant comes first in what it covers. -/
noncomputable def covered (h : Hierarchy) (catalog : List TypeId) (r : TypeId) : List TypeId :=
  if h.isConcreteParticipant r = true then r :: h.below catalog r else h.below catalog r

theorem mem_representatives :
    r ∈ h.representatives catalog ↔
      r ∈ catalog ∧ h.isAbstract r = false ∧
        ∃ t ∈ catalog, h.isConcreteParticipant t = true ∧ h.Under catalog t r := by
  simp [representatives]

theorem mem_below :
    t ∈ h.below catalog r ↔
      t ∈ catalog ∧ h.isConcreteParticipant t = true ∧ t ≠ r ∧ h.Reaches catalog t r := by
  simp [below]

theorem below_ne_nil_iff :
    h.below catalog r ≠ [] ↔
      ∃ t ∈ catalog, h.isConcreteParticipant t = true ∧ t ≠ r ∧ h.Reaches catalog t r := by
  constructor
  · intro hne
    rcases List.exists_mem_of_ne_nil _ hne with ⟨t, ht⟩
    exact ⟨t, mem_below.1 ht⟩
  · rintro ⟨t, ht⟩
    exact List.ne_nil_of_mem (mem_below.2 ht)

theorem mem_covered (hr : r ∈ catalog) :
    t ∈ h.covered catalog r ↔
      t ∈ catalog ∧ h.isConcreteParticipant t = true ∧ h.Under catalog t r := by
  unfold covered
  -- `r` is under itself, yet `below` leaves it out: it is covered by standing first.
  by_cases htr : t = r
  · subst htr
    by_cases hp : h.isConcreteParticipant t = true
    · simp [hp, hr, Under.refl]
    · simp [hp, mem_below]
  · have hbelow : t ∈ h.below catalog r ↔
        t ∈ catalog ∧ h.isConcreteParticipant t = true ∧ h.Under catalog t r := by
      simp [mem_below, htr, Under]
    split
    · rw [List.mem_cons, hbelow]
      simp [htr]
    · exact hbelow

end Hierarchy

namespace Index

variable {h : Hierarchy} {i : Index h} {catalog : List TypeId} {t r : TypeId}

theorem under_members (hi : Index.ofCatalog (h := h) catalog = .ok i) :
    h.Under i.members = h.Under catalog := by
  funext t u
  simp only [Hierarchy.Under, Hierarchy.reaches_congr fun a => mem_members_of_ofCatalog hi]

/-- A participant is moved to the front of those under it; nothing else changes its place. -/
theorem leading_participants (hi : Index.ofCatalog (h := h) catalog = .ok i) (hr : r ∈ catalog) :
    leading r (i.participants.filter fun t => h.Under catalog t r) = h.covered catalog r := by
  have hbelow :
      ((i.participants.filter fun t => h.Under catalog t r).filter (· != r)) =
        h.below catalog r := by
    rw [participants, List.filter_filter, List.filter_filter, members_of_ofCatalog hi]
    apply List.filter_congr
    intro t _
    rw [Bool.eq_iff_iff]
    by_cases htr : t = r
    · simp [htr]
    · simp [htr, Hierarchy.Under, and_comm]
  -- `r` is moved exactly when it is among them, and it is under itself when it takes part.
  have hself :
      r ∈ (i.participants.filter fun t => h.Under catalog t r) ↔
        h.isConcreteParticipant r = true := by
    rw [List.mem_filter, mem_participants, mem_members_of_ofCatalog hi]
    simp [hr, Hierarchy.Under.refl]
  unfold leading Hierarchy.covered
  by_cases hp : h.isConcreteParticipant r = true
  · rw [if_pos (by simpa using hself.2 hp), if_pos hp, hbelow]
  · rw [if_neg (by simpa using mt hself.1 hp), if_neg hp, ← hbelow]
    symm
    apply List.filter_eq_self.2
    intro t ht
    have htr : t ≠ r := by
      rintro rfl
      exact hp (hself.1 ht)
    simpa using htr

/-- A type gets an entry when it is not abstract and a participant is under it. -/
theorem entryFor_eq {ls : List (TypeId × List TypeId)}
    (hi : Index.ofCatalog (h := h) catalog = .ok i) (hl : i.lines i.participants = .ok ls)
    (hr : r ∈ catalog) :
    entryFor ls r =
      if h.isAbstract r = false ∧
          ∃ t ∈ catalog, h.isConcreteParticipant t = true ∧ h.Under catalog t r then
        some ⟨r, h.covered catalog r⟩
      else none := by
  simp only [entryFor, coveredBy_eq_filter hl, under_members hi]
  by_cases ha : h.isAbstract r = false
  · simp only [ha, true_and, leading_participants hi hr, List.isEmpty_iff, List.filter_eq_nil_iff,
      mem_participants, mem_members_of_ofCatalog hi, decide_eq_true_iff]
    by_cases hex : ∃ t ∈ catalog, h.isConcreteParticipant t = true ∧ h.Under catalog t r
    · rw [if_pos hex, if_neg]
      intro hnone
      rcases hex with ⟨t, ht, hp, hu⟩
      exact hnone t ⟨ht, hp⟩ hu
    · rw [if_neg hex, if_pos]
      intro t ht hu
      exact hex ⟨t, ht.1, ht.2, hu⟩
  · -- An abstract type stands on no line.
    simp [ha]

theorem cover_eq_ok {c : Coverage} :
    i.cover = .ok c ↔
      ∃ ls, i.lines i.participants = .ok ls ∧ ⟨i.members.filterMap (entryFor ls)⟩ = c := by
  rw [cover]
  cases i.lines i.participants with
  | error f => simp
  | ok ls => simp

theorem line_of_cover {c : Coverage} (hc : i.cover = .ok c) (ht : t ∈ i.participants) :
    ∃ line, i.line t = .ok line := by
  rcases cover_eq_ok.1 hc with ⟨ls, hl, _⟩
  rcases lines_eq_ok hl with ⟨hfst, hline⟩
  rw [← hfst, List.mem_map] at ht
  rcases ht with ⟨l, hls, rfl⟩
  exact ⟨l.2, hline l hls⟩

theorem entries_of_cover {c : Coverage} (hi : Index.ofCatalog (h := h) catalog = .ok i)
    (hc : i.cover = .ok c) :
    c.entries = (h.representatives catalog).map fun r => ⟨r, h.covered catalog r⟩ := by
  rcases cover_eq_ok.1 hc with ⟨ls, hl, rfl⟩
  rw [← List.filterMap_eq_map', Hierarchy.representatives, List.filterMap_filter,
    members_of_ofCatalog hi]
  apply List.filterMap_congr
  intro r hr
  rw [entryFor_eq hi hl (List.mem_eraseDups.1 hr)]
  simp only [decide_eq_true_iff]

end Index

/-! ## The coverage of a catalog -/

namespace Coverage

variable {h : Hierarchy} {catalog : List TypeId} {c : Coverage} {t r : TypeId}

theorem count_eq_ok {types : Nat} :
    count h catalog = .ok (types, c) ↔
      ∃ i, Index.ofCatalog (h := h) catalog = .ok i ∧ i.cover = .ok c ∧
        i.members.length = types := by
  rw [count]
  cases Index.ofCatalog (h := h) catalog with
  | error f => simp
  | ok i =>
      simp only [Except.ok.injEq, exists_eq_left']
      cases i.cover with
      | error f => simp
      | ok c' => simp [and_comm]

theorem ofCatalog_eq_ok :
    (Coverage.ofCatalog h catalog).result = .ok c ↔
      ∃ i, Index.ofCatalog (h := h) catalog = .ok i ∧ i.cover = .ok c := by
  unfold Coverage.ofCatalog
  rw [Traced.result_bind_eq_ok]
  constructor
  · rintro ⟨⟨types, c'⟩, hcount, hrest⟩
    rcases Traced.result_bind_eq_ok.1 hrest with ⟨_, _, hlast⟩
    cases hlast
    rcases count_eq_ok.1 hcount with ⟨i, hi, hcov, _⟩
    exact ⟨i, hi, hcov⟩
  · rintro ⟨i, hi, hcov⟩
    exact ⟨(i.members.length, c), count_eq_ok.2 ⟨i, hi, hcov, rfl⟩,
      Traced.result_bind_eq_ok.2 ⟨(), rfl, rfl⟩⟩

theorem entries_of_ofCatalog (hc : (Coverage.ofCatalog h catalog).result = .ok c) :
    c.entries = (h.representatives catalog).map fun r => ⟨r, h.covered catalog r⟩ := by
  rcases ofCatalog_eq_ok.1 hc with ⟨i, hi, hcov⟩
  exact Index.entries_of_cover hi hcov

theorem representatives_of_ofCatalog (hc : (Coverage.ofCatalog h catalog).result = .ok c) :
    c.representatives = h.representatives catalog := by
  rw [representatives, entries_of_ofCatalog hc, List.map_map]
  exact List.map_id _

theorem mem_entries_of_ofCatalog (hc : (Coverage.ofCatalog h catalog).result = .ok c)
    {e : Entry} :
    e ∈ c.entries ↔
      e.representative ∈ h.representatives catalog ∧
        e.covered = h.covered catalog e.representative := by
  rw [entries_of_ofCatalog hc, List.mem_map]
  constructor
  · rintro ⟨r, hr, rfl⟩
    exact ⟨hr, rfl⟩
  · rintro ⟨hr, hcov⟩
    refine ⟨e.representative, hr, ?_⟩
    rw [← hcov]

theorem covers_iff (hc : (Coverage.ofCatalog h catalog).result = .ok c) :
    (∃ e ∈ c.entries, e.representative = r ∧ t ∈ e.covered) ↔
      r ∈ catalog ∧ h.isAbstract r = false ∧
        t ∈ catalog ∧ h.isConcreteParticipant t = true ∧ h.Under catalog t r := by
  constructor
  · rintro ⟨e, he, rfl, ht⟩
    rcases (mem_entries_of_ofCatalog hc).1 he with ⟨hr, hcov⟩
    rcases Hierarchy.mem_representatives.1 hr with ⟨hlisted, ha, _⟩
    rw [hcov, Hierarchy.mem_covered hlisted] at ht
    exact ⟨hlisted, ha, ht⟩
  · rintro ⟨hr, ha, ht⟩
    have hrep : r ∈ h.representatives catalog := Hierarchy.mem_representatives.2 ⟨hr, ha, t, ht⟩
    exact ⟨⟨r, h.covered catalog r⟩, (mem_entries_of_ofCatalog hc).2 ⟨hrep, rfl⟩, rfl,
      (Hierarchy.mem_covered hr).2 ht⟩

/-- The distinct types of a covered catalog have distinct names. -/
theorem distinct_of_ofCatalog (hc : (Coverage.ofCatalog h catalog).result = .ok c) :
    (catalog.eraseDups.map h.name).Nodup := by
  rcases ofCatalog_eq_ok.1 hc with ⟨i, hi, _⟩
  rw [← Index.members_of_ofCatalog hi]
  exact i.distinct

theorem nodup_of_ofCatalog (hc : (Coverage.ofCatalog h catalog).result = .ok c) :
    catalog.eraseDups.Nodup :=
  List.Nodup.of_map h.name (distinct_of_ofCatalog hc)

theorem name_injective (hc : (Coverage.ofCatalog h catalog).result = .ok c) (ht : t ∈ catalog)
    (hr : r ∈ catalog) (hn : h.name t = h.name r) : t = r :=
  List.inj_on_of_nodup_map (distinct_of_ofCatalog hc) (List.mem_eraseDups.2 ht)
    (List.mem_eraseDups.2 hr) hn

theorem nodup_covered (hc : (Coverage.ofCatalog h catalog).result = .ok c) :
    (h.covered catalog r).Nodup := by
  have hbelow : (h.below catalog r).Nodup := (nodup_of_ofCatalog hc).filter _
  unfold Hierarchy.covered
  split
  · refine List.nodup_cons.2 ⟨?_, hbelow⟩
    intro hr
    exact (Hierarchy.mem_below.1 hr).2.2.1 rfl
  · exact hbelow

/-- A participant has the category of each participating representative that it is under. -/
theorem category_eq_of_under (hc : (Coverage.ofCatalog h catalog).result = .ok c)
    (ht : t ∈ catalog) (hp : h.isConcreteParticipant t = true) (hu : h.Under catalog t r)
    (ha : h.isAbstract r = false) (hr : h.category r ≠ .neither) :
    h.category r = h.category t := by
  rcases ofCatalog_eq_ok.1 hc with ⟨i, hi, hcov⟩
  -- Since there is a coverage, the climb from `t` had no fault and so passed no clash.
  have hmem : t ∈ i.participants := by
    rw [Index.mem_participants, Index.mem_members_of_ofCatalog hi]
    exact ⟨ht, hp⟩
  rcases Index.line_of_cover hcov hmem with ⟨line, hl⟩
  rw [← Index.under_members hi] at hu
  exact Index.category_of_line hmem hl hu ha hr

/-! ## Exact coverage -/

/-- The representatives are the non-abstract listed types with a participant under them, by first
occurrence; each covers the participants under it once, itself first and the others by first
occurrence. -/
theorem ofCatalog_exact (hc : (Coverage.ofCatalog h catalog).result = .ok c) :
    (∀ r, r ∈ c.representatives ↔
      r ∈ catalog ∧ h.isAbstract r = false ∧
        ∃ t ∈ catalog, h.isConcreteParticipant t = true ∧ h.Under catalog t r) ∧
    c.representatives.Nodup ∧ c.representatives.Sublist catalog.eraseDups ∧
    ∀ e ∈ c.entries,
      (∀ t, t ∈ e.covered ↔
        t ∈ catalog ∧ h.isConcreteParticipant t = true ∧ h.Under catalog t e.representative) ∧
      e.covered.Nodup ∧
      if h.category e.representative ≠ .neither then
        ∃ others, e.covered = e.representative :: others ∧ others.Sublist catalog.eraseDups
      else e.covered.Sublist catalog.eraseDups := by
  rw [representatives_of_ofCatalog hc]
  refine ⟨fun r => Hierarchy.mem_representatives, ?_, List.filter_sublist, ?_⟩
  · exact (List.Nodup.of_map h.name (distinct_of_ofCatalog hc)).filter _
  · intro e he
    rcases (mem_entries_of_ofCatalog hc).1 he with ⟨hr, hcov⟩
    rcases Hierarchy.mem_representatives.1 hr with ⟨hlisted, ha, _⟩
    rw [hcov]
    refine ⟨fun t => Hierarchy.mem_covered hlisted, nodup_covered hc, ?_⟩
    simp only [Hierarchy.covered, Hierarchy.isConcreteParticipant_iff, ha, true_and]
    split
    · exact ⟨_, rfl, List.filter_sublist⟩
    · exact List.filter_sublist

/-- Notices below a record type for jobs: an abstract type stands between, the framework type above
is not listed, one type is listed twice, and one is its own supertype. -/
def notices : Hierarchy where
  descriptors :=
    #[ { name := "Record", isAbstract := true, supertype := some 5 },
       { name := "Job", supertype := some 0 },
       { name := "Mail", supertype := some 6, category := .jobTrigger },
       { name := "Digest", supertype := some 2, category := .jobTrigger },
       { name := "Run", supertype := some 1, category := .jobInstance },
       { name := "Framework", supertype := some 5 },
       { name := "Notice", isAbstract := true, supertype := some 1, category := .jobTrigger },
       { name := "Loop", isAbstract := true, supertype := some 7 } ]

def noticesListed : List TypeId :=
  [3, 2, 4, 1, 0, 3, 6, 7]

def noticesCoverage : Coverage where
  entries := [⟨3, [3]⟩, ⟨2, [2, 3]⟩, ⟨4, [4]⟩, ⟨1, [3, 2, 4]⟩]

theorem ofCatalog_notices :
    (Coverage.ofCatalog notices noticesListed).result = .ok noticesCoverage := by
  cbv

/-- The base of the jobs covers both triggers, through the abstract type, and the instance. -/
theorem ofCatalog_exact_notices :
    (Coverage.ofCatalog notices noticesListed).result = .ok noticesCoverage ∧
      ∀ t, t ∈ [3, 2, 4] ↔
        t ∈ noticesListed ∧ notices.isConcreteParticipant t = true ∧
          notices.Under noticesListed t 1 := by
  have hbase : (⟨1, [3, 2, 4]⟩ : Entry) ∈ noticesCoverage.entries := by
    simp [noticesCoverage]
  exact ⟨ofCatalog_notices, ((ofCatalog_exact ofCatalog_notices).2.2.2 _ hbase).1⟩

end Coverage
end PartitionKeys
