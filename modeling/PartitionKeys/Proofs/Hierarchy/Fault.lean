import Mathlib
import PartitionKeys.Proofs.Hierarchy.Ascent
import PartitionKeys.Proofs.Hierarchy.Coverage

/-!
# Fault — which catalogs have no coverage, and what is reported of them

A catalog is refused for a name that two of its types share, else for its first participant whose
walk upward meets a type of the other participating category or comes back to where it was.

* `Hierarchy.Offends`, `Hierarchy.Faulty`: what is wrong above a participant;
* `Hierarchy.FirstFault`: the one fault a catalog is refused for;
* `Index.line_eq_error`: the fault of a line;
* `Coverage.exists_ofCatalog_iff`: the catalogs that have a coverage;
* `Coverage.ofCatalog_error_iff_firstFault`: a refusal reports the first fault.
-/

namespace PartitionKeys
namespace Hierarchy

variable {h : Hierarchy} {listed listed' : List TypeId} {t u a b : TypeId}

/-! ## Faults above a participant -/

/-- A type is a fault above `t` when it is not abstract and of the other participating category. -/
def Offends (h : Hierarchy) (t a : TypeId) : Prop :=
  h.isAbstract a = false ∧ h.category a ≠ .neither ∧ h.category a ≠ h.category t

theorem Offends.ne (ha : h.Offends t a) : t ≠ a := by
  rintro rfl
  exact ha.2.2 rfl

/-- The walk upward from `t` meets `a` before any other offender. -/
def NearestOffender (h : Hierarchy) (listed : List TypeId) (t a : TypeId) : Prop :=
  ∃ path, h.Ascent listed t (path ++ [a]) ∧ h.Offends t a ∧ ∀ b ∈ path, ¬h.Offends t b

/-- An offender is met, or a type is met again. -/
def Faulty (h : Hierarchy) (listed : List TypeId) (t : TypeId) : Prop :=
  (∃ a, h.Reaches listed t a ∧ h.Offends t a) ∨
    ∃ path, h.Ascent listed t path ∧ ¬(t :: path).Nodup

theorem NearestOffender.unique (ha : h.NearestOffender listed t a)
    (hb : h.NearestOffender listed t b) : a = b := by
  rcases ha with ⟨path, hpath, hoff, hnone⟩
  rcases hb with ⟨path', hpath', hoff', hnone'⟩
  -- No walk to a nearest offender passes another one.
  have hshort : ∀ {p q : List TypeId} {x : TypeId}, h.Offends t x → (∀ z ∈ q, ¬h.Offends t z) →
      ¬p ++ [x] <+: q := by
    intro p q x hx hq hpre
    exact hq x (hpre.subset (by simp)) hx
  exact hpath.end_unique hpath' (hshort hoff hnone') (hshort hoff' hnone)

theorem NearestOffender.faulty (ha : h.NearestOffender listed t a) : h.Faulty listed t := by
  rcases ha with ⟨path, hpath, hoff, _⟩
  exact Or.inl ⟨a, hpath.reaches (by simp), hoff⟩

theorem FirstRevisited.faulty (hu : h.FirstRevisited listed t u) : h.Faulty listed t := by
  rcases hu with ⟨path, hpath, _, hmem⟩
  exact Or.inr ⟨path ++ [u], hpath, not_nodup_of_mem hmem⟩

theorem nearestOffender_congr (hm : ∀ c, c ∈ listed ↔ c ∈ listed') :
    h.NearestOffender listed = h.NearestOffender listed' := by
  funext t a
  simp only [NearestOffender, ascent_congr hm]

theorem faulty_congr (hm : ∀ c, c ∈ listed ↔ c ∈ listed') :
    h.Faulty listed = h.Faulty listed' := by
  funext t
  simp only [Faulty, ascent_congr hm, reaches_congr hm]

/-! ## The fault of a catalog -/

inductive Fault where
  | sharedName (t : TypeId)
  | mixed (t a : TypeId)
  | cyclic (t u : TypeId)
  deriving DecidableEq, Repr

namespace Fault

def failure (h : Hierarchy) : Fault → Failure
  | .sharedName t => .duplicateName (h.name t)
  | .mixed t a => .mixedChain (h.name t) (h.category t) (h.category a) (h.name a)
  | .cyclic t u => .cyclicChain (h.name t) (h.name u)

def kind : Fault → Report.Kind
  | .sharedName _ | .cyclic _ _ => .invalidCatalog
  | .mixed _ _ => .classification

def subject : Fault → TypeId
  | .sharedName t | .mixed t _ | .cyclic t _ => t

/-- The supertype that is to blame, if one is. -/
def above? : Fault → Option TypeId
  | .sharedName _ => none
  | .mixed _ a => some a
  | .cyclic _ u => some u

/-- The report of a fault names its type and the supertype to blame. -/
theorem report?_failure (h : Hierarchy) (x : Fault) :
    ∃ r, (x.failure h).report? = some r ∧ r.kind = x.kind ∧
      r.context.typeName = .text (h.name x.subject) ∧
      r.context.supertype = (x.above?.map fun u => Value.text (h.name u)).getD .null := by
  cases x with
  | sharedName t => exact ⟨_, rfl, rfl, rfl, rfl⟩
  | mixed t a => exact ⟨_, rfl, rfl, rfl, rfl⟩
  | cyclic t u => exact ⟨_, rfl, rfl, rfl, rfl⟩

end Fault

/-- The concrete participants of a catalog, by first occurrence. -/
def participants (h : Hierarchy) (catalog : List TypeId) : List TypeId :=
  catalog.eraseDups.filter h.isConcreteParticipant

theorem mem_participants {catalog : List TypeId} :
    t ∈ h.participants catalog ↔ t ∈ catalog ∧ h.isConcreteParticipant t = true := by
  simp [participants]

/-- No participant before `t` is faulty. -/
def FirstFaulty (h : Hierarchy) (catalog : List TypeId) (t : TypeId) : Prop :=
  ∃ front back, h.participants catalog = front ++ t :: back ∧ ∀ u ∈ front, ¬h.Faulty catalog u

/-- Shared names count first, wherever they stand; of one participant an offender counts before a
repeat, wherever on the walk they are met. -/
def FirstFault (h : Hierarchy) (catalog : List TypeId) : Fault → Prop
  | .sharedName t =>
      ∃ front back, catalog = front ++ t :: back ∧ h.DistinctNames front ∧
        ∃ u ∈ front, h.name u = h.name t ∧ u ≠ t
  | .mixed t a =>
      h.DistinctNames catalog ∧ h.FirstFaulty catalog t ∧ h.NearestOffender catalog t a
  | .cyclic t u =>
      h.DistinctNames catalog ∧ h.FirstFaulty catalog t ∧
        (∀ a, h.Reaches catalog t a → ¬h.Offends t a) ∧ h.FirstRevisited catalog t u

end Hierarchy

/-! ## Faults of lines -/

namespace Index

variable {h : Hierarchy} {i : Index h} {catalog : List TypeId} {t a : TypeId} {f : Failure}

theorem clashes_iff : clashes h t a = true ↔ h.Offends t a := by
  simp [clashes, Hierarchy.Offends, and_assoc, and_comm]

theorem find?_clashes_eq_none_iff (ht : t ∈ i.members) :
    (i.climb t).passed.find? (clashes h t) = none ↔
      ∀ a, h.Reaches i.members t a → ¬h.Offends t a := by
  simp only [List.find?_eq_none, clashes_iff, mem_climb_iff ht]
  constructor
  · intro hnone a hr ha
    exact hnone a ⟨ha.ne, hr⟩ ha
  · intro hnone a hr
    exact hnone a hr.2

theorem nearestOffender_of_find? (hf : (i.climb t).passed.find? (clashes h t) = some a) :
    h.NearestOffender i.members t a := by
  rcases List.find?_eq_some_iff_append.1 hf with ⟨ha, front, back, hsplit, hfront⟩
  have hwalk : h.Ascent i.members t (i.climb t).passed := climb_ascent i t
  refine ⟨front, hwalk.of_prefix ⟨back, by simp [hsplit]⟩, clashes_iff.1 ha, ?_⟩
  intro b hb hoff
  simpa [clashes_iff.2 hoff] using hfront b hb

theorem find?_clashes_eq_some_iff (ht : t ∈ i.members) :
    (i.climb t).passed.find? (clashes h t) = some a ↔ h.NearestOffender i.members t a := by
  refine ⟨nearestOffender_of_find?, ?_⟩
  intro ha
  cases hf : (i.climb t).passed.find? (clashes h t) with
  | some b =>
      rw [(nearestOffender_of_find? hf).unique ha]
  | none =>
      rcases ha with ⟨path, hpath, hoff, _⟩
      exact absurd hoff ((find?_clashes_eq_none_iff ht).1 hf a (hpath.reaches (by simp)))

theorem line_eq_error (ht : t ∈ i.members) :
    i.line t = .error f ↔
      (∃ a, h.NearestOffender i.members t a ∧ (Hierarchy.Fault.mixed t a).failure h = f) ∨
        (∀ a, h.Reaches i.members t a → ¬h.Offends t a) ∧
          ∃ u, h.FirstRevisited i.members t u ∧ (Hierarchy.Fault.cyclic t u).failure h = f := by
  simp only [← find?_clashes_eq_some_iff ht, ← find?_clashes_eq_none_iff ht,
    ← stop_eq_revisits_iff ht, line]
  cases (i.climb t).passed.find? (clashes h t) with
  | some a => simp [Hierarchy.Fault.failure]
  | none =>
      cases (i.climb t).stop with
      | ended => simp
      | revisits u => simp [Hierarchy.Fault.failure]

theorem exists_line_iff (ht : t ∈ i.members) :
    (∃ line, i.line t = .ok line) ↔ ¬h.Faulty i.members t := by
  have hclash : (∀ a ∈ (i.climb t).passed, clashes h t a = false) ↔
      ∀ a, h.Reaches i.members t a → ¬h.Offends t a := by
    rw [← find?_clashes_eq_none_iff ht]
    simp
  simp only [line_eq_ok, hclash, stop_eq_ended_iff ht, exists_and_left, exists_eq', and_true,
    Hierarchy.Faulty, not_or, not_exists, not_and, not_not]

theorem lines_eq_error {ts : List TypeId} :
    i.lines ts = .error f ↔
      ∃ front t back, ts = front ++ t :: back ∧ (∀ u ∈ front, ∃ line, i.line u = .ok line) ∧
        i.line t = .error f := by
  induction ts with
  | nil =>
      simp [lines]
  | cons t rest ih =>
      constructor
      · intro herr
        rw [lines] at herr
        cases ht : i.line t with
        | error g =>
            have hg : g = f := by
              simpa [ht] using herr
            exact ⟨[], t, rest, rfl, by simp, hg ▸ ht⟩
        | ok line =>
            rw [ht] at herr
            cases hrest : i.lines rest with
            | ok ls =>
                simp [hrest] at herr
            | error g =>
                simp only [hrest, Except.error.injEq] at herr
                rcases ih.1 (hrest.trans (congrArg _ herr)) with ⟨front, u, back, rfl, hfront, hu⟩
                refine ⟨t :: front, u, back, rfl, ?_, hu⟩
                rw [List.forall_mem_cons]
                exact ⟨⟨line, ht⟩, hfront⟩
      · rintro ⟨front, u, back, hsplit, hfront, hu⟩
        rw [lines]
        cases front with
        | nil =>
            cases hsplit
            rw [hu]
        | cons v front =>
            cases hsplit
            rcases List.forall_mem_cons.1 hfront with ⟨⟨line, ht⟩, hfront⟩
            rw [ht, ih.2 ⟨front, u, back, rfl, hfront, hu⟩]

theorem participants_of_ofCatalog (hi : Index.ofCatalog (h := h) catalog = .ok i) :
    i.participants = h.participants catalog := by
  rw [participants, Hierarchy.participants, members_of_ofCatalog hi]

theorem lines_participants_eq_error (hi : Index.ofCatalog (h := h) catalog = .ok i) :
    i.lines i.participants = .error f ↔
      ∃ t, h.FirstFaulty catalog t ∧
        ((∃ a, h.NearestOffender catalog t a ∧ (Hierarchy.Fault.mixed t a).failure h = f) ∨
          (∀ a, h.Reaches catalog t a → ¬h.Offends t a) ∧
            ∃ u, h.FirstRevisited catalog t u ∧ (Hierarchy.Fault.cyclic t u).failure h = f) := by
  have hlisted : ∀ {front back : List TypeId} {t : TypeId},
      h.participants catalog = front ++ t :: back → ∀ u ∈ front ++ [t], u ∈ i.members := by
    intro front back t hsplit u hu
    have hp : u ∈ h.participants catalog := by
      rw [hsplit, List.append_cons]
      exact List.mem_append_left back hu
    exact (mem_members_of_ofCatalog hi).2 (Hierarchy.mem_participants.1 hp).1
  have hm : ∀ c, c ∈ i.members ↔ c ∈ catalog := fun c => mem_members_of_ofCatalog hi
  simp only [lines_eq_error, participants_of_ofCatalog hi, Hierarchy.FirstFaulty]
  constructor
  · rintro ⟨front, t, back, hsplit, hfront, ht⟩
    refine ⟨t, ⟨front, back, hsplit, ?_⟩, ?_⟩
    · intro u hu
      rw [← Hierarchy.faulty_congr hm]
      exact (exists_line_iff (hlisted hsplit u (by simp [hu]))).1 (hfront u hu)
    · rw [line_eq_error (hlisted hsplit t (by simp)), Hierarchy.nearestOffender_congr hm,
        Hierarchy.reaches_congr hm, Hierarchy.firstRevisited_congr hm] at ht
      exact ht
  · rintro ⟨t, ⟨front, back, hsplit, hfront⟩, ht⟩
    refine ⟨front, t, back, hsplit, ?_, ?_⟩
    · intro u hu
      rw [exists_line_iff (hlisted hsplit u (by simp [hu])), Hierarchy.faulty_congr hm]
      exact hfront u hu
    · rw [line_eq_error (hlisted hsplit t (by simp)), Hierarchy.nearestOffender_congr hm,
        Hierarchy.reaches_congr hm, Hierarchy.firstRevisited_congr hm]
      exact ht

end Index

/-! ## Refusals -/

namespace Coverage

variable {h : Hierarchy} {catalog : List TypeId} {f : Failure}

theorem count_eq_error :
    count h catalog = .error f ↔
      Index.ofCatalog (h := h) catalog = .error f ∨
        ∃ i, Index.ofCatalog (h := h) catalog = .ok i ∧ i.lines i.participants = .error f := by
  rw [count]
  cases Index.ofCatalog (h := h) catalog with
  | error g => simp
  | ok i =>
      simp only [Index.cover, reduceCtorEq, Except.ok.injEq, exists_eq_left', false_or]
      cases i.lines i.participants with
      | error g => simp
      | ok ls => simp

theorem ofCatalog_eq_error :
    (Coverage.ofCatalog h catalog).result = .error f ↔
      ∃ x, h.FirstFault catalog x ∧ x.failure h = f := by
  have hcount : (Coverage.ofCatalog h catalog).result = .error f ↔ count h catalog = .error f := by
    unfold Coverage.ofCatalog
    cases hc : count h catalog with
    | error g =>
        show Except.error g = .error f ↔ _
        simp
    | ok c =>
        show Except.ok c.2 = .error f ↔ _
        simp
  rw [hcount, count_eq_error, Index.ofCatalog_eq_error]
  constructor
  · rintro (⟨front, t, back, hsplit, hd, hshared, hf⟩ | ⟨i, hi, hl⟩)
    · exact ⟨.sharedName t, ⟨front, back, hsplit, hd, hshared⟩, hf⟩
    · have hd : h.DistinctNames catalog := Index.exists_ofCatalog_iff.1 ⟨i, hi⟩
      rcases (Index.lines_participants_eq_error hi).1 hl with
        ⟨t, ht, ⟨a, ha, hf⟩ | ⟨hnone, u, hu, hf⟩⟩
      · exact ⟨.mixed t a, ⟨hd, ht, ha⟩, hf⟩
      · exact ⟨.cyclic t u, ⟨hd, ht, hnone, hu⟩, hf⟩
  · rintro ⟨x, hx, hf⟩
    cases x with
    | sharedName t =>
        rcases hx with ⟨front, back, hsplit, hd, hshared⟩
        exact Or.inl ⟨front, t, back, hsplit, hd, hshared, hf⟩
    | mixed t a =>
        rcases hx with ⟨hd, ht, ha⟩
        rcases Index.exists_ofCatalog_iff.2 hd with ⟨i, hi⟩
        exact Or.inr ⟨i, hi, (Index.lines_participants_eq_error hi).2 ⟨t, ht, Or.inl ⟨a, ha, hf⟩⟩⟩
    | cyclic t u =>
        rcases hx with ⟨hd, ht, hnone, hu⟩
        rcases Index.exists_ofCatalog_iff.2 hd with ⟨i, hi⟩
        exact Or.inr
          ⟨i, hi, (Index.lines_participants_eq_error hi).2 ⟨t, ht, Or.inr ⟨hnone, u, hu, hf⟩⟩⟩

theorem exists_ofCatalog_iff :
    (∃ c, (Coverage.ofCatalog h catalog).result = .ok c) ↔
      h.DistinctNames catalog ∧
        ∀ t ∈ catalog, h.isConcreteParticipant t = true → ¬h.Faulty catalog t := by
  constructor
  · rintro ⟨c, hc⟩
    rcases ofCatalog_eq_ok.1 hc with ⟨i, hi, hcov⟩
    refine ⟨Index.exists_ofCatalog_iff.1 ⟨i, hi⟩, ?_⟩
    intro t ht hp
    have hlisted : t ∈ i.members := (Index.mem_members_of_ofCatalog hi).2 ht
    rw [← Hierarchy.faulty_congr fun a => Index.mem_members_of_ofCatalog hi,
      ← Index.exists_line_iff hlisted]
    exact Index.line_of_cover hcov (Index.mem_participants.2 ⟨hlisted, hp⟩)
  · rintro ⟨hd, hsound⟩
    cases hres : (Coverage.ofCatalog h catalog).result with
    | ok c =>
        exact ⟨c, rfl⟩
    | error f =>
        -- A refusal would be for a shared name or a faulty participant.
        have hfirst : ∀ t, h.FirstFaulty catalog t → ¬h.Faulty catalog t := by
          rintro t ⟨front, back, hsplit, _⟩
          have ht : t ∈ h.participants catalog := by
            simp [hsplit]
          rcases Hierarchy.mem_participants.1 ht with ⟨hlisted, hp⟩
          exact hsound t hlisted hp
        rcases ofCatalog_eq_error.1 hres with ⟨x, hx, _⟩
        cases x with
        | sharedName t =>
            rcases hx with ⟨front, back, rfl, _, u, hu, hname, hne⟩
            exact absurd (hd u (by simp [hu]) t (by simp) hname) hne
        | mixed t a =>
            rcases hx with ⟨_, ht, ha⟩
            exact absurd ha.faulty (hfirst t ht)
        | cyclic t u =>
            rcases hx with ⟨_, ht, _, hu⟩
            exact absurd hu.faulty (hfirst t ht)

/-- A catalog is refused exactly when it has a first fault, and that fault is what is reported, by
kind, type and supertype.  It has a coverage when its names are distinct and no participant is
faulty. -/
theorem ofCatalog_error_iff_firstFault (h : Hierarchy) (catalog : List TypeId) :
    (∀ f, (Coverage.ofCatalog h catalog).result = .error f ↔
      ∃ x, h.FirstFault catalog x ∧ x.failure h = f) ∧
    (∀ x : Hierarchy.Fault, ∃ r, (x.failure h).report? = some r ∧ r.kind = x.kind ∧
      r.context.typeName = .text (h.name x.subject) ∧
      r.context.supertype = (x.above?.map fun u => Value.text (h.name u)).getD .null) ∧
    ((∃ c, (Coverage.ofCatalog h catalog).result = .ok c) ↔
      h.DistinctNames catalog ∧
        ∀ t ∈ catalog, h.isConcreteParticipant t = true → ¬h.Faulty catalog t) :=
  ⟨fun _ => ofCatalog_eq_error, Hierarchy.Fault.report?_failure h, exists_ofCatalog_iff⟩

/-- A run below a trigger that stands in a circle is refused for the trigger. -/
example :
    (Coverage.ofCatalog
      ⟨#[{ name := "Run", supertype := some 1, category := .jobInstance },
        { name := "Loop", isAbstract := true, supertype := some 2 },
        { name := "Mail", supertype := some 1, category := .jobTrigger }]⟩ [0, 1, 2]).result =
      .error (.mixedChain "Run" .jobInstance .jobTrigger "Mail") := by
  cbv

end Coverage
end PartitionKeys
