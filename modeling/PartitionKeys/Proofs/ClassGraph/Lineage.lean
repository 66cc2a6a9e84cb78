import Mathlib.Logic.Relation
import PartitionKeys.ClassGraph.Declaration
import PartitionKeys.Proofs.ClassGraph.Merge

/-!
# Lineage — the superclasses of a class, each before its own superclasses

The lineages of a graph are computed class by class, each from those of its bases.  What they hold
is measured against the bases alone.

* `ClassGraph.Descends`: a class descends from itself and from all that its bases descend from;
* `Declared.ofValues_ordered`: declared classes stand after their bases;
* `Lineages.merged_of_linearized`: every lineage is a merge of the lineages of the bases;
* `Lineages.mem_lineage_iff`: a lineage holds what its class descends from;
* `Lineages.lineage_sublist`: it keeps the order of every lineage it passes through;
* `Lineages.pair_sublist_lineage`: a class stands before the classes it descends from.
-/

namespace PartitionKeys

/-! ## Descent -/

namespace ClassGraph

variable {g : ClassGraph} {a b c : ClassId}

/-- The bases of a class stand before it: a class is declared after its bases. -/
def Ordered (g : ClassGraph) : Prop :=
  ∀ c, ∀ b ∈ (g.get c).bases, b < c

/-- Subclasses, however far: each step leads to a base. -/
def Descends (g : ClassGraph) : ClassId → ClassId → Prop :=
  Relation.ReflTransGen fun c b => b ∈ (g.get c).bases

theorem Descends.refl (g : ClassGraph) (c : ClassId) : g.Descends c c :=
  Relation.ReflTransGen.refl

theorem Descends.trans (hab : g.Descends a b) (hbc : g.Descends b c) : g.Descends a c :=
  Relation.ReflTransGen.trans hab hbc

theorem descends_iff : g.Descends c a ↔ a = c ∨ ∃ b ∈ (g.get c).bases, g.Descends b a := by
  rw [Descends, Relation.ReflTransGen.cases_head_iff, eq_comm]

theorem Descends.le (hg : g.Ordered) (hd : g.Descends c a) : a ≤ c := by
  induction hd using Relation.ReflTransGen.head_induction_on with
  | refl => exact Nat.le_refl a
  | head hb _ ih => exact Nat.le_trans ih (Nat.le_of_lt (hg _ _ hb))

theorem bases_of_size_le (hc : g.size ≤ c) : (g.get c).bases = [] := by
  have hnone : g.classes[c]? = none := Array.getElem?_eq_none hc
  simp [get, Array.getD_eq_getD_getElem?, hnone, default, instInhabitedRecordClass.default]

theorem lt_size_of_mem_bases (hb : b ∈ (g.get c).bases) : c < g.size := by
  rcases Nat.lt_or_ge c g.size with hc | hc
  · exact hc
  · simp [bases_of_size_le hc] at hb

instance (g : ClassGraph) : Decidable g.Ordered :=
  decidable_of_iff (∀ c < g.size, ∀ b ∈ (g.get c).bases, b < c)
    ⟨fun h c b hb => h c (lt_size_of_mem_bases hb) b hb, fun h c _ => h c⟩

end ClassGraph

/-! ## Declared classes -/

namespace Declared

variable {d : Declared}

/-- Every class has a label, and its bases stand before it. -/
def Ordered (d : Declared) : Prop :=
  d.labels.length = d.graph.size ∧ d.graph.Ordered

theorem id?_lt {label : String} {c : ClassId} (hc : d.id? label = some c) :
    c < d.labels.length := by
  rcases Option.map_eq_some_iff.1 hc with ⟨e, he, rfl⟩
  have hmem : e ∈ d.labels.zipIdx := List.mem_reverse.1 (List.mem_of_find?_eq_some he)
  simpa using (List.mem_zipIdx hmem).2.1

theorem withMark_bases (k : RecordClass) (mark : Option Value) :
    (withMark k mark).bases = k.bases := by
  cases mark <;> rfl

theorem ordered_add (hd : d.Ordered) (fields : Fields) : (d.add fields).Ordered := by
  rcases hd with ⟨hsize, hg⟩
  refine ⟨by simp [add, ClassGraph.add, ClassGraph.size, hsize], ?_⟩
  intro c b hb
  have hget : (d.add fields).graph.get c =
      ((d.graph.classes.push (withMark _ (fields.get? "flag")))[c]?).getD default :=
    Array.getD_eq_getD_getElem?
  rw [hget, Array.getElem?_push] at hb
  split at hb
  · rename_i hc
    -- The new class: its bases are found among the labels so far.
    rw [Option.getD_some, withMark_bases, List.mem_filterMap] at hb
    rcases hb with ⟨label, _, hid⟩
    have hlt : b < d.graph.size := hsize ▸ id?_lt hid
    exact hc ▸ hlt
  · exact hg c b (by rwa [ClassGraph.get, Array.getD_eq_getD_getElem?])

theorem ofValues_ordered (records : List Value) : (ofValues records).graph.Ordered := by
  have hstart : ({} : Declared).Ordered := by
    refine ⟨rfl, ?_⟩
    intro c b hb
    match c with
    | 0 => cases hb
    | 1 => cases hb
    | c + 2 =>
        have hsize : ClassGraph.size {} ≤ c + 2 := Nat.le_add_left 2 c
        simp [ClassGraph.bases_of_size_le hsize] at hb
  have hall : (ofValues records).Ordered := by
    rw [ofValues]
    refine List.foldlRecOn records _ hstart ?_
    intro d hd v _
    cases v with
    | record fields => exact ordered_add hd fields
    | _ => exact hd
  exact hall.2

end Declared

/-! ## Lineages as merges -/

namespace Lineages

variable {g : ClassGraph} {l l' : Lineages} {a b c p : ClassId}

/-- The lineage of a class starts with it and goes on with the merge of what its bases bring. -/
def Merged (l : Lineages) (c : ClassId) : Prop :=
  ∃ tail, Linearization.merge
      ((l.graph.get c).bases.map l.lineage ++ [(l.graph.get c).bases]) = .ok tail ∧
    l.lineage c = c :: tail

theorem extend_eq_ok :
    l.extend c = .ok l' ↔
      (l.graph.name c).toList.contains (Char.ofNat 0) = false ∧
        Linearization.repeated? (l.graph.get c).bases = none ∧
        ∃ tail, Linearization.merge
            ((l.graph.get c).bases.map l.lineage ++ [(l.graph.get c).bases]) = .ok tail ∧
          { l with rows := l.rows.push (c :: tail) } = l' := by
  simp only [extend, Linearization.ofBases]
  cases (l.graph.name c).toList.contains (Char.ofNat 0) with
  | true => simp
  | false =>
      cases Linearization.repeated? (l.graph.get c).bases with
      | some b => simp
      | none =>
          cases Linearization.merge
              ((l.graph.get c).bases.map l.lineage ++ [(l.graph.get c).bases]) with
          | error rows => simp [Except.map]
          | ok tail => simp [Except.map]

theorem extendAll_cons_eq_ok {rest : List ClassId} :
    l.extendAll (c :: rest) = .ok l' ↔ ∃ k, l.extend c = .ok k ∧ k.extendAll rest = .ok l' := by
  rw [extendAll]
  cases l.extend c with
  | error f => simp
  | ok k => simp

/-- The next row of a table of lineages, once its merge is known. -/
theorem extendAll_cons_of_merge {rest : List ClassId} (tail : List ClassId)
    (hname : (l.graph.name c).toList.contains (Char.ofNat 0) = false)
    (hbases : Linearization.repeated? (l.graph.get c).bases = none)
    (hmerge : Linearization.merge
      ((l.graph.get c).bases.map l.lineage ++ [(l.graph.get c).bases]) = .ok tail)
    (hrest : ({ l with rows := l.rows.push (c :: tail) } : Lineages).extendAll rest = .ok l') :
    l.extendAll (c :: rest) = .ok l' :=
  extendAll_cons_eq_ok.2 ⟨_, extend_eq_ok.2 ⟨hname, hbases, tail, hmerge, rfl⟩, hrest⟩

theorem lineage_push (row : List ClassId) (hc : c < l.rows.size) :
    ({ l with rows := l.rows.push row } : Lineages).lineage c = l.lineage c := by
  simp [lineage, Array.getD_eq_getD_getElem?, Array.getElem?_push, Nat.ne_of_lt hc]

theorem lineage_push_self (row : List ClassId) :
    ({ l with rows := l.rows.push row } : Lineages).lineage l.rows.size = row := by
  simp [lineage, Array.getD_eq_getD_getElem?]

theorem lineage_of_size_le (hc : l.rows.size ≤ c) : l.lineage c = [c] := by
  simp [lineage, Array.getD_eq_getD_getElem?, Array.getElem?_eq_none hc]

/-- One more class leaves the lineages before it as they are, those of its bases among them. -/
theorem merged_extend (hg : l.graph.Ordered) (hall : ∀ c < l.rows.size, l.Merged c)
    (he : l.extend l.rows.size = .ok l') :
    l'.graph = l.graph ∧ l'.rows.size = l.rows.size + 1 ∧ ∀ c < l'.rows.size, l'.Merged c := by
  rcases extend_eq_ok.1 he with ⟨_, _, tail, hmerge, rfl⟩
  refine ⟨rfl, by simp, ?_⟩
  intro c hc
  have hc' : c < l.rows.size + 1 := by
    simpa using hc
  -- The new row is behind all that a class up to it takes from its bases.
  have hbases : ((l.graph.get c).bases.map
      ({ l with rows := l.rows.push (l.rows.size :: tail) } : Lineages).lineage) =
        (l.graph.get c).bases.map l.lineage := by
    apply List.map_congr_left
    intro b hb
    exact lineage_push _ (Nat.lt_of_lt_of_le (hg c b hb) (Nat.le_of_lt_succ hc'))
  unfold Merged
  rw [hbases]
  rcases Nat.lt_succ_iff_lt_or_eq.1 hc' with hlt | rfl
  · rcases hall c hlt with ⟨rest, hrest, hline⟩
    exact ⟨rest, hrest, (lineage_push _ hlt).trans hline⟩
  · exact ⟨tail, hmerge, lineage_push_self _⟩

theorem merged_extendAll {n : Nat} (hg : l.graph.Ordered) (hall : ∀ c < l.rows.size, l.Merged c)
    (he : l.extendAll (List.range' l.rows.size n) = .ok l') :
    l'.graph = l.graph ∧ l'.rows.size = l.rows.size + n ∧ ∀ c < l'.rows.size, l'.Merged c := by
  induction n generalizing l with
  | zero =>
      cases he
      exact ⟨rfl, rfl, hall⟩
  | succ n ih =>
      rw [List.range'_succ, extendAll_cons_eq_ok] at he
      rcases he with ⟨k, hk, he⟩
      rcases merged_extend hg hall hk with ⟨hgraph, hsize, hmerged⟩
      rcases ih (hgraph ▸ hg) hmerged (by rwa [hsize]) with ⟨hgraph', hsize', hmerged'⟩
      exact ⟨hgraph'.trans hgraph, by omega, hmerged'⟩

theorem merged_of_linearized (hg : g.Ordered) (hl : g.linearized = .ok l) :
    l.graph = g ∧ ∀ c, l.Merged c := by
  rw [ClassGraph.linearized, ClassGraph.all, List.range_eq_range'] at hl
  rcases merged_extendAll (l := ⟨g, #[]⟩) hg (by simp) hl with ⟨hgraph, hsize, hmerged⟩
  refine ⟨hgraph, ?_⟩
  intro c
  by_cases hc : c < l.rows.size
  · exact hmerged c hc
  · -- A class that is not declared has no bases and stands alone.
    have hbases : (l.graph.get c).bases = [] := by
      have hsize' : l.rows.size = g.size := by
        simpa using hsize
      have hle : l.graph.size ≤ c := by
        rw [hgraph, ← hsize']
        exact Nat.le_of_not_lt hc
      exact ClassGraph.bases_of_size_le hle
    refine ⟨[], ?_, lineage_of_size_le (Nat.le_of_not_lt hc)⟩
    rw [hbases, Linearization.merge_eq_ok_nil]
    rfl

/-! ## What a lineage holds -/

theorem mem_lineage_iff (hg : g.Ordered) (hl : g.linearized = .ok l) :
    a ∈ l.lineage c ↔ g.Descends c a := by
  rcases merged_of_linearized hg hl with ⟨rfl, hmerged⟩
  -- The bases stand before `c`, so their lineages are known.
  induction c using Nat.strongRecOn with
  | ind c ih =>
      rcases hmerged c with ⟨tail, hmerge, hline⟩
      rw [hline, List.mem_cons, Linearization.mem_merge_iff hmerge, ClassGraph.descends_iff]
      refine or_congr_right ?_
      simp only [List.mem_append, List.mem_map, List.mem_singleton]
      constructor
      · rintro ⟨row, ⟨b, hb, rfl⟩ | rfl, ha⟩
        · exact ⟨b, hb, (ih b (hg c b hb)).1 ha⟩
        · exact ⟨a, ha, ClassGraph.Descends.refl _ a⟩
      · rintro ⟨b, hb, ha⟩
        exact ⟨_, Or.inl ⟨b, hb, rfl⟩, (ih b (hg c b hb)).2 ha⟩

theorem isSubclass_iff (hg : g.Ordered) (hl : g.linearized = .ok l) :
    l.isSubclass c a = true ↔ g.Descends c a := by
  rw [isSubclass, List.contains_iff_mem, mem_lineage_iff hg hl]

theorem lineage_nodup (hg : g.Ordered) (hl : g.linearized = .ok l) : (l.lineage c).Nodup := by
  rcases merged_of_linearized hg hl with ⟨hgraph, hmerged⟩
  rcases hmerged c with ⟨tail, hmerge, hline⟩
  rw [hline, List.nodup_cons]
  refine ⟨?_, Linearization.nodup_of_merge hmerge⟩
  intro hself
  -- All that the bases bring stands before the class.
  rcases (Linearization.mem_merge_iff hmerge).1 hself with ⟨row, hrow, hc⟩
  simp only [hgraph, List.mem_append, List.mem_map, List.mem_singleton] at hrow
  rcases hrow with ⟨b, hb, rfl⟩ | rfl
  · have hle : c ≤ b := ((mem_lineage_iff hg hl).1 hc).le hg
    exact absurd (hg c b hb) (Nat.not_lt.2 hle)
  · exact absurd (hg c c hc) (Nat.lt_irrefl c)

theorem lineage_sublist (hg : g.Ordered) (hl : g.linearized = .ok l) (hd : g.Descends c a) :
    (l.lineage a).Sublist (l.lineage c) := by
  rcases merged_of_linearized hg hl with ⟨rfl, hmerged⟩
  -- By induction from `a` down to `c`: each base passes its whole lineage on.
  induction hd using Relation.ReflTransGen.head_induction_on with
  | refl => exact List.Sublist.refl _
  | @head c b hb _ ih =>
      rcases hmerged c with ⟨tail, hmerge, hline⟩
      have hrow : (l.lineage b).Sublist tail := by
        apply Linearization.sublist_of_merge hmerge
        exact List.mem_append_left _ (List.mem_map_of_mem hb)
      rw [hline]
      exact (ih.trans hrow).cons c

/-- Behind a class stand its strict superclasses. -/
theorem mem_tail_lineage_iff (hg : g.Ordered) (hl : g.linearized = .ok l) :
    a ∈ (l.lineage c).tail ↔ a ≠ c ∧ g.Descends c a := by
  rcases (merged_of_linearized hg hl).2 c with ⟨tail, _, hline⟩
  have hnodup : (l.lineage c).Nodup := lineage_nodup hg hl
  rw [hline, List.nodup_cons] at hnodup
  rw [← mem_lineage_iff hg hl, hline, List.mem_cons, List.tail_cons]
  constructor
  · intro ha
    refine ⟨?_, Or.inr ha⟩
    rintro rfl
    exact hnodup.1 ha
  · rintro ⟨hne, ha⟩
    exact ha.resolve_left hne

/-- A class stands before the other classes it descends from, in every lineage it stands in. -/
theorem pair_sublist_lineage (hg : g.Ordered) (hl : g.linearized = .ok l) (hca : g.Descends c a)
    (hap : g.Descends a p) (hne : a ≠ p) : [a, p].Sublist (l.lineage c) := by
  rcases (merged_of_linearized hg hl).2 a with ⟨tail, _, hline⟩
  have hp : p ∈ (l.lineage a).tail := (mem_tail_lineage_iff hg hl).2 ⟨hne.symm, hap⟩
  have hpair : [a, p].Sublist (l.lineage a) := by
    rw [hline] at hp ⊢
    exact (List.singleton_sublist.2 hp).cons_cons a
  exact hpair.trans (lineage_sublist hg hl hca)

theorem pair_sublist_tail_lineage (hg : g.Ordered) (hl : g.linearized = .ok l)
    (hac : a ≠ c) (hca : g.Descends c a) (hap : g.Descends a p) (hne : a ≠ p) :
    [a, p].Sublist (l.lineage c).tail := by
  rcases (merged_of_linearized hg hl).2 c with ⟨tail, _, hline⟩
  have hpair := pair_sublist_lineage hg hl hca hap hne
  rw [hline] at hpair ⊢
  cases hpair with
  | cons _ hrest => exact hrest
  | cons_cons => exact absurd rfl hac

end Lineages
end PartitionKeys
