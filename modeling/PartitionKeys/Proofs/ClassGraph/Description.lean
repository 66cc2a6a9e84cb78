import Mathlib.Logic.Relation
import PartitionKeys.Proofs.ClassGraph.Catalog
import PartitionKeys.Proofs.Except
import PartitionKeys.Proofs.Hierarchy.Reach

/-!
# Description — what is kept while classes are described

A class is described after its supertype, and what is made is kept.  Whatever has been described
so far, a further class adds descriptors and changes none: those of its chain that are missing,
from the top.  So the first class of a chain that cannot be classified is the topmost one.

* `Described.Sound`: every kept descriptor tells of its class and extends what its parent got;
* `ClassCatalog.Chain`, `ClassCatalog.Topmost`: the parents above a class, and the first to refuse;
* `ClassCatalog.sound_of_describe`, `ClassCatalog.topmost_of_describe`: describing one class;
* `ClassCatalog.sound_of_describeAll`, `ClassCatalog.topmost_of_describeAll`: several in turn;
* `ClassCatalog.Gives`: the descriptors of a listing are those that were kept.
-/

namespace PartitionKeys

/-! ## Kept descriptors -/

namespace Hierarchy

variable {h : Hierarchy} {d : TypeDescriptor} {t : TypeId}

theorem get_add_of_lt (ht : t < h.size) : (h.add d).2.get t = h.get t := by
  simp only [size] at ht
  simp [add, get, Array.getD_eq_getD_getElem?, Array.getElem?_push, Nat.ne_of_lt ht]

theorem get_add_self (h : Hierarchy) (d : TypeDescriptor) : (h.add d).2.get h.size = d := by
  simp [add, get, size, Array.getD_eq_getD_getElem?]

theorem size_add (h : Hierarchy) (d : TypeDescriptor) : (h.add d).2.size = h.size + 1 := by
  simp [add, size]

theorem get_of_size_le (ht : h.size ≤ t) : h.get t = default := by
  simp only [size] at ht
  simp [get, Array.getD_eq_getD_getElem?, Nat.not_lt.2 ht]

end Hierarchy

namespace Described

variable {c : ClassCatalog} {d d' d'' : Described} {descriptor : TypeDescriptor}
  {category : Category} {k k' p : ClassId} {t u : TypeId}

theorem find?_keep :
    (d.keep k descriptor).2.find? k' = if k' = k then some d.hierarchy.size else d.find? k' := by
  by_cases hk : k' = k
  · simp [keep, find?, Hierarchy.add, hk]
  · have hne : (k' == k) = false := beq_false_of_ne hk
    simp [keep, find?, Hierarchy.add, List.lookup_cons, hne, hk]

theorem find?_keep_cases (hk' : (d.keep k descriptor).2.find? k' = some t) :
    (k' = k ∧ t = d.hierarchy.size) ∨ d.find? k' = some t := by
  rw [find?_keep] at hk'
  split at hk'
  · rename_i heq
    exact Or.inl ⟨heq, (Option.some.inj hk').symm⟩
  · exact Or.inr hk'

/-- What is kept for a class stays so. -/
def Within (d d' : Described) : Prop :=
  ∀ k t, d.find? k = some t → d'.find? k = some t

theorem Within.refl (d : Described) : d.Within d :=
  fun _ _ hk => hk

theorem Within.trans (h : d.Within d') (h' : d'.Within d'') : d.Within d'' :=
  fun k t hk => h' k t (h k t hk)

theorem within_keep (hnew : d.find? k = none) : d.Within (d.keep k descriptor).2 := by
  intro k' t hk'
  have hne : k' ≠ k := by
    rintro rfl
    simp [hnew] at hk'
  rw [find?_keep, if_neg hne, hk']

/-- A parent that had its descriptor before is not described anew. -/
theorem bind_find?_keep (hnew : d.find? k = none)
    (hfound : ∀ p, c.parent k' = some p → ∃ u, d.find? p = some u) :
    (c.parent k').bind (d.keep k descriptor).2.find? = (c.parent k').bind d.find? := by
  cases hp : c.parent k' with
  | none => rfl
  | some p =>
      rcases hfound p hp with ⟨u, hu⟩
      have hkept : (d.keep k descriptor).2.find? p = some u := within_keep hnew p u hu
      exact hkept.trans hu.symm

/-- Every descriptor is kept for one class and tells of it; its supertype is what is kept for the
parent, which is described as well. -/
structure Sound (d : Described) (c : ClassCatalog) : Prop where
  lt_size : ∀ k t, d.find? k = some t → t < d.hierarchy.size
  exists_class : ∀ t < d.hierarchy.size, ∃ k, d.find? k = some t
  get_eq : ∀ k t, d.find? k = some t → ∃ category, c.classify k = .ok category ∧
    d.hierarchy.get t = c.descriptor k ((c.parent k).bind d.find?) category
  parent_found : ∀ k t, d.find? k = some t → ∀ p, c.parent k = some p → ∃ u, d.find? p = some u

theorem sound_empty (c : ClassCatalog) : ({} : Described).Sound c := by
  refine ⟨?_, ?_, ?_, ?_⟩ <;> simp [find?, Hierarchy.size]

/-- The step of every description: one more descriptor, for a class that had none. -/
theorem Sound.keep (hd : d.Sound c) (hnew : d.find? k = none)
    (hclass : c.classify k = .ok category)
    (hparent : ∀ p, c.parent k = some p → ∃ u, d.find? p = some u) :
    (d.keep k (c.descriptor k ((c.parent k).bind d.find?) category)).2.Sound c := by
  generalize hdescriptor : c.descriptor k ((c.parent k).bind d.find?) category = descriptor
  have hwithin : d.Within (d.keep k descriptor).2 := within_keep hnew
  have hsize : (d.keep k descriptor).2.hierarchy.size = d.hierarchy.size + 1 :=
    Hierarchy.size_add d.hierarchy descriptor
  refine ⟨?lt_size, ?exists_class, ?get_eq, ?parent_found⟩
  case lt_size =>
    intro k' t hk'
    rw [hsize]
    rcases find?_keep_cases hk' with ⟨_, rfl⟩ | hold
    · exact Nat.lt_succ_self _
    · exact Nat.lt_succ_of_lt (hd.lt_size k' t hold)
  case exists_class =>
    intro t ht
    rw [hsize] at ht
    rcases Nat.lt_succ_iff_lt_or_eq.1 ht with hlt | rfl
    · rcases hd.exists_class t hlt with ⟨k', hk'⟩
      exact ⟨k', hwithin k' t hk'⟩
    · exact ⟨k, by rw [find?_keep, if_pos rfl]⟩
  case get_eq =>
    intro k' t hk'
    rcases find?_keep_cases hk' with ⟨rfl, rfl⟩ | hold
    · refine ⟨category, hclass, ?_⟩
      rw [bind_find?_keep hnew hparent, hdescriptor]
      exact Hierarchy.get_add_self d.hierarchy descriptor
    · -- An older descriptor stays, and so does what it was told of its parent.
      rcases hd.get_eq k' t hold with ⟨category', hclass', hget⟩
      refine ⟨category', hclass', ?_⟩
      rw [bind_find?_keep hnew (hd.parent_found k' t hold), ← hget]
      exact Hierarchy.get_add_of_lt (hd.lt_size k' t hold)
  case parent_found =>
    intro k' t hk' p hp
    have hfound : ∃ u, d.find? p = some u := by
      rcases find?_keep_cases hk' with ⟨rfl, _⟩ | hold
      · exact hparent p hp
      · exact hd.parent_found k' t hold p hp
    rcases hfound with ⟨u, hu⟩
    exact ⟨u, hwithin p u hu⟩

/-! ## What a descriptor tells -/

theorem Sound.source_eq (hd : d.Sound c) (hk : d.find? k = some t) :
    (d.hierarchy.get t).source = some k := by
  rcases hd.get_eq k t hk with ⟨category, _, hget⟩
  rw [hget]
  rfl

theorem Sound.map_source_eq {ks : List ClassId} {ts : List TypeId} (hd : d.Sound c)
    (hall : List.Forall₂ (fun k t => d.find? k = some t) ks ts) :
    ts.map (fun t => (d.hierarchy.get t).source) = ks.map some := by
  induction hall with
  | nil => rfl
  | cons hk _ ih => rw [List.map_cons, List.map_cons, hd.source_eq hk, ih]

theorem Sound.isAbstract_eq (hd : d.Sound c) (hk : d.find? k = some t) :
    d.hierarchy.isAbstract t = c.lineages.isAbstract k := by
  rcases hd.get_eq k t hk with ⟨category, _, hget⟩
  rw [Hierarchy.isAbstract, hget]
  rfl

theorem Sound.classify_eq (hd : d.Sound c) (hk : d.find? k = some t) :
    c.classify k = .ok (d.hierarchy.category t) := by
  rcases hd.get_eq k t hk with ⟨category, hclass, hget⟩
  rw [Hierarchy.category, hget]
  exact hclass

theorem Sound.supertype_eq (hd : d.Sound c) (hk : d.find? k = some t) :
    d.hierarchy.supertype t = (c.parent k).bind d.find? := by
  rcases hd.get_eq k t hk with ⟨category, _, hget⟩
  rw [Hierarchy.supertype, hget]
  rfl

theorem Sound.supertype_eq_some (hd : d.Sound c) (hk : d.find? k = some t) :
    d.hierarchy.supertype t = some u ↔ ∃ p, c.parent k = some p ∧ d.find? p = some u := by
  rw [hd.supertype_eq hk, Option.bind_eq_some_iff]

theorem Sound.supertype_eq_none (hd : d.Sound c) (hk : d.find? k = some t) :
    d.hierarchy.supertype t = none ↔ c.parent k = none := by
  rw [hd.supertype_eq hk]
  cases hp : c.parent k with
  | none => simp
  | some p =>
      rcases hd.parent_found k t hk p hp with ⟨u, hu⟩
      simp [hu]

theorem Sound.isConcreteParticipant_iff (hd : d.Sound c) (hk : d.find? k = some t) :
    d.hierarchy.isConcreteParticipant t = true ↔
      c.lineages.isAbstract k = false ∧
        (c.lineages.isSubclass k c.triggerMarker = true ∨
          c.lineages.isSubclass k c.instanceMarker = true) := by
  rw [Hierarchy.isConcreteParticipant_iff, hd.isAbstract_eq hk,
    ClassCatalog.classify_ne_neither (hd.classify_eq hk)]

/-- No descriptor is shared by two classes. -/
theorem Sound.find?_inj (hd : d.Sound c) (hk : d.find? k = some t) (hk' : d.find? k' = some t) :
    k = k' :=
  Option.some.inj ((hd.source_eq hk).symm.trans (hd.source_eq hk'))

theorem Sound.exists_class_of_supertype (hd : d.Sound c) (hs : d.hierarchy.supertype t = some u) :
    ∃ k, d.find? k = some t := by
  rcases Nat.lt_or_ge t d.hierarchy.size with ht | ht
  · exact hd.exists_class t ht
  · rw [Hierarchy.supertype, Hierarchy.get_of_size_le ht] at hs
    cases hs

end Described

/-! ## Chains of parents -/

namespace ClassCatalog

variable {c : ClassCatalog} {d d' : Described} {f : Failure} {k p q : ClassId} {t : TypeId}
  {ks : List ClassId} {ts : List TypeId} {listing : KeyRing.Listing}

/-- By any number of parents `p` is above `k`, or it is `k`. -/
def Chain (c : ClassCatalog) : ClassId → ClassId → Prop :=
  Relation.ReflTransGen fun k p => c.parent k = some p

theorem Chain.refl (c : ClassCatalog) (k : ClassId) : c.Chain k k :=
  Relation.ReflTransGen.refl

theorem Chain.head (hp : c.parent k = some p) (hq : c.Chain p q) : c.Chain k q :=
  Relation.ReflTransGen.head hp hq

theorem chain_iff : c.Chain k p ↔ p = k ∨ ∃ q, c.parent k = some q ∧ c.Chain q p := by
  rw [Chain, Relation.ReflTransGen.cases_head_iff, eq_comm]

/-- The classes of a chain have categories. -/
def Classified (c : ClassCatalog) (k : ClassId) : Prop :=
  ∀ p, c.Chain k p → ∃ category, c.classify p = .ok category

/-- On the chain of `k`, `p` cannot be classified, and nothing above `p` is in its way. -/
def Topmost (c : ClassCatalog) (k p : ClassId) (f : Failure) : Prop :=
  c.Chain k p ∧ c.classify p = .error f ∧
    ∀ q, c.Chain p q → (∃ f', c.classify q = .error f') → q = p

theorem Topmost.head (hp : c.parent k = some p) (h : c.Topmost p q f) : c.Topmost k q f :=
  ⟨h.1.head hp, h.2⟩

/-- Parents stand before their subtypes in the graph. -/
def Falls (c : ClassCatalog) : Prop :=
  ∀ k p, c.parent k = some p → p < k

theorem classified_of_find? (hd : d.Sound c) (hk : d.find? k = some t) : c.Classified k := by
  intro p hp
  have hkept : ∃ u, d.find? p = some u := by
    induction hp with
    | refl => exact ⟨t, hk⟩
    | tail _ hparent ih =>
        rcases ih with ⟨u, hu⟩
        exact hd.parent_found _ u hu _ hparent
  rcases hkept with ⟨u, hu⟩
  exact ⟨_, hd.classify_eq hu⟩

/-- Above a class whose parents are classified, the class itself is the first to refuse. -/
theorem topmost_self (hk : c.classify k = .error f)
    (habove : ∀ p, c.parent k = some p → c.Classified p) : c.Topmost k k f := by
  refine ⟨Chain.refl c k, hk, ?_⟩
  rintro q hq ⟨f', hf'⟩
  rcases chain_iff.1 hq with rfl | ⟨p, hp, hpq⟩
  · rfl
  · rcases habove p hp q hpq with ⟨category, hcat⟩
    rw [hcat] at hf'
    cases hf'

/-! ## Describing one class -/

theorem create_eq_ok {supertype : Option TypeId} :
    c.create k supertype d = .ok (t, d') ↔
      ∃ category, c.classify k = .ok category ∧
        d.keep k (c.descriptor k supertype category) = (t, d') := by
  rw [create, Partial.bind_eq_ok]
  refine exists_congr ?_
  intro category
  refine and_congr_right fun _ => ?_
  show Except.ok _ = Except.ok (t, d') ↔ _
  rw [Except.ok.injEq]

theorem create_eq_error {supertype : Option TypeId} :
    c.create k supertype d = .error f ↔ c.classify k = .error f := by
  rw [create]
  exact Partial.bind_ok_eq_error

/-- A class is new, has no parent and is created alone, or is created after its parent. -/
theorem describe_of_parent (hc : c.Falls) (hnew : d.find? k = none) (hp : c.parent k = some p) :
    c.describe k d = c.describe p d >>= fun r => c.create k (some r.1) r.2 := by
  rw [describe]
  simp only [hnew, hp, if_pos (hc k p hp)]

theorem describe_of_top (hnew : d.find? k = none) (hp : c.parent k = none) :
    c.describe k d = c.create k none d := by
  rw [describe]
  simp only [hnew, hp]

theorem describe_of_found (hk : d.find? k = some t) : c.describe k d = .ok (t, d) := by
  rw [describe]
  simp only [hk]

theorem sound_of_create {supertype : Option TypeId} (hd : d.Sound c) (hnew : d.find? k = none)
    (hsuper : supertype = (c.parent k).bind d.find?)
    (hparent : ∀ p, c.parent k = some p → ∃ u, d.find? p = some u)
    (h : c.create k supertype d = .ok (t, d')) :
    d'.Sound c ∧ d.Within d' ∧ d'.find? k = some t ∧ ∀ q, k < q → d'.find? q = d.find? q := by
  subst hsuper
  rcases create_eq_ok.1 h with ⟨category, hclass, hkeep⟩
  have ht : t = d.hierarchy.size := (congrArg Prod.fst hkeep).symm
  have hd' : d' = (d.keep k _).2 := (congrArg Prod.snd hkeep).symm
  subst ht hd'
  refine ⟨hd.keep hnew hclass hparent, Described.within_keep hnew, ?_, ?_⟩
  · rw [Described.find?_keep, if_pos rfl]
  · intro q hq
    rw [Described.find?_keep, if_neg (Nat.ne_of_gt hq)]

/-- Describing a class keeps what there is and finds the class then.  What it adds stands on the
chain of the class, hence not behind it. -/
theorem sound_of_describe (hc : c.Falls) (hd : d.Sound c) (h : c.describe k d = .ok (t, d')) :
    d'.Sound c ∧ d.Within d' ∧ d'.find? k = some t ∧ ∀ q, k < q → d'.find? q = d.find? q := by
  -- The recursion goes to the parent, which stands before the class.
  induction k using Nat.strongRecOn generalizing d t d' with
  | ind k ih =>
      cases hnew : d.find? k with
      | some t' =>
          rw [describe_of_found hnew] at h
          cases h
          exact ⟨hd, Described.Within.refl d, hnew, fun _ _ => rfl⟩
      | none =>
          cases hp : c.parent k with
          | none =>
              rw [describe_of_top hnew hp] at h
              exact sound_of_create hd hnew (by rw [hp]; rfl) (by simp [hp]) h
          | some p =>
              rw [describe_of_parent hc hnew hp, Partial.bind_eq_ok] at h
              rcases h with ⟨⟨u, e⟩, hparent, hcreate⟩
              have hlt : p < k := hc k p hp
              rcases ih p hlt hd hparent with ⟨he, hwithin, hu, hbehind⟩
              have hnew' : e.find? k = none := (hbehind k hlt).trans hnew
              have hfound : ∀ q, c.parent k = some q → ∃ u, e.find? q = some u := by
                intro q hq
                cases hp.symm.trans hq
                exact ⟨u, hu⟩
              have hsuper : some u = (c.parent k).bind e.find? := by
                rw [hp, Option.bind_some, hu]
              rcases sound_of_create he hnew' hsuper hfound hcreate with
                ⟨hd', hwithin', ht, hbehind'⟩
              refine ⟨hd', hwithin.trans hwithin', ht, ?_⟩
              intro q hq
              exact (hbehind' q hq).trans (hbehind q (Nat.lt_trans hlt hq))

/-- A class is refused for the topmost class of its chain that cannot be classified. -/
theorem topmost_of_describe (hc : c.Falls) (hd : d.Sound c) (h : c.describe k d = .error f) :
    ∃ p, c.Topmost k p f := by
  induction k using Nat.strongRecOn generalizing d with
  | ind k ih =>
      cases hnew : d.find? k with
      | some t =>
          rw [describe_of_found hnew] at h
          cases h
      | none =>
          cases hp : c.parent k with
          | none =>
              rw [describe_of_top hnew hp, create_eq_error] at h
              exact ⟨k, topmost_self h (by simp [hp])⟩
          | some p =>
              rw [describe_of_parent hc hnew hp, Partial.bind_eq_error] at h
              have hlt : p < k := hc k p hp
              rcases h with hparent | ⟨⟨u, e⟩, hparent, hcreate⟩
              · rcases ih p hlt hd hparent with ⟨q, hq⟩
                exact ⟨q, hq.head hp⟩
              · -- The parent has its descriptor, so nothing above the class refuses.
                rcases sound_of_describe hc hd hparent with ⟨he, _, hu, _⟩
                refine ⟨k, topmost_self (create_eq_error.1 hcreate) ?_⟩
                intro q hq
                cases hp.symm.trans hq
                exact classified_of_find? he hu

/-- Whatever the parents are, a failure is that of some class. -/
theorem exists_refused_of_describe (h : c.describe k d = .error f) :
    ∃ p, c.classify p = .error f := by
  induction k using Nat.strongRecOn generalizing d with
  | ind k ih =>
      rw [describe] at h
      split at h
      · cases h
      · split at h
        · exact ⟨k, create_eq_error.1 h⟩
        · split at h
          · rename_i p _ hlt
            rcases Partial.bind_eq_error.1 h with hparent | ⟨_, _, hcreate⟩
            · exact ih p hlt hparent
            · exact ⟨k, create_eq_error.1 hcreate⟩
          · exact ⟨k, create_eq_error.1 h⟩

/-! ## Describing several classes -/

theorem describeAll_cons_eq_ok :
    c.describeAll (k :: ks) d = .ok (ts, d') ↔
      ∃ t e us, c.describe k d = .ok (t, e) ∧ c.describeAll ks e = .ok (us, d') ∧
        ts = t :: us := by
  rw [describeAll, Partial.bind_eq_ok]
  constructor
  · rintro ⟨⟨t, e⟩, hk, hrest⟩
    rcases Partial.bind_eq_ok.1 hrest with ⟨⟨us, e'⟩, hks, hlast⟩
    cases hlast
    exact ⟨t, e, us, hk, hks, rfl⟩
  · rintro ⟨t, e, us, hk, hks, rfl⟩
    exact ⟨(t, e), hk, Partial.bind_eq_ok.2 ⟨(us, d'), hks, rfl⟩⟩

theorem describeAll_cons_eq_error :
    c.describeAll (k :: ks) d = .error f ↔
      c.describe k d = .error f ∨
        ∃ t e, c.describe k d = .ok (t, e) ∧ c.describeAll ks e = .error f := by
  rw [describeAll, Partial.bind_eq_error]
  refine or_congr_right ?_
  constructor
  · rintro ⟨⟨t, e⟩, hk, hrest⟩
    exact ⟨t, e, hk, Partial.bind_ok_eq_error.1 hrest⟩
  · rintro ⟨t, e, hk, hks⟩
    exact ⟨(t, e), hk, Partial.bind_ok_eq_error.2 hks⟩

theorem sound_of_describeAll (hc : c.Falls) (hd : d.Sound c)
    (h : c.describeAll ks d = .ok (ts, d')) :
    d'.Sound c ∧ d.Within d' ∧ List.Forall₂ (fun k t => d'.find? k = some t) ks ts := by
  induction ks generalizing d ts with
  | nil =>
      cases h
      exact ⟨hd, Described.Within.refl _, List.Forall₂.nil⟩
  | cons k ks ih =>
      rcases describeAll_cons_eq_ok.1 h with ⟨t, e, us, hk, hks, rfl⟩
      rcases sound_of_describe hc hd hk with ⟨he, hwithin, ht, _⟩
      rcases ih he hks with ⟨hd', hwithin', hall⟩
      exact ⟨hd', hwithin.trans hwithin', List.Forall₂.cons (hwithin' k t ht) hall⟩

/-- Of several classes the first with a refused class on its chain is what they are refused for. -/
theorem topmost_of_describeAll (hc : c.Falls) (hd : d.Sound c)
    (h : c.describeAll ks d = .error f) :
    ∃ front k back p, ks = front ++ k :: back ∧ (∀ a ∈ front, c.Classified a) ∧
      c.Topmost k p f := by
  induction ks generalizing d with
  | nil =>
      cases h
  | cons k ks ih =>
      rcases describeAll_cons_eq_error.1 h with hk | ⟨t, e, hk, hks⟩
      · rcases topmost_of_describe hc hd hk with ⟨p, hp⟩
        exact ⟨[], k, ks, p, rfl, List.forall_mem_nil _, hp⟩
      · rcases sound_of_describe hc hd hk with ⟨he, _, ht, _⟩
        rcases ih he hks with ⟨front, k', back, p, rfl, hfront, hp⟩
        exact ⟨k :: front, k', back, p, rfl,
          List.forall_mem_cons.2 ⟨classified_of_find? he ht, hfront⟩, hp⟩

theorem exists_refused_of_describeAll (h : c.describeAll ks d = .error f) :
    ∃ p, c.classify p = .error f := by
  induction ks generalizing d with
  | nil =>
      cases h
  | cons k ks ih =>
      rcases describeAll_cons_eq_error.1 h with hk | ⟨_, _, _, hks⟩
      · exact exists_refused_of_describe hk
      · exact ih hks

/-! ## Listings -/

theorem listing_eq_ok :
    c.listing.result = .ok listing ↔
      ∃ d, c.describeAll c.listed {} = .ok (listing.types, d) ∧
        d.hierarchy = listing.hierarchy := by
  rw [ClassCatalog.listing, Traced.result_bind_eq_ok]
  constructor
  · rintro ⟨⟨types, d⟩, hall, hlast⟩
    cases hlast
    exact ⟨d, hall, rfl⟩
  · rintro ⟨d, hall, hh⟩
    refine ⟨(listing.types, d), hall, ?_⟩
    show Except.ok _ = Except.ok listing
    rw [hh]

theorem listing_eq_error :
    c.listing.result = .error f ↔ c.describeAll c.listed {} = .error f := by
  rw [ClassCatalog.listing, Traced.result_bind_eq_error]
  refine or_iff_left ?_
  rintro ⟨⟨types, d⟩, _, hlast⟩
  cases hlast

theorem ambiguous_of_listing (h : c.listing.result = .error f) :
    ∃ p, f = .ambiguousType (.text (c.nameOf p)) := by
  rcases exists_refused_of_describeAll (listing_eq_error.1 h) with ⟨p, hp⟩
  exact ⟨p, (classify_eq_error.1 hp).2.2.2⟩

/-- The descriptors of a listing are those that are kept for the listed classes, place by place. -/
structure Gives (c : ClassCatalog) (d : Described) (listing : KeyRing.Listing) : Prop where
  sound : d.Sound c
  hierarchy_eq : d.hierarchy = listing.hierarchy
  places : List.Forall₂ (fun k t => d.find? k = some t) c.listed listing.types

theorem gives_of_listing (hc : c.Falls) (hlist : c.listing.result = .ok listing) :
    ∃ d, c.Gives d listing := by
  rcases listing_eq_ok.1 hlist with ⟨d, hall, hh⟩
  rcases sound_of_describeAll hc (Described.sound_empty c) hall with ⟨hd, _, hplaces⟩
  exact ⟨d, hd, hh, hplaces⟩

theorem topmost_of_listing (hc : c.Falls) (h : c.listing.result = .error f) :
    ∃ front k back p, c.listed = front ++ k :: back ∧ (∀ a ∈ front, c.Classified a) ∧
      c.Topmost k p f :=
  topmost_of_describeAll hc (Described.sound_empty c) (listing_eq_error.1 h)

namespace Gives

variable {u : TypeId}

theorem mem_types_iff (h : c.Gives d listing) :
    t ∈ listing.types ↔ ∃ k ∈ c.listed, d.find? k = some t := by
  constructor
  · intro ht
    rcases List.getElem_of_mem ht with ⟨i, hi, rfl⟩
    have hi' : i < c.listed.length := h.places.length_eq ▸ hi
    exact ⟨c.listed[i], List.getElem_mem hi', h.places.get hi' hi⟩
  · rintro ⟨k, hk, hkt⟩
    rcases List.getElem_of_mem hk with ⟨i, hi, rfl⟩
    have hi' : i < listing.types.length := h.places.length_eq ▸ hi
    have hplace : d.find? c.listed[i] = some listing.types[i] := h.places.get hi hi'
    exact Option.some.inj (hplace.symm.trans hkt) ▸ List.getElem_mem hi'

theorem exists_type (h : c.Gives d listing) (hk : k ∈ c.listed) :
    ∃ t ∈ listing.types, d.find? k = some t := by
  rcases List.getElem_of_mem hk with ⟨i, hi, rfl⟩
  have hi' : i < listing.types.length := h.places.length_eq ▸ hi
  exact ⟨listing.types[i], List.getElem_mem hi', h.places.get hi hi'⟩

theorem mem_types_of_find? (h : c.Gives d listing) (hk : d.find? k = some t) :
    t ∈ listing.types ↔ k ∈ c.listed := by
  rw [h.mem_types_iff]
  constructor
  · rintro ⟨k', hk', hkt⟩
    exact h.sound.find?_inj hkt hk ▸ hk'
  · intro hlisted
    exact ⟨k, hlisted, hk⟩

theorem source_eq_some_iff (h : c.Gives d listing) (ht : t ∈ listing.types) :
    (listing.hierarchy.get t).source = some k ↔ d.find? k = some t := by
  rcases h.mem_types_iff.1 ht with ⟨k', _, hk'⟩
  rw [← h.hierarchy_eq, h.sound.source_eq hk', Option.some.injEq]
  constructor
  · rintro rfl
    exact hk'
  · exact h.sound.find?_inj hk'

theorem sources_eq (h : c.Gives d listing) :
    listing.types.map (fun t => (listing.hierarchy.get t).source) = c.listed.map some := by
  rw [← h.hierarchy_eq]
  exact h.sound.map_source_eq h.places

/-- A supertype step leads from the descriptor of a class to that of its parent. -/
theorem extends_iff (h : c.Gives d listing) :
    listing.hierarchy.Extends listing.types t u ↔
      ∃ k p, d.find? k = some t ∧ c.parent k = some p ∧ p ∈ c.listed ∧ d.find? p = some u := by
  rw [Hierarchy.Extends, ← h.hierarchy_eq]
  constructor
  · rintro ⟨hs, hu⟩
    rcases h.sound.exists_class_of_supertype hs with ⟨k, hk⟩
    rcases (h.sound.supertype_eq_some hk).1 hs with ⟨p, hp, hpu⟩
    exact ⟨k, p, hk, hp, (h.mem_types_of_find? hpu).1 hu, hpu⟩
  · rintro ⟨k, p, hk, hp, hlisted, hpu⟩
    exact ⟨(h.sound.supertype_eq_some hk).2 ⟨p, hp, hpu⟩, (h.mem_types_of_find? hpu).2 hlisted⟩

end Gives

end ClassCatalog
end PartitionKeys
