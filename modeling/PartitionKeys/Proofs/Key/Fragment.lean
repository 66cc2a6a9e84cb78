import PartitionKeys.Proofs.Key.KeyRing
import PartitionKeys.Proofs.Template.Check
import PartitionKeys.Proofs.Template.Render

/-!
# Fragment — rendering the predicates of keys

The template of all keys is accepted for one sample rendering.  A template that takes positions of
the alias or of the name, or nests fields in formats, may be accepted and fail for other aliases and
names; other templates do not.

* `KeyRing.predicate_of_mem_keys`: all predicates of a key ring share its template;
* `KeyRing.predicateFor_eq_error`: a key fails where the template fails;
* `Predicate.fragment_of_accepted`: what may go wrong with an accepted template;
* `Predicate.accepted_and_failing`: that it may.
-/

namespace PartitionKeys

namespace KeyRing

variable {catalog : Option (Traced Listing)} {b : AttributeBindings} {template : String}
  {ring : KeyRing} {k : PartitionKey}

theorem mem_keysOf {h : Hierarchy} {bindings : CategoryBindings} {category : Category}
    {entries : List Coverage.Entry} (hk : k ∈ keysOf h bindings template category entries) :
    ∃ e ∈ entries, PartitionKey.ofEntry h bindings template e = k := by
  rw [keysOf, List.mem_mergeSort, List.mem_map] at hk
  rcases hk with ⟨e, he, rfl⟩
  exact ⟨e, List.mem_of_mem_filter he, rfl⟩

theorem predicate_of_mem_keys (hring : (ofCatalog catalog b template).result = .ok ring)
    (hk : k ∈ ring.keys) {p : Predicate} (hp : k.predicate = some p) : p = ⟨k.name, template⟩ := by
  have hentry : ∃ h bindings e, PartitionKey.ofEntry h bindings template e = k := by
    rcases exists_listing_of_ofCatalog hring with ⟨_, _, _, _, _, _, rfl⟩
    rcases List.mem_append.1 hk with hk | hk
    · rcases mem_keysOf hk with ⟨e, _, hkey⟩
      exact ⟨_, _, e, hkey⟩
    · rcases mem_keysOf hk with ⟨e, _, hkey⟩
      exact ⟨_, _, e, hkey⟩
  rcases hentry with ⟨h, bindings, e, rfl⟩
  dsimp only [PartitionKey.ofEntry] at hp ⊢
  split at hp
  · cases hp
    rfl
  · cases hp

/-- A key fails where its template does, if it has a predicate. -/
theorem predicateFor_eq_error (hring : (ofCatalog catalog b template).result = .ok ring)
    (hk : k ∈ ring.keys) {queryAlias : String} {e : Template.Fault} :
    k.predicateFor queryAlias = .error e ↔
      k.predicate ≠ none ∧ Predicate.fragment ⟨k.name, template⟩ queryAlias = .error e := by
  unfold PartitionKey.predicateFor
  cases hp : k.predicate with
  | none => simp
  | some p =>
      rw [predicate_of_mem_keys hring hk hp]
      dsimp only
      cases Predicate.fragment ⟨k.name, template⟩ queryAlias with
      | error e => simp [Except.map]
      | ok s => simp [Except.map]

end KeyRing

namespace Predicate

variable {template : String}

/-- An accepted template fails exactly when one of its fields has an excuse, and for an excuse:
never without positions and nested fields.  The keys of a catalog fail for no other reason. -/
theorem fragment_of_accepted (hc : Template.check template = .ok ()) :
    (∀ name queryAlias,
      (∀ e, fragment ⟨name, template⟩ queryAlias = .error e →
        ∃ f ∈ Template.fields template, f.Excuse ⟨queryAlias, name⟩ e) ∧
      ((∃ f ∈ Template.fields template, ∃ e, f.Excuse ⟨queryAlias, name⟩ e) →
        ∃ e, fragment ⟨name, template⟩ queryAlias = .error e) ∧
      (Template.Uniform template → ∃ s, fragment ⟨name, template⟩ queryAlias = .ok s)) ∧
    ∀ catalog b ring, (KeyRing.ofCatalog catalog b template).result = .ok ring →
      ∀ k ∈ ring.keys, ∀ queryAlias,
        (∀ e, k.predicateFor queryAlias = .error e →
          ∃ f ∈ Template.fields template, f.Excuse ⟨queryAlias, k.name⟩ e) ∧
        (Template.Uniform template → ∃ r, k.predicateFor queryAlias = .ok r) := by
  rcases Template.check_eq_ok_iff.1 hc with ⟨sample, hsample, _⟩
  have hexcuse : ∀ name queryAlias e, fragment ⟨name, template⟩ queryAlias = .error e →
      ∃ f ∈ Template.fields template, f.Excuse ⟨queryAlias, name⟩ e :=
    fun _ _ _ he => Template.exists_excuse_of_render hsample he
  have huniform : Template.Uniform template →
      ∀ name queryAlias e, fragment ⟨name, template⟩ queryAlias ≠ .error e := by
    intro hu name queryAlias e he
    rcases hexcuse name queryAlias e he with ⟨f, hf, hx⟩
    exact Template.not_excuse_of_uniform hu hf hx
  constructor
  · intro name queryAlias
    refine ⟨hexcuse name queryAlias, (Template.render_fails_iff hsample).2, ?_⟩
    intro hu
    cases hf : fragment ⟨name, template⟩ queryAlias with
    | ok s => exact ⟨s, rfl⟩
    | error e => exact absurd hf (huniform hu name queryAlias e)
  · intro catalog b ring hring k hk queryAlias
    constructor
    · intro e he
      exact hexcuse _ _ e ((KeyRing.predicateFor_eq_error hring hk).1 he).2
    · intro hu
      cases hf : k.predicateFor queryAlias with
      | ok r => exact ⟨r, rfl⟩
      | error e =>
          exact absurd ((KeyRing.predicateFor_eq_error hring hk).1 hf).2 (huniform hu _ _ e)

theorem uniform_default : Template.Uniform Template.default := by
  intro f hf
  rw [Template.fields_default] at hf
  revert f
  decide

/-- The keys of the notices can be asked for their predicates under any alias. -/
theorem fragment_of_accepted_default :
    Template.check Template.default = .ok () ∧ Template.Uniform Template.default ∧
      (KeyRing.ofCatalog (some (Traced.done ⟨Coverage.notices, Coverage.noticesListed⟩)) {}
        Template.default).result = .ok KeyRing.noticesRing ∧
      ∀ k ∈ KeyRing.noticesRing.keys, ∀ queryAlias, ∃ r, k.predicateFor queryAlias = .ok r := by
  refine ⟨KeyRing.check_default, uniform_default, KeyRing.ofCatalog_notices, ?_⟩
  intro k hk queryAlias
  exact ((fragment_of_accepted KeyRing.check_default).2 _ _ _ KeyRing.ofCatalog_notices k hk
    queryAlias).2 uniform_default

/-- The first template asks an alias for its second character, the second one uses a character of
the alias as a type of formats. -/
theorem accepted_and_failing :
    Template.check "\x7balias\x7d\x7balias[1]\x7d" = .ok () ∧
      fragment ⟨"Mail", "\x7balias\x7d\x7balias[1]\x7d"⟩ "e" = .error (.indexOutOfRange "string") ∧
    Template.check "\x7balias:\x7balias[6]\x7d\x7d" = .ok () ∧
      fragment ⟨"Mail", "\x7balias:\x7balias[6]\x7d\x7d"⟩ "customer" =
        .error (.unknownType 'e' "str") ∧
    ¬∀ template, Template.check template = .ok () →
      ∀ name queryAlias, ∃ s, fragment ⟨name, template⟩ queryAlias = .ok s := by
  have hposition : Template.check "\x7balias\x7d\x7balias[1]\x7d" = .ok () := by
    cbv
  have hshort : fragment ⟨"Mail", "\x7balias\x7d\x7balias[1]\x7d"⟩ "e" =
      .error (.indexOutOfRange "string") := by
    cbv
  refine ⟨hposition, hshort, by cbv, by cbv, ?_⟩
  intro hall
  rcases hall _ hposition "Mail" "e" with ⟨s, hs⟩
  rw [hshort] at hs
  cases hs

end Predicate
end PartitionKeys
