import PartitionKeys.Proofs.Key.Fragment
import PartitionKeys.Proofs.Template.Telling

/-!
# Telling — which predicates tell the types of keys apart

A template is accepted for showing the alias.  Whether its predicates differ between type names is
another matter: they do as far as its fields do, and a field for the whole name always does.

* `KeyRing.predicateFor_eq_some`: the fragment of a key is that of its name in the one template;
* `KeyRing.pairwise_of_name_eq`: a template that tells names apart tells keys apart;
* `Predicate.fragment_eq_iff`: when two names have one fragment;
* `Predicate.accepted_and_alike`: accepted templates that do not tell names apart.
-/

namespace PartitionKeys

namespace KeyRing

variable {catalog : Option (Traced Listing)} {b : AttributeBindings} {template queryAlias : String}
  {ring : KeyRing} {k : PartitionKey}

theorem predicateFor_eq_some (hring : (ofCatalog catalog b template).result = .ok ring)
    (hk : k ∈ ring.keys) {s : String} (hs : k.predicateFor queryAlias = .ok (some s)) :
    Predicate.fragment ⟨k.name, template⟩ queryAlias = .ok s := by
  unfold PartitionKey.predicateFor at hs
  cases hp : k.predicate with
  | none =>
      simp [hp] at hs
  | some p =>
      rw [← predicate_of_mem_keys hring hk hp]
      rw [hp] at hs
      cases hf : p.fragment queryAlias with
      | error e => simp [hf, Except.map] at hs
      | ok s' => simpa [hf, Except.map] using hs

/-- Keys have names of their own, so it is enough that names have fragments of their own. -/
theorem pairwise_of_name_eq (hring : (ofCatalog catalog b template).result = .ok ring)
    (hname : ∀ n n' s, Predicate.fragment ⟨n, template⟩ queryAlias = .ok s →
      Predicate.fragment ⟨n', template⟩ queryAlias = .ok s → n = n') :
    ring.keys.Pairwise fun k k' =>
      ∀ s, k.predicateFor queryAlias = .ok (some s) →
        k'.predicateFor queryAlias ≠ .ok (some s) := by
  have hnames : (ring.keys.map (·.name)).Nodup := by
    rcases exists_listing_of_ofCatalog hring with ⟨_, _, _, _, _, hc, rfl⟩
    exact keys_names_nodup hc
  refine List.Pairwise.imp_of_mem ?_ (List.pairwise_map.1 hnames)
  intro k k' hk hk' hne s hs hs'
  exact hne (hname _ _ s (predicateFor_eq_some hring hk hs) (predicateFor_eq_some hring hk' hs'))

/-! ## Keys of mails -/

/-- Weekly digests are digests, and digests are mails. -/
def weeklies : Hierarchy where
  descriptors :=
    #[ { name := "Mail", category := .jobTrigger },
       { name := "Digest", supertype := some 0, category := .jobTrigger },
       { name := "Weekly", supertype := some 1, category := .jobTrigger } ]

def weekliesListing : Traced Listing :=
  Traced.done ⟨weeklies, [0, 1, 2]⟩

def weekliesRing (template : String) : KeyRing :=
  ofEntries weeklies {} template [⟨0, [0, 1, 2]⟩, ⟨1, [1, 2]⟩, ⟨2, [2]⟩]

theorem ofCatalog_weeklies {template : String} (ht : Template.check template = .ok ()) :
    (ofCatalog (some weekliesListing) {} template).result = .ok (weekliesRing template) := by
  have hc : (Coverage.ofCatalog weeklies [0, 1, 2]).result =
      .ok ⟨[⟨0, [0, 1, 2]⟩, ⟨1, [1, 2]⟩, ⟨2, [2]⟩]⟩ := by
    cbv
  exact (ofCatalog_eq_ok rfl).2 ⟨_, hc, ht, rfl⟩

theorem predicates_weeklies (template : String) :
    (weekliesRing template).keys.map (·.predicate) =
      [some ⟨"Digest", template⟩, some ⟨"Mail", template⟩, none] := by
  cbv

end KeyRing

namespace Predicate

/-- Unless formats come out differently, two names have one fragment exactly when each field renders
to one text for both.  Formats without a field of the name never come out differently; and then a
field for the whole name gives each name, and each key with a predicate, a fragment of its own. -/
theorem fragment_eq_iff (template : String) :
    (∀ queryAlias n n' s s',
      Template.SameFormats template ⟨queryAlias, n⟩ ⟨queryAlias, n'⟩ →
        fragment ⟨n, template⟩ queryAlias = .ok s →
          fragment ⟨n', template⟩ queryAlias = .ok s' →
            (s = s' ↔ ∀ f ∈ Template.fields template,
              f.output ⟨queryAlias, n⟩ = f.output ⟨queryAlias, n'⟩)) ∧
    (Template.NestsNoName template →
      (∀ queryAlias n n', Template.SameFormats template ⟨queryAlias, n⟩ ⟨queryAlias, n'⟩) ∧
      ((∃ f ∈ Template.fields template, f.IsName) →
        (∀ queryAlias n n' s, fragment ⟨n, template⟩ queryAlias = .ok s →
          fragment ⟨n', template⟩ queryAlias = .ok s → n = n') ∧
        ∀ catalog b ring, (KeyRing.ofCatalog catalog b template).result = .ok ring →
          ∀ queryAlias, ring.keys.Pairwise fun k k' =>
            ∀ s, k.predicateFor queryAlias = .ok (some s) →
              k'.predicateFor queryAlias ≠ .ok (some s))) := by
  refine ⟨?_, ?_⟩
  · intro queryAlias n n' s s' hformats hs hs'
    exact Template.render_eq_iff hformats hs hs'
  · intro hnests
    refine ⟨fun _ _ _ => Template.sameFormats_of_nestsNoName hnests, ?_⟩
    intro hname
    have happart : ∀ queryAlias n n' s, fragment ⟨n, template⟩ queryAlias = .ok s →
        fragment ⟨n', template⟩ queryAlias = .ok s → n = n' :=
      fun _ _ _ _ hs hs' => Template.name_eq_of_render hnests hname hs hs'
    refine ⟨happart, ?_⟩
    intro catalog b ring hring queryAlias
    exact KeyRing.pairwise_of_name_eq hring (happart queryAlias)

/-- By the usual template mails and digests have fragments of their own under any alias. -/
theorem fragment_eq_iff_weeklies :
    (KeyRing.ofCatalog (some KeyRing.weekliesListing) {} Template.default).result =
        .ok (KeyRing.weekliesRing Template.default) ∧
      (KeyRing.weekliesRing Template.default).keys.map (·.predicate) =
        [some ⟨"Digest", Template.default⟩, some ⟨"Mail", Template.default⟩, none] ∧
      fragment ⟨"Digest", Template.default⟩ "e" = .ok "TYPE(e) = Digest" ∧
      fragment ⟨"Mail", Template.default⟩ "e" = .ok "TYPE(e) = Mail" ∧
      ∀ queryAlias, (KeyRing.weekliesRing Template.default).keys.Pairwise fun k k' =>
        ∀ s, k.predicateFor queryAlias = .ok (some s) →
          k'.predicateFor queryAlias ≠ .ok (some s) := by
  have hring := KeyRing.ofCatalog_weeklies KeyRing.check_default
  have hnests : Template.NestsNoName Template.default := by
    intro f hf hn
    exact absurd hn (by simp [(uniform_default f hf).2])
  have hname : ∃ f ∈ Template.fields Template.default, f.IsName := by
    rw [Template.fields_default]
    exact ⟨{ path := "name".toList }, by simp, rfl, rfl⟩
  exact ⟨hring, KeyRing.predicates_weeklies _, by cbv, by cbv,
    (((fragment_eq_iff Template.default).2 hnests).2 hname).2 _ _ _ hring⟩

/-- Shows a number in the base that the sixth character of the name says, and then the name. -/
def basedTemplate : String :=
  "\x7balias\x7d\x7bname.__class__.__bases__.__class__.__itemsize__:\x7bname[5]\x7d\x7d\x7bname\x7d"

theorem check_based : Template.check basedTemplate = .ok () := by
  have hsample : Template.render basedTemplate Template.sample =
      .ok "__alias__8.000000e+00Sample" := by
    decide +kernel
  rw [Template.check, hsample]
  exact if_pos (by decide)

/-- A template may show the alias and nothing of the name, or only the beginning of it; or the whole
name after a format that takes from it what another name begins with. -/
theorem accepted_and_alike :
    (KeyRing.ofCatalog (some KeyRing.weekliesListing) {} "\x7balias\x7d").result =
      .ok (KeyRing.weekliesRing "\x7balias\x7d") ∧
    (KeyRing.weekliesRing "\x7balias\x7d").keys.map (·.predicate) =
      [some ⟨"Digest", "\x7balias\x7d"⟩, some ⟨"Mail", "\x7balias\x7d"⟩, none] ∧
    fragment ⟨"Digest", "\x7balias\x7d"⟩ "e" = .ok "e" ∧
    fragment ⟨"Mail", "\x7balias\x7d"⟩ "e" = .ok "e" ∧
    Template.check "\x7balias\x7d\x7bname:.4\x7d" = .ok () ∧
    fragment ⟨"MailWeekly", "\x7balias\x7d\x7bname:.4\x7d"⟩ "e" = .ok "eMail" ∧
    fragment ⟨"MailDaily", "\x7balias\x7d\x7bname:.4\x7d"⟩ "e" = .ok "eMail" ∧
    Template.check basedTemplate = .ok () ∧
    fragment ⟨"00aaaoab", basedTemplate⟩ "e" = .ok "e1000aaaoab" ∧
    fragment ⟨"aaaoab", basedTemplate⟩ "e" = .ok "e1000aaaoab" ∧
    ¬∀ template, Template.check template = .ok () →
      ∀ queryAlias n n' s s', n ≠ n' → fragment ⟨n, template⟩ queryAlias = .ok s →
        fragment ⟨n', template⟩ queryAlias = .ok s' → s ≠ s' := by
  have hcheck : Template.check "\x7balias\x7d" = .ok () := by
    cbv
  have hdigest : fragment ⟨"Digest", "\x7balias\x7d"⟩ "e" = .ok "e" := by
    cbv
  have hmail : fragment ⟨"Mail", "\x7balias\x7d"⟩ "e" = .ok "e" := by
    cbv
  refine ⟨KeyRing.ofCatalog_weeklies hcheck, KeyRing.predicates_weeklies _, hdigest, hmail, by cbv,
    by cbv, by cbv, check_based, by decide +kernel, by decide +kernel, ?_⟩
  intro hall
  exact hall _ hcheck "e" "Digest" "Mail" "e" "e" (by decide) hdigest hmail rfl

end Predicate
end PartitionKeys
