import PartitionKeys.Proofs.Settings.Basic

/-!
# Resolution — which mapper a text stands for, and how the rest is told

A text stands for a mapper that is known by that name, or for the callable attribute that it leads
to as an import path.  Whatever else a text says is reported as an invalid setting, with one
exception: a path that starts at no module is refused by the import itself, and not reported.

* `World.IsPath`: a text as an import path, split at its first colon;
* `World.Offers`: the mappers that a text stands for;
* `World.resolve_text_reported`: a text has its mapper or is reported, except for exactly the paths
  that start at no module.
-/

namespace PartitionKeys
namespace World

variable {w : World} {spec moduleName name : String} {m : StateMapper} {f : MapperFault}

/-! ## Import paths -/

def IsPath (spec moduleName name : String) : Prop :=
  spec = moduleName ++ ":" ++ name ∧ ':' ∉ moduleName.toList

theorem IsPath.colon_mem (hpath : IsPath spec moduleName name) : ':' ∈ spec.toList := by
  rw [hpath.1]
  simp

theorem IsPath.splitPath? (hpath : IsPath spec moduleName name) :
    splitPath? spec = some (moduleName, name) := by
  have hspec : spec.toList = moduleName.toList ++ ':' :: name.toList := by
    rw [hpath.1]
    simp
  -- The module half holds no colon, so the first colon ends it.
  have hbefore : ∀ c ∈ moduleName.toList, (c != ':') = true := by
    intro c hc
    have hne : c ≠ ':' := fun h => hpath.2 (h ▸ hc)
    simpa using hne
  have htake : spec.toList.takeWhile (· != ':') = moduleName.toList := by
    rw [hspec, List.takeWhile_append_of_pos hbefore]
    simp
  have hdrop : spec.toList.dropWhile (· != ':') = ':' :: name.toList := by
    rw [hspec, List.dropWhile_append_of_pos hbefore]
    simp
  have hcontains : spec.toList.contains ':' = true := by
    simpa using hpath.colon_mem
  simp only [World.splitPath?, hcontains, if_true, htake, hdrop]
  simp

theorem exists_isPath (hcolon : ':' ∈ spec.toList) :
    ∃ moduleName name, IsPath spec moduleName name := by
  rcases List.eq_append_cons_of_mem hcolon with ⟨before, after, hspec, hfirst⟩
  refine ⟨String.ofList before, String.ofList after, ?_, ?_⟩
  · apply String.toList_injective
    simpa using hspec
  · simpa using hfirst

theorem splitPath?_eq_none (hcolon : ':' ∉ spec.toList) : World.splitPath? spec = none := by
  simp [World.splitPath?, hcolon]

theorem splitPath?_eq_some_iff :
    World.splitPath? spec = some (moduleName, name) ↔ IsPath spec moduleName name := by
  constructor
  · intro hsplit
    have hcolon : ':' ∈ spec.toList := by
      by_contra hnone
      rw [splitPath?_eq_none hnone] at hsplit
      cases hsplit
    rcases exists_isPath hcolon with ⟨moduleName', name', hpath⟩
    have hsame : some (moduleName', name') = some (moduleName, name) :=
      hpath.splitPath?.symm.trans hsplit
    cases hsame
    exact hpath
  · exact IsPath.splitPath?

/-! ## Mappers that are offered -/

/-- A text stands for the mapper of that name, or for what its path leads to. -/
inductive Offers (w : World) (spec : String) (m : StateMapper) : Prop where
  | named (hname : StateMapper.named.lookup spec = some m)
  | imported {moduleName name : String} {attributes : List (String × Attribute)}
      (hpath : IsPath spec moduleName name) (hsome : moduleName ≠ "")
      (habsolute : moduleName.toList.head? ≠ some '.')
      (hmodule : w.modules.lookup moduleName = some attributes)
      (hattribute : attributes.lookup name = some (.callable m))

/-- No short name is an import path. -/
theorem named_eq_none (hpath : IsPath spec moduleName name) :
    StateMapper.named.lookup spec = none := by
  have hplain : ∀ p ∈ StateMapper.named, ':' ∉ p.1.toList := by
    simp [StateMapper.named]
  rw [List.lookup_eq_none_iff]
  intro p hp
  have hne : spec ≠ p.1 := by
    intro h
    exact hplain p hp (h ▸ hpath.colon_mem)
  simpa using hne

theorem resolveText_path (hpath : IsPath spec moduleName name) :
    w.resolveText spec = w.importMapper spec moduleName name := by
  simp only [resolveText, named_eq_none hpath, hpath.splitPath?]

theorem offers_of_importMapper (hpath : IsPath spec moduleName name)
    (h : w.importMapper spec moduleName name = .ok m) : w.Offers spec m := by
  unfold importMapper at h
  split at h
  · cases h
  · rename_i hsome
    split at h
    · cases h
    · rename_i habsolute
      split at h
      · cases h
      · rename_i attributes hmodule
        split at h
        · cases h
        · cases h
        · rename_i m' hattribute
          cases h
          exact .imported hpath hsome habsolute hmodule hattribute

theorem resolveText_eq_ok_iff : w.resolveText spec = .ok m ↔ w.Offers spec m := by
  constructor
  · intro h
    cases hname : StateMapper.named.lookup spec with
    | some m' =>
        simp only [resolveText, hname] at h
        cases h
        exact .named hname
    | none =>
        by_cases hcolon : ':' ∈ spec.toList
        · rcases exists_isPath hcolon with ⟨moduleName, name, hpath⟩
          rw [resolveText_path hpath] at h
          exact offers_of_importMapper hpath h
        · simp only [resolveText, hname, splitPath?_eq_none hcolon] at h
          cases h
  · intro hoffers
    cases hoffers with
    | named hname =>
        simp only [resolveText, hname]
    | imported hpath hsome habsolute hmodule hattribute =>
        rw [resolveText_path hpath]
        simp only [importMapper, hsome, habsolute, hmodule, hattribute, if_false]

/-! ## Texts that are told -/

theorem importMapper_empty : w.importMapper spec "" name = .error .emptyModule := by
  simp [importMapper]

theorem importMapper_relative (hdot : moduleName.toList.head? = some '.') :
    w.importMapper spec moduleName name = .error (.relativeModule moduleName) := by
  have hsome : moduleName ≠ "" := by
    rintro rfl
    simp at hdot
  simp [importMapper, hsome, hdot]

theorem report?_of_spec (hspec : f.spec? = some spec) :
    (Failure.mapper f).report? =
      some (.invalidConfig (.text "state_value_mapper") (.text spec) (.text f.message)) := by
  exact congrArg (Option.map fun s =>
    Report.invalidConfig (.text "state_value_mapper") (.text s) (.text f.message)) hspec

theorem exists_unreported (h : Settings.Unrooted spec) :
    ∃ f, w.resolveText spec = .error f ∧ (Failure.mapper f).report? = none := by
  rcases h with ⟨moduleName, name, hsplit, hstart⟩
  have hpath : IsPath spec moduleName name := splitPath?_eq_some_iff.1 hsplit
  have himport : w.resolveText spec = w.importMapper spec moduleName name := resolveText_path hpath
  rcases hstart with hempty | hdot
  · subst hempty
    exact ⟨.emptyModule, himport.trans importMapper_empty, rfl⟩
  · exact ⟨.relativeModule moduleName, himport.trans (importMapper_relative hdot), rfl⟩

/-- A text comes out as the mapper it stands for; without one it is reported as an invalid setting,
unless it is a path that starts at no module.  Those paths are refused by the import. -/
theorem resolve_text_reported (w : World) (spec : String) :
    (∀ m, w.resolve (.text spec) = .ok m ↔ w.Offers spec m) ∧
    (((∃ m, w.resolve (.text spec) = .ok m) ∨
        ∃ f, w.resolve (.text spec) = .error f ∧
          (Failure.mapper f).report? =
            some (.invalidConfig (.text "state_value_mapper") (.text spec) (.text f.message))) ↔
      ¬Settings.Unrooted spec) ∧
    ∀ moduleName name, IsPath spec moduleName name →
      (moduleName = "" → w.resolve (.text spec) = .error .emptyModule) ∧
      (moduleName.toList.head? = some '.' →
        w.resolve (.text spec) = .error (.relativeModule moduleName)) := by
  have htext : w.resolve (.text spec) = w.resolveText spec := rfl
  rw [htext]
  refine ⟨fun m => resolveText_eq_ok_iff, ⟨?_, ?_⟩, ?_⟩
  · intro htold hunrooted
    rcases exists_unreported (w := w) hunrooted with ⟨f, hf, hnone⟩
    rcases htold with ⟨m, hm⟩ | ⟨g, hg, hreport⟩
    · cases hm.symm.trans hf
    · cases hg.symm.trans hf
      cases hnone.symm.trans hreport
  · intro hrooted
    cases hresolve : w.resolveText spec with
    | ok m =>
        exact Or.inl ⟨m, rfl⟩
    | error f =>
        rcases Settings.told_or_unrooted hresolve with hspec | ⟨_, hunrooted⟩
        · exact Or.inr ⟨f, rfl, report?_of_spec hspec⟩
        · exact absurd hunrooted hrooted
  · intro moduleName name hpath
    rw [resolveText_path hpath]
    refine ⟨?_, importMapper_relative⟩
    rintro rfl
    exact importMapper_empty

/-- Paths that start at no module are neither resolved nor reported. -/
theorem resolve_text_unreported :
    World.standard.resolve (.text ":state_name") = .error .emptyModule ∧
      (Failure.mapper .emptyModule).report? = none ∧
      World.standard.resolve (.text ".bindings:state_name") =
        .error (.relativeModule ".bindings") ∧
      (Failure.mapper (.relativeModule ".bindings")).report? = none := by
  refine ⟨?_, rfl, ?_, rfl⟩
  · have hpath : IsPath ":state_name" "" "state_name" := ⟨rfl, by simp⟩
    exact (resolveText_path (w := standard) hpath).trans importMapper_empty
  · have hpath : IsPath ".bindings:state_name" ".bindings" "state_name" := ⟨rfl, by simp⟩
    exact (resolveText_path (w := standard) hpath).trans (importMapper_relative (by simp))

end World
end PartitionKeys
