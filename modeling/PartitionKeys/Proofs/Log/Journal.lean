import PartitionKeys.Log.Journal

/-!
# Journal — events below the threshold leave no lines

As long as no logger has kept a setup of its own, every logger works under the setup of the
journal.  A journal whose loggers do not keep their setup stays like this, so what is below its
threshold once is never written.

* `Journal.Unkept`: no logger keeps a setup, now or later;
* `Journal.emit_below`: events below the threshold leave no lines.
-/

namespace PartitionKeys
namespace Journal

variable {j : Journal} {id : LoggerId} {now : String}

structure Unkept (j : Journal) : Prop where
  keeping : j.setup.keeping = false
  kept : ∀ l ∈ j.loggers, l.kept = none

theorem Unkept.setupOf_eq (hj : j.Unkept) (id : LoggerId) : j.setupOf id = j.setup := by
  have hnone : (j.loggers.getD id default).kept = none := by
    rw [Array.getD]
    split
    · exact hj.kept _ (Array.getElem_mem _)
    · rfl
  rw [setupOf, hnone, Option.getD_none]

theorem Unkept.openLogger (hj : j.Unkept) (name : Value) : (j.openLogger name).2.Unkept := by
  refine ⟨hj.keeping, ?_⟩
  intro l hl
  rcases Array.mem_push.1 hl with hl | rfl
  · exact hj.kept l hl
  · rfl

theorem Unkept.standingLogger (hj : j.Unkept) (source : String) :
    (j.standingLogger source).2.Unkept ∧ (j.standingLogger source).2.setup = j.setup := by
  unfold Journal.standingLogger
  cases j.standing.lookup source with
  | some id => exact ⟨hj, rfl⟩
  | none => exact ⟨⟨hj.keeping, (hj.openLogger (.text source)).kept⟩, rfl⟩

theorem Unkept.used_eq (hj : j.Unkept) (id : LoggerId) : j.used id = j := by
  unfold used
  rw [hj.keeping, if_neg Bool.false_ne_true]

theorem write_below (hj : j.Unkept) {c : Call} (hc : c.level.rank < j.setup.threshold) :
    j.write now id c = (j, none) := by
  unfold write
  rw [hj.setupOf_eq, hj.used_eq]
  simp only [if_neg (Nat.not_le.2 hc)]

theorem emit_below (hj : j.Unkept) {events : List Event}
    (hevents : ∀ e ∈ events, e.level.rank < j.setup.threshold) : (j.emit now events).2 = [] := by
  induction events generalizing j with
  | nil =>
      rfl
  | cons e rest ih =>
      rcases hj.standingLogger e.logger with ⟨hnext, hsetup⟩
      have he : (Call.ofEvent e).level.rank < (j.standingLogger e.logger).2.setup.threshold := by
        rw [hsetup]
        exact hevents e List.mem_cons_self
      have hrest : ((j.standingLogger e.logger).2.emit now rest).2 = [] := by
        apply ih hnext
        rw [hsetup]
        exact fun e' he' => hevents e' (List.mem_cons_of_mem e he')
      rw [emit]
      simp only [write_below hnext he, hrest]
      rfl

end Journal

/-- Derivations tell nothing more urgent than information. -/
theorem Event.rank_level_lt_warning (e : Event) : e.level.rank < Level.warning.rank := by
  cases e with
  | keysBuilt => exact (by decide : Level.info.rank < Level.warning.rank)
  | _ => exact (by decide : Level.debug.rank < Level.warning.rank)

end PartitionKeys
