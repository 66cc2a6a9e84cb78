import PartitionKeys.Failure
import PartitionKeys.Log.Event

/-!
# Traced — results together with the events on the way to them

A traced result is a value or a failure, and the events emitted before it was known.  A failure
keeps the events that came before it and stops all that would come after.

* `Traced.emit`, `Traced.fail`, `Traced.ofExcept`: the single steps;
* `Traced.events_bind_error`: nothing is emitted past a failure.
-/

namespace PartitionKeys

structure Traced (α : Type) where
  events : List Event
  result : Except Failure α

namespace Traced

def done {α : Type} (a : α) : Traced α :=
  ⟨[], .ok a⟩

def fail {α : Type} (f : Failure) : Traced α :=
  ⟨[], .error f⟩

def ofExcept {α : Type} (r : Except Failure α) : Traced α :=
  ⟨[], r⟩

def emit (e : Event) : Traced Unit :=
  ⟨[e], .ok ()⟩

def andThen {α β : Type} (t : Traced α) (next : α → Traced β) : Traced β :=
  match t.result with
  | .error f => ⟨t.events, .error f⟩
  | .ok a => ⟨t.events ++ (next a).events, (next a).result⟩

instance : Monad Traced where
  pure := done
  bind := andThen

theorem events_bind_error {α β : Type} {t : Traced α} {f : Failure} (next : α → Traced β)
    (h : t.result = .error f) : (t >>= next).events = t.events := by
  show (andThen t next).events = t.events
  simp [andThen, h]

theorem events_bind_ok {α β : Type} {t : Traced α} {a : α} (next : α → Traced β)
    (h : t.result = .ok a) : (t >>= next).events = t.events ++ (next a).events := by
  show (andThen t next).events = _
  simp [andThen, h]

theorem result_bind_error {α β : Type} {t : Traced α} {f : Failure} (next : α → Traced β)
    (h : t.result = .error f) : (t >>= next).result = .error f := by
  show (andThen t next).result = _
  simp [andThen, h]

theorem result_bind_ok {α β : Type} {t : Traced α} {a : α} (next : α → Traced β)
    (h : t.result = .ok a) : (t >>= next).result = (next a).result := by
  show (andThen t next).result = _
  simp [andThen, h]

/-- A value comes out at the end only if one came out before every further step. -/
theorem result_bind_eq_ok {α β : Type} {t : Traced α} {next : α → Traced β} {b : β} :
    (t >>= next).result = .ok b ↔ ∃ a, t.result = .ok a ∧ (next a).result = .ok b := by
  show (andThen t next).result = _ ↔ _
  cases h : t.result with
  | error f => simp [andThen, h]
  | ok a => simp [andThen, h]

/-- A failure is that of a step, or comes after it. -/
theorem result_bind_eq_error {α β : Type} {t : Traced α} {next : α → Traced β} {f : Failure} :
    (t >>= next).result = .error f ↔
      t.result = .error f ∨ ∃ a, t.result = .ok a ∧ (next a).result = .error f := by
  show (andThen t next).result = _ ↔ _
  cases h : t.result with
  | error g => simp [andThen, h]
  | ok a => simp [andThen, h]

end Traced
end PartitionKeys
