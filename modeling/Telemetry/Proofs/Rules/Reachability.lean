import Telemetry.Proofs.Rules.Failure

/-!
# Processors at work

A processor is reached from a new one by commands and messages. Whatever it has processed, the maps
in its pool are empty, so that each message is judged on a snapshot of its own.
-/

namespace Telemetry

open Condition (Snapshot SnapshotMaps SnapshotPool)

namespace Processor

/-- A command changes the rules as it changes a rulebook. -/
theorem rulebook_perform (p : Processor) (c : Command) :
    (p.perform c).1.rulebook = (p.rulebook.perform c).1 := rfl

/-- A command is answered as it is for a rulebook. -/
theorem reply_perform (p : Processor) (c : Command) :
    (p.perform c).2 = (p.rulebook.perform c).2 := rfl

/-- What a new processor becomes by commands and messages. -/
inductive Reachable : Processor → Prop where
  | empty (patterns : Pattern.Engine) : Reachable (.empty patterns)
  | perform {p : Processor} (c : Command) (h : Reachable p) : Reachable (p.perform c).1
  | process {p : Processor} (order : Message.Order) (m : Message) (h : Reachable p) :
    Reachable (p.process order m).1

end Processor

namespace Condition.SnapshotPool

variable {pool : SnapshotPool}

/-- Whether no map that waits has entries. -/
def IsClean (pool : SnapshotPool) : Prop := ∀ maps ∈ pool.idle, maps = .empty

/-- What is taken out of a pool of empty maps is empty, and so are the maps that wait on. -/
theorem IsClean.acquire (h : pool.IsClean) :
    pool.acquire.1 = .empty ∧ pool.acquire.2.IsClean := by
  unfold IsClean SnapshotPool.acquire at *
  split
  · exact ⟨rfl, h⟩
  · rename_i maps rest hidle
    obtain ⟨hmaps, hrest⟩ := List.forall_mem_cons.mp (hidle ▸ h)
    exact ⟨hmaps, hrest⟩

/-- Maps are emptied before they wait. -/
theorem IsClean.release (h : pool.IsClean) (maps : SnapshotMaps) : (pool.release maps).IsClean := by
  unfold SnapshotPool.release
  split
  · intro waiting hwaiting
    rcases List.mem_append.mp hwaiting with hold | hnew
    · exact h waiting hold
    · exact List.mem_singleton.mp hnew
  · exact h

end Condition.SnapshotPool

namespace Processor

variable {p : Processor}

/-- The maps in the pool of a processor are empty. -/
theorem Reachable.isClean (h : p.Reachable) : p.pool.IsClean := by
  induction h with
  | empty => exact fun _ h => absurd h List.not_mem_nil
  | perform _ _ ih => exact ih
  | @process p order m _ ih =>
    exact ih.acquire.2.release (Snapshot.fill order m p.pool.acquire.1).maps

/-- Conditions see nothing but the message. -/
theorem Reachable.judge_eq (h : p.Reachable) (order : Message.Order) (m : Message) :
    p.judge order m = Rulebook.judgeOn (.ofMessage order m) := by
  rw [judge, h.isClean.acquire.1]
  rfl

end Processor

end Telemetry
