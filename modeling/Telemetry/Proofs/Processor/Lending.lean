import Telemetry.Proofs.Rules.Reachability

/-!
# Maps on loan

Many callers use a processor at once. The processing of a message takes maps out of the pool when it
begins and gives them back when it ends; in between other messages may begin and end, maps may be
taken for other purposes, and rules may change. Since maps are emptied before they wait in the pool,
a message is judged as if nobody had ever used the pool.
-/

namespace Telemetry

open Condition (Snapshot SnapshotMaps SnapshotPool)

/-! ## Pools -/

namespace Condition.SnapshotPool

/-- A pool for so many maps: those that wait are empty, and are no more than there is room for. -/
structure Sound (n : Nat) (pool : SnapshotPool) : Prop where
  capacity : pool.capacity = max n 1
  clean : pool.IsClean
  bounded : pool.idle.length ≤ max n 1

variable {n : Nat} {pool : SnapshotPool}

/-- A new pool is sound. -/
theorem sound_ofCapacity (n : Nat) : (ofCapacity n).Sound n where
  capacity := rfl
  clean := fun _ h => absurd h List.not_mem_nil
  bounded := Nat.zero_le _

/-- Maps that are taken out of a pool are empty, and leave room for others. -/
theorem Sound.acquire (h : pool.Sound n) :
    pool.acquire.1 = .empty ∧ pool.acquire.2.Sound n := by
  obtain ⟨hempty, hclean⟩ := h.clean.acquire
  refine ⟨hempty, ?_, hclean, ?_⟩
  · rw [← h.capacity, SnapshotPool.acquire]
    split <;> rfl
  · have hbounded := h.bounded
    rw [SnapshotPool.acquire]
    split
    · exact hbounded
    · rename_i maps rest hidle
      rw [hidle, List.length_cons] at hbounded
      exact Nat.le_of_succ_le hbounded

/-- Maps that are given back are emptied, and wait only if there is room. -/
theorem Sound.release (h : pool.Sound n) (maps : SnapshotMaps) : (pool.release maps).Sound n := by
  refine ⟨?_, h.clean.release maps, ?_⟩
  · rw [← h.capacity, SnapshotPool.release]
    split <;> rfl
  · have hbounded := h.bounded
    have hcapacity := h.capacity
    rw [SnapshotPool.release]
    split
    · rename_i hroom
      rw [List.length_append, List.length_singleton]
      omega
    · exact hbounded

end Condition.SnapshotPool

/-! ## Loans -/

/-- What has been taken out of the pool of a processor and is not yet given back. -/
inductive Loan where
  /-- Maps, with all that their holder has put into them. -/
  | maps (maps : SnapshotMaps)
  /-- A message that is being processed, by the rules that held when this began; its entries were
  visited in the given orders. -/
  | underway (rules : Rulebook) (order : Message.Order) (snapshot : Snapshot)

/-- A message that has been processed, by which rules and with its entries visited in which orders,
and what became of it. -/
structure Judgement where
  rules : Rulebook
  order : Message.Order
  message : Message
  verdict : Verdict

/-- A processor with the loans out of its pool, in the order in which they were taken. -/
structure Lending where
  processor : Processor
  loans : List Loan

namespace Lending

/-- What callers do. Loans are known by their places. -/
inductive Event where
  | acquire
  /-- The holder of maps puts entries into them. -/
  | write (i : Nat) (maps : SnapshotMaps)
  | release (i : Nat)
  /-- The processing of a message begins. -/
  | start (order : Message.Order) (m : Message)
  /-- The processing of a message ends. -/
  | finish (i : Nat)
  /-- A message is processed while nothing else happens. -/
  | process (order : Message.Order) (m : Message)
  | perform (c : Command)

/-- Takes maps out of the pool and lends them. -/
def take (l : Lending) (loan : SnapshotMaps → Loan) : Lending :=
  ⟨{ l.processor with pool := l.processor.pool.acquire.2 },
    l.loans ++ [loan l.processor.pool.acquire.1]⟩

/-- Ends a loan, the maps of which go back into the pool. -/
def giveBack (l : Lending) (i : Nat) (maps : SnapshotMaps) : Lending :=
  ⟨{ l.processor with pool := l.processor.pool.release maps }, l.loans.eraseIdx i⟩

/-- Counts a message by what became of it. -/
def record (l : Lending) (v : Verdict) : Lending :=
  { l with processor := { l.processor with metrics := l.processor.metrics.record v } }

/-- What follows from an event, and the message that it brings to an end. Nothing follows if there
is no such loan. -/
def step (l : Lending) : Event → Lending × Option Judgement
  | .acquire => (l.take .maps, none)
  | .write i maps =>
    match l.loans[i]? with
    | some (.maps _) => ({ l with loans := l.loans.set i (.maps maps) }, none)
    | _ => (l, none)
  | .release i =>
    match l.loans[i]? with
    | some (.maps maps) => (l.giveBack i maps, none)
    | _ => (l, none)
  | .start order m =>
    (l.take fun maps => .underway l.processor.rulebook order (.fill order m maps), none)
  | .finish i =>
    match l.loans[i]? with
    | some (.underway rules order snapshot) =>
      let verdict := rules.processOn snapshot
      ((l.giveBack i snapshot.maps).record verdict, some ⟨rules, order, snapshot.message, verdict⟩)
    | _ => (l, none)
  | .process order m =>
    let (p, verdict) := l.processor.process order m
    ({ l with processor := p }, some ⟨l.processor.rulebook, order, m, verdict⟩)
  | .perform c => ({ l with processor := (l.processor.perform c).1 }, none)

/-- What follows from events, one after the other, and the messages that they bring to an end. -/
def stepAll (l : Lending) : List Event → Lending × List Judgement
  | [] => (l, [])
  | e :: es =>
    let first := l.step e
    let rest := first.1.stepAll es
    (rest.1, first.2.toList ++ rest.2)

/-- The end of a message that is being processed. -/
theorem step_finish {l : Lending} {i : Nat} {rules : Rulebook} {order : Message.Order}
    {snapshot : Snapshot} (h : l.loans[i]? = some (.underway rules order snapshot)) :
    l.step (.finish i) =
      ((l.giveBack i snapshot.maps).record (rules.processOn snapshot),
        some ⟨rules, order, snapshot.message, rules.processOn snapshot⟩) := by
  rw [step, h]

/-- To process a message at once is to begin and to end it. -/
theorem finish_start (l : Lending) (order : Message.Order) (m : Message) :
    (l.step (.start order m)).1.step (.finish l.loans.length) = l.step (.process order m) := by
  have hlast : (l.step (.start order m)).1.loans[l.loans.length]? =
      some (.underway l.processor.rulebook order (.fill order m l.processor.pool.acquire.1)) :=
    List.getElem?_concat_length
  have hloans : (l.step (.start order m)).1.loans.eraseIdx l.loans.length = l.loans := by
    simp [step, take, List.eraseIdx_append_of_length_le]
  rw [step_finish hlast, giveBack, hloans]
  rfl

/-- The pool is sound, and every message that is being processed is seen as it is. -/
structure Sound (n : Nat) (l : Lending) : Prop where
  pool : l.processor.pool.Sound n
  underway : ∀ rules order snapshot, .underway rules order snapshot ∈ l.loans →
    snapshot = .ofMessage order snapshot.message

variable {n : Nat} {l : Lending}

/-- A loan of empty maps does no harm if a message in it is seen as it is. -/
theorem Sound.take (h : l.Sound n) {loan : SnapshotMaps → Loan}
    (hloan : ∀ rules order snapshot, loan .empty = .underway rules order snapshot →
      snapshot = .ofMessage order snapshot.message) : (l.take loan).Sound n := by
  obtain ⟨hempty, hpool⟩ := h.pool.acquire
  refine ⟨hpool, ?_⟩
  intro rules order snapshot hmem
  rcases List.mem_append.mp hmem with hold | hnew
  · exact h.underway rules order snapshot hold
  · rw [List.mem_singleton, hempty] at hnew
    exact hloan rules order snapshot hnew.symm

/-- Maps that are given back leave the other loans as they are. -/
theorem Sound.giveBack (h : l.Sound n) (i : Nat) (maps : SnapshotMaps) :
    (l.giveBack i maps).Sound n where
  pool := h.pool.release maps
  underway rules order snapshot hmem :=
    h.underway rules order snapshot (List.mem_of_mem_eraseIdx hmem)

/-- Whatever a holder of maps puts into them, no message sees it. -/
theorem Sound.write (h : l.Sound n) (i : Nat) (maps : SnapshotMaps) :
    ({ l with loans := l.loans.set i (.maps maps) } : Lending).Sound n where
  pool := h.pool
  underway rules order snapshot hmem := by
    rcases List.mem_or_eq_of_mem_set hmem with hold | hnew
    · exact h.underway rules order snapshot hold
    · exact absurd hnew (by simp)

/-- A message that is processed at once borrows empty maps, too. -/
theorem Sound.process (h : l.Sound n) (order : Message.Order) (m : Message) :
    (l.processor.process order m).1.pool.Sound n ∧
      (l.processor.process order m).2 = l.processor.rulebook.process order m := by
  obtain ⟨hempty, hpool⟩ := h.pool.acquire
  refine ⟨hpool.release (Snapshot.fill order m l.processor.pool.acquire.1).maps, ?_⟩
  rw [Processor.process_verdict, Processor.judge, hempty]
  rfl

/-- What follows is sound again, and a message that comes to an end has gone its way by its rules
alone. -/
theorem Sound.step (h : l.Sound n) (e : Event) :
    (l.step e).1.Sound n ∧ ∀ j ∈ (l.step e).2, j.verdict = j.rules.process j.order j.message := by
  cases e with
  | acquire =>
    have htaken : (l.take .maps).Sound n := by
      apply h.take
      intro rules order snapshot hloan
      exact absurd hloan (by simp)
    exact ⟨htaken, by simp [Lending.step]⟩
  | write i maps =>
    rw [Lending.step]
    split
    · exact ⟨h.write i maps, by simp⟩
    · exact ⟨h, by simp⟩
  | release i =>
    rw [Lending.step]
    split
    · exact ⟨h.giveBack i _, by simp⟩
    · exact ⟨h, by simp⟩
  | start order m =>
    have htaken : (l.take fun maps =>
        .underway l.processor.rulebook order (.fill order m maps)).Sound n := by
      apply h.take
      intro rules order' snapshot hloan
      obtain ⟨-, rfl, rfl⟩ := Loan.underway.inj hloan
      rfl
    exact ⟨htaken, by simp [Lending.step]⟩
  | finish i =>
    rw [Lending.step]
    split
    · rename_i rules order snapshot hi
      obtain ⟨hpool, hunderway⟩ := h.giveBack i snapshot.maps
      refine ⟨⟨hpool, hunderway⟩, ?_⟩
      intro j hj
      obtain rfl := Option.mem_some_iff.mp hj
      have hsnapshot := h.underway rules order snapshot (List.mem_of_getElem? hi)
      exact congrArg rules.processOn hsnapshot
    · exact ⟨h, by simp⟩
  | process order m =>
    obtain ⟨hpool, hverdict⟩ := h.process order m
    refine ⟨⟨hpool, h.underway⟩, ?_⟩
    intro j hj
    obtain rfl := Option.mem_some_iff.mp hj
    exact hverdict
  | perform c => exact ⟨⟨h.pool, h.underway⟩, by simp [Lending.step]⟩

/-- Whatever events there are, what follows is sound, and every message that comes to an end has
gone its way by its rules alone. -/
theorem Sound.stepAll (h : l.Sound n) (es : List Event) :
    (l.stepAll es).1.Sound n ∧
      ∀ j ∈ (l.stepAll es).2, j.verdict = j.rules.process j.order j.message := by
  induction es generalizing l with
  | nil => exact ⟨h, fun j hj => absurd hj List.not_mem_nil⟩
  | cons e es ih =>
    obtain ⟨hfirst, hjudged⟩ := h.step e
    obtain ⟨hrest, hlater⟩ := ih hfirst
    refine ⟨hrest, ?_⟩
    intro j hj
    rcases List.mem_append.mp hj with hj | hj
    · exact hjudged j (Option.mem_toList.mp hj)
    · exact hlater j hj

/-- No message sees another one's data: whatever callers do with a processor, the maps that wait in
its pool are empty and are no more than there is room for, and every message that comes to an end
has become what the same rules make of it with a new pool of any size, its entries visited in the
same orders. -/
theorem messages_kept_apart (p : Processor) (n : Nat) (es : List Event) :
    let r := stepAll ⟨{ p with pool := .ofCapacity n }, []⟩ es
    (∀ maps ∈ r.1.processor.pool.idle, maps = .empty) ∧
    r.1.processor.pool.idle.length ≤ max n 1 ∧
    ∀ j ∈ r.2, ∀ (size : Nat) (metrics : Metrics),
      j.verdict = (Processor.process ⟨j.rules, .ofCapacity size, metrics⟩ j.order j.message).2 := by
  intro r
  have hstart : Sound n ⟨{ p with pool := .ofCapacity n }, []⟩ :=
    ⟨SnapshotPool.sound_ofCapacity n, fun _ _ _ hmem => absurd hmem List.not_mem_nil⟩
  obtain ⟨hsound, hjudged⟩ := hstart.stepAll es
  exact ⟨hsound.pool.clean, hsound.pool.bounded, fun j hj _ _ => hjudged j hj⟩

end Lending

end Telemetry
