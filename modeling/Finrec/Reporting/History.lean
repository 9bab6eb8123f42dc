import Finrec.Ledger.StatusChanges
import Finrec.Reconciliation.Reversals

/-!
# Open amounts of the past

What was open at a cutoff is rebuilt from the times of the reconciliations and
of their reversals.  Entries that are stamped from the cutoff on leave it alone,
and it is what the services read when the cutoff came.
-/

namespace Finrec

open Calendar Totals

namespace Ledger

variable {ledger before after : Ledger} {cutoff : ℤ}

theorem historicalAmount_congr (reconciliations : after.reconciliations = before.reconciliations)
    (allocations : after.allocations = before.allocations)
    (reversals : after.reversals = before.reversals) (cutoff : ℤ)
    (key : ReconciliationAllocation → Uuid) (id : Uuid) :
    after.historicalAmount cutoff key id = before.historicalAmount cutoff key id := by
  simp only [historicalAmount, historicallyValid, reconciliation?, reversal?, reconciliations,
    allocations, reversals]

namespace Sound

/-- The reconciliation of an allocation is on record. -/
theorem reconciliation?_of_allocation (sound : ledger.Sound)
    {allocation : ReconciliationAllocation} (member : allocation ∈ ledger.allocations) :
    ∃ row ∈ ledger.reconciliations,
      ledger.reconciliation? allocation.reconciliation = some row := by
  rcases (sound.allocationsFit allocation member).joined with ⟨row, rowMem, rowId, -⟩
  exact ⟨row, rowMem, (find?_eq_some_iff sound.reconciliationIds).mpr ⟨rowMem, rowId⟩⟩

theorem historicallyValid_insertReconciliation (sound : ledger.Sound) (row : Reconciliation)
    (lines : List AllocationLine) {allocation : ReconciliationAllocation}
    (member : allocation ∈ ledger.allocations) :
    (ledger.insertReconciliation row lines).historicallyValid cutoff allocation =
      ledger.historicallyValid cutoff allocation := by
  rcases sound.reconciliation?_of_allocation member with ⟨old, -, found⟩
  have still : (ledger.insertReconciliation row lines).reconciliation? allocation.reconciliation =
      some old := by
    rw [reconciliation?] at found
    simp only [reconciliation?, Ledger.insertReconciliation, recordAudit, List.find?_append, found,
      Option.some_or]
  have sameReversals (id : Uuid) :
      (ledger.insertReconciliation row lines).reversal? id = ledger.reversal? id := rfl
  simp only [historicallyValid, found, still, sameReversals]

/-- A reconciliation from the cutoff on is not seen at the cutoff. -/
theorem not_historicallyValid_new {row : Reconciliation}
    (fresh : ∀ other ∈ ledger.reconciliations, other.id ≠ row.id) (late : cutoff ≤ row.createdAt)
    (lines : List AllocationLine) (line : AllocationLine) :
    (ledger.insertReconciliation row lines).historicallyValid cutoff
      (allocationRow row.id line) = false := by
  have unknown : ledger.reconciliations.find? (fun other => decide (other.id = row.id)) = none := by
    rw [List.find?_eq_none]
    intro other member
    simpa using fresh other member
  have found : (ledger.insertReconciliation row lines).reconciliation? row.id = some row := by
    simp [reconciliation?, Ledger.insertReconciliation, recordAudit, List.find?_append, unknown]
  have notEarly : ¬row.createdAt < cutoff := not_lt.mpr late
  simp only [historicallyValid, allocationRow, found, notEarly, decide_false, Bool.false_and]

theorem historicalAmount_insertReconciliation (sound : ledger.Sound) {row : Reconciliation}
    (fresh : ∀ other ∈ ledger.reconciliations, other.id ≠ row.id) (late : cutoff ≤ row.createdAt)
    (lines : List AllocationLine) (key : ReconciliationAllocation → Uuid) (id : Uuid) :
    (ledger.insertReconciliation row lines).historicalAmount cutoff key id =
      ledger.historicalAmount cutoff key id := by
  have allocations : (ledger.insertReconciliation row lines).allocations =
      ledger.allocations ++ lines.map (allocationRow row.id) := rfl
  rw [historicalAmount, allocations, total_append, historicalAmount]
  have old : total (fun allocation => decide (key allocation = id) &&
        (ledger.insertReconciliation row lines).historicallyValid cutoff allocation) (·.amount)
        ledger.allocations =
      total (fun allocation => decide (key allocation = id) &&
        ledger.historicallyValid cutoff allocation) (·.amount) ledger.allocations := by
    apply total_congr
    intro allocation member
    rw [sound.historicallyValid_insertReconciliation row lines member]
  have new : total (fun allocation => decide (key allocation = id) &&
        (ledger.insertReconciliation row lines).historicallyValid cutoff allocation) (·.amount)
        (lines.map (allocationRow row.id)) = 0 := by
    apply total_eq_zero
    intro allocation member
    rcases List.mem_map.mp member with ⟨line, -, rfl⟩
    rw [not_historicallyValid_new fresh late, Bool.and_false]
  rw [old, new, add_zero]

end Sound

/-- A move that is stamped from the cutoff on does not change what was open there. -/
theorem historicalAmount_of_move (sound : before.Sound)
    (move : LedgerMove (cutoff ≤ ·) before after) (key : ReconciliationAllocation → Uuid)
    (id : Uuid) : after.historicalAmount cutoff key id = before.historicalAmount cutoff key id := by
  cases move with
  | maintain directory => exact historicalAmount_congr rfl rfl rfl cutoff key id
  | stage request sha256 batch rows => exact historicalAmount_congr rfl rfl rfl cutoff key id
  | imports move =>
      have same : SameBooks before after := .of_importMove move
      apply historicalAmount_congr same.reconciliations same.allocations same.reversals
  | reconcile row lines checked late =>
      exact sound.historicalAmount_insertReconciliation checked.fresh late lines key id
  | reverse row original notReversed late =>
      rcases original with ⟨reconciliation, member, same⟩
      rw [← same] at notReversed
      have given := historicalAmount_insertReversal row sound member same.symm notReversed cutoff
        key id
      rw [if_neg fun earlier => absurd earlier.2 (not_lt.mpr late), add_zero] at given
      exact given.symm
  | draft row invoices transactions now checked =>
      exact historicalAmount_congr rfl rfl rfl cutoff key id
  | settle batch => exact historicalAmount_congr rfl rfl rfl cutoff key id

/-! ## Entries before the cutoff -/

/-- Every reconciliation and every reversal bears such a time. -/
structure Bears (ledger : Ledger) (stamps : ℤ → Prop) : Prop where
  reconciliations : ∀ row ∈ ledger.reconciliations, stamps row.createdAt
  reversals : ∀ row ∈ ledger.reversals, stamps row.createdAt

namespace Bears

variable {stamps : ℤ → Prop}

theorem empty (directory : Directory) : (Ledger.empty directory).Bears stamps := by
  constructor <;> simp [Ledger.empty]

theorem of_move (bears : before.Bears stamps) (move : LedgerMove stamps before after) :
    after.Bears stamps := by
  cases move with
  | maintain directory => exact ⟨bears.reconciliations, bears.reversals⟩
  | stage request sha256 batch rows => exact ⟨bears.reconciliations, bears.reversals⟩
  | imports move =>
      have same : SameBooks before after := .of_importMove move
      constructor
      · rw [same.reconciliations]
        exact bears.reconciliations
      · rw [same.reversals]
        exact bears.reversals
  | reconcile row lines checked stamped =>
      refine ⟨?_, bears.reversals⟩
      intro other member
      rcases List.mem_append.mp member with old | new
      · exact bears.reconciliations other old
      · rw [List.mem_singleton.mp new]
        exact stamped
  | reverse row original notReversed stamped =>
      refine ⟨bears.reconciliations, ?_⟩
      intro other member
      rcases List.mem_append.mp member with old | new
      · exact bears.reversals other old
      · rw [List.mem_singleton.mp new]
        exact stamped
  | draft row invoices transactions now checked => exact ⟨bears.reconciliations, bears.reversals⟩
  | settle batch => exact ⟨bears.reconciliations, bears.reversals⟩

/-- Before the cutoff, what is valid is what is active. -/
theorem historicallyValid_eq (sound : ledger.Sound) (bears : ledger.Bears (· < cutoff))
    {allocation : ReconciliationAllocation} (member : allocation ∈ ledger.allocations) :
    ledger.historicallyValid cutoff allocation = ledger.isActive allocation := by
  rcases sound.reconciliation?_of_allocation member with ⟨row, rowMem, found⟩
  have early : row.createdAt < cutoff := bears.reconciliations row rowMem
  have sameId : row.id = allocation.reconciliation := (reconciliation?_eq_some found).2
  rw [isActive, ← isNone_reversal?, ← sameId]
  simp only [historicallyValid, found, early, decide_true, Bool.true_and]
  cases reversed : ledger.reversal? row.id with
  | none => rfl
  | some reversal =>
      have reversalEarly : reversal.createdAt < cutoff :=
        bears.reversals reversal (List.mem_of_find?_eq_some reversed)
      simpa using reversalEarly

theorem historicalAmount_eq (sound : ledger.Sound) (bears : ledger.Bears (· < cutoff))
    (key : ReconciliationAllocation → Uuid) (id : Uuid) :
    ledger.historicalAmount cutoff key id = ledger.activeAmount key id := by
  apply total_congr
  intro allocation member
  rw [historicallyValid_eq sound bears member]

end Bears

end Ledger

/-! ## Runs -/

section Runs

variable {site : Installation} {stamps : ℤ → Prop} {ledger : Ledger} {operations : List Operation}

/-- What stamped moves preserve holds after a run of stamped operations. -/
theorem runFrom_stamped (holds : Ledger → Prop) (start : holds ledger)
    (preserved : ∀ {before after}, holds before → LedgerMove stamps before after → holds after)
    (stamped : ∀ operation ∈ operations, operation.Stamped stamps) :
    holds (runFrom site ledger operations) := by
  induction operations generalizing ledger with
  | nil => exact start
  | cons operation rest ih =>
      rw [List.forall_mem_cons] at stamped
      refine ih ?_ stamped.2
      rw [Operation.step]
      split
      · rename_i after succeeded
        have moves : LedgerMoves stamps ledger after := perform_moves stamped.1 succeeded
        clear succeeded
        induction moves with
        | refl => exact start
        | tail _ move holdsBefore => exact preserved holdsBefore move
      · exact start

/-- Operations from the cutoff on leave the open amounts at the cutoff alone. -/
theorem runFrom_historicalAmount {cutoff : ℤ} (sound : ledger.Sound)
    (late : ∀ operation ∈ operations, operation.Stamped (cutoff ≤ ·))
    (key : ReconciliationAllocation → Uuid) (id : Uuid) :
    (runFrom site ledger operations).historicalAmount cutoff key id =
      ledger.historicalAmount cutoff key id := by
  let kept : Ledger → Prop := fun reached => reached.Sound ∧
    reached.historicalAmount cutoff key id = ledger.historicalAmount cutoff key id
  have last : kept (runFrom site ledger operations) := by
    refine runFrom_stamped kept ⟨sound, rfl⟩ ?_ late
    rintro before after ⟨soundBefore, same⟩ move
    refine ⟨?_, ?_⟩
    · exact moves_sound soundBefore (.single move)
    · exact (Ledger.historicalAmount_of_move soundBefore move key id).trans same
  exact last.2

/-- What was allocated at the cutoff is what was active when the cutoff came. -/
theorem run_historicalAmount (site : Installation) (directory : Directory) {cutoff : ℤ}
    {earlier later : List Operation}
    (before : ∀ operation ∈ earlier, operation.Stamped (· < cutoff))
    (after : ∀ operation ∈ later, operation.Stamped (cutoff ≤ ·))
    (key : ReconciliationAllocation → Uuid) (id : Uuid) :
    (run site directory (earlier ++ later)).historicalAmount cutoff key id =
      (run site directory earlier).activeAmount key id := by
  have sound := run_sound site directory earlier
  have bears : (run site directory earlier).Bears (· < cutoff) := by
    refine runFrom_stamped (·.Bears (· < cutoff)) (.empty directory) ?_ before
    intro earlier later bears move
    exact bears.of_move move
  have split : run site directory (earlier ++ later) =
      runFrom site (run site directory earlier) later := runFrom_append _ _ _ _
  rw [split, runFrom_historicalAmount sound after, bears.historicalAmount_eq sound]

end Runs

end Finrec
