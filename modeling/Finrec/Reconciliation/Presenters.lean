import Finrec.Lib.Transport
import Finrec.Reconciliation.Settlements

/-!
# The settlement page

`settlementContext` computes what the settlement page shows of a batch: its
records with their open amounts, a greedy allocation plan, and whether the
plan can be confirmed.
-/

namespace Finrec

open Checks

structure SettlementItem (Record : Type) where
  record : Record
  openAmount : ℤ
  openText : String
  occupied : Bool

structure AllocationRow where
  invoiceId : Uuid
  transactionId : Uuid
  amount : ℤ
  amountInput : String
deriving DecidableEq, Repr

/-- `f"{amount:.2f}"`. -/
def moneyInput (cents : ℤ) : String :=
  String.ofList (Decimal.ofCents cents).plain

/-- What is left of a record at the start of `_allocation_plan`. -/
def SettlementItem.available {Record : Type} (item : SettlementItem Record) : ℤ :=
  if item.occupied then 0 else max item.openAmount 0

/-- The records of `_allocation_plan`, each with what is left of it. -/
def planRecords {Record : Type} (key : Record → Uuid) (items : List (SettlementItem Record)) :
    List (Uuid × ℤ) :=
  items.map fun item => (key item.record, item.available)

/-- A line of the plan. -/
def planRow (cell : Transport.Flow Uuid Uuid) : AllocationRow :=
  ⟨cell.supply, cell.demand, cell.amount, moneyInput cell.amount⟩

/-- `_allocation_plan`; a round either leaves a record behind or uses one up. -/
def allocationPlan (invoiceItems : List (SettlementItem Invoice))
    (transactionItems : List (SettlementItem MoneyTransaction)) : List AllocationRow :=
  (Transport.fill (2 * (invoiceItems.length + transactionItems.length))
    (planRecords (·.id) invoiceItems) (planRecords (·.id) transactionItems)).map planRow

/-- The result of `settlement_context`. -/
structure SettlementContext where
  invoiceItems : List (SettlementItem Invoice)
  transactionItems : List (SettlementItem MoneyTransaction)
  allocationRows : List AllocationRow
  invoiceTotal : String
  moneyTotal : String
  allocatedTotal : String
  invoiceUnallocated : String
  moneyUnallocated : String
  canConfirm : Bool

/-- The open amounts of the records that are not occupied. -/
def freeTotal {Record : Type} (items : List (SettlementItem Record)) : ℤ :=
  Totals.total (fun item => !item.occupied) (·.openAmount) items

namespace Ledger

/-- A record of the batch carries an active allocation of another origin. -/
def isOccupied (ledger : Ledger) (batch : Uuid) (key : ReconciliationAllocation → Uuid)
    (id : Uuid) : Bool :=
  ledger.allocations.any fun allocation =>
    decide (key allocation = id) && ledger.isExternal batch allocation

/-- The invoices of a batch as `settlement_context` lists them. -/
def invoiceItems (ledger : Ledger) (batch : Uuid) : List (SettlementItem Invoice) :=
  (orderInvoices ((ledger.batchInvoiceIds batch).filterMap ledger.invoice?)).map fun invoice =>
    { record := invoice
      openAmount := ledger.invoiceOpen invoice
      openText := moneyText (ledger.invoiceOpen invoice)
      occupied := ledger.isOccupied batch (·.invoice) invoice.id }

/-- The transactions of a batch as `settlement_context` lists them. -/
def transactionItems (ledger : Ledger) (batch : Uuid) : List (SettlementItem MoneyTransaction) :=
  (orderTransactions ((ledger.batchTransactionIds batch).filterMap ledger.transaction?)).map
    fun money =>
      { record := money
        openAmount := ledger.transactionOpen money
        openText := moneyText (ledger.transactionOpen money)
        occupied := ledger.isOccupied batch (·.transaction) money.id }

end Ledger

/-- `settlement_context`. -/
def settlementContext (ledger : Ledger) (batch : Uuid) : SettlementContext :=
  let invoiceItems := ledger.invoiceItems batch
  let transactionItems := ledger.transactionItems batch
  let allocations := allocationPlan invoiceItems transactionItems
  let invoiceTotal := freeTotal invoiceItems
  let moneyTotal := freeTotal transactionItems
  let allocated := (allocations.map (·.amount)).sum
  let occupied := invoiceItems.any (·.occupied) || transactionItems.any (·.occupied)
  { invoiceItems := invoiceItems
    transactionItems := transactionItems
    allocationRows := allocations
    invoiceTotal := moneyText invoiceTotal
    moneyTotal := moneyText moneyTotal
    allocatedTotal := moneyText allocated
    invoiceUnallocated := moneyText (invoiceTotal - allocated)
    moneyUnallocated := moneyText (moneyTotal - allocated)
    canConfirm := !allocations.isEmpty && decide (invoiceTotal = moneyTotal) && !occupied }

/-- `as_allocation_inputs`. -/
def asAllocationInputs (rows : List AllocationRow) : List AllocationInput :=
  rows.map fun row => ⟨row.invoiceId, row.transactionId, .decimal (Decimal.ofCents row.amount)⟩

/-- A row of the workbench. -/
structure DirectRow where
  record : MoneyTransaction
  openAmount : ℤ
  openText : String
  openInput : String
  openCents : ℤ
  allocationInput : String
  selected : Bool

/-- The row of a transaction that is allocated an amount. -/
def directRow (item : SettlementItem MoneyTransaction) (amount : ℤ) : DirectRow where
  record := item.record
  openAmount := item.openAmount
  openText := moneyText item.openAmount
  openInput := moneyInput item.openAmount
  openCents := item.openAmount
  allocationInput := moneyInput amount
  selected := decide (0 < amount)

/-- `direct_allocation_rows`. -/
def directAllocationRows : List (SettlementItem MoneyTransaction) → ℤ → List DirectRow
  | [], _ => []
  | item :: rest, remaining =>
      let amount := min remaining item.openAmount
      directRow item amount :: directAllocationRows rest (remaining - amount)

/-! ## The plan is right

A record is an item of its list, so the statements speak of positions: they
hold for a list that names one record twice as well.
-/

section Plan

open Transport

variable {Record : Type}

/-- The items of a list, each with what is left of it. -/
def positioned (items : List (SettlementItem Record)) : List (Fin items.length × ℤ) :=
  (List.finRange items.length).map fun position => (position, (items.get position).available)

/-- The line that a cell of the plan stands for. -/
def cellRow (invoiceItems : List (SettlementItem Invoice))
    (transactionItems : List (SettlementItem MoneyTransaction))
    (cell : Transport.Flow (Fin invoiceItems.length) (Fin transactionItems.length)) : AllocationRow :=
  planRow ⟨(invoiceItems.get cell.supply).record.id, (transactionItems.get cell.demand).record.id,
    cell.amount⟩

/-- What is left of all items of a list. -/
def availableTotal (items : List (SettlementItem Record)) : ℤ :=
  (items.map (·.available)).sum

theorem available_nonneg (item : SettlementItem Record) : 0 ≤ item.available := by
  simp only [SettlementItem.available]
  split_ifs
  · exact le_rfl
  · exact le_max_right _ _

theorem not_occupied_of_available {item : SettlementItem Record} (positive : 0 < item.available) :
    item.occupied = false := by
  cases occupied : item.occupied with
  | false => rfl
  | true => simp [SettlementItem.available, occupied] at positive

theorem planRecords_eq (key : Record → Uuid) (items : List (SettlementItem Record)) :
    planRecords key items = (positioned items).map fun entry =>
      (key (items.get entry.1).record, entry.2) := by
  calc
    planRecords key items =
        planRecords key ((List.finRange items.length).map items.get) := by
      rw [List.map_get_finRange]
    _ = (positioned items).map fun entry => (key (items.get entry.1).record, entry.2) := by
      rw [planRecords, List.map_map, positioned, List.map_map]
      rfl

theorem mem_positioned {items : List (SettlementItem Record)} {entry : Fin items.length × ℤ} :
    entry ∈ positioned items ↔ entry.2 = (items.get entry.1).available := by
  simp only [positioned, List.mem_map, List.mem_finRange, true_and]
  constructor
  · rintro ⟨position, rfl⟩
    rfl
  · intro same
    exact ⟨entry.1, Prod.ext rfl same.symm⟩

theorem positioned_nonneg (items : List (SettlementItem Record)) : Nonneg (positioned items) := by
  intro entry member
  rw [mem_positioned.mp member]
  exact available_nonneg _

theorem positioned_distinct (items : List (SettlementItem Record)) :
    Distinct (positioned items) := by
  simpa [Distinct, positioned, Function.comp_def] using List.nodup_finRange items.length

theorem sum_positioned (items : List (SettlementItem Record)) :
    Transport.sum (positioned items) = availableTotal items := by
  calc
    Transport.sum (positioned items) =
        availableTotal ((List.finRange items.length).map items.get) := by
      rw [Transport.sum, positioned, availableTotal, List.map_map, List.map_map]
      rfl
    _ = availableTotal items := by rw [List.map_get_finRange]

/-- Items with distinct keys are told apart by their keys. -/
theorem injective_key {key : Record → Uuid} {items : List (SettlementItem Record)}
    (distinct : (items.map fun item => key item.record).Nodup) :
    Function.Injective fun position : Fin items.length => key (items.get position).record := by
  intro position position' same
  have sameEntry : (items.map fun item => key item.record).get
      (position.cast (by simp)) = (items.map fun item => key item.record).get
      (position'.cast (by simp)) := by
    simpa using same
  have samePosition := List.nodup_iff_injective_get.mp distinct sameEntry
  simpa using samePosition

theorem positioned_length (items : List (SettlementItem Record)) :
    (positioned items).length = items.length := by
  simp [positioned]

end Plan

/--
The loop of `_allocation_plan` ends for all lists, and its lines respect what is
left of every item and move as much as the smaller side has.
-/
theorem allocation_plan_right (invoiceItems : List (SettlementItem Invoice))
    (transactionItems : List (SettlementItem MoneyTransaction)) :
    ∃ cells : List (Transport.Flow (Fin invoiceItems.length) (Fin transactionItems.length)),
      Transport.Filling (positioned invoiceItems) (positioned transactionItems) cells ∧
      allocationPlan invoiceItems transactionItems =
        cells.map (cellRow invoiceItems transactionItems) ∧
      (∀ cell ∈ cells, 0 < cell.amount ∧ (invoiceItems.get cell.supply).occupied = false ∧
        (transactionItems.get cell.demand).occupied = false) ∧
      (cells.map fun cell => (cell.supply, cell.demand)).Nodup ∧
      (∀ position, Transport.supplied cells position ≤ (invoiceItems.get position).available) ∧
      (∀ position, Transport.demanded cells position ≤ (transactionItems.get position).available) ∧
      ((allocationPlan invoiceItems transactionItems).map (·.amount)).sum =
        min (availableTotal invoiceItems) (availableTotal transactionItems) ∧
      (availableTotal invoiceItems = availableTotal transactionItems →
        (∀ position, Transport.supplied cells position = (invoiceItems.get position).available) ∧
          ∀ position,
            Transport.demanded cells position = (transactionItems.get position).available) ∧
      ((invoiceItems.map (·.record.id)).Nodup → (transactionItems.map (·.record.id)).Nodup →
        ((allocationPlan invoiceItems transactionItems).map fun row =>
          (row.invoiceId, row.transactionId)).Nodup) := by
  have enough : Transport.Enough (2 * (invoiceItems.length + transactionItems.length))
      (positioned invoiceItems) (positioned transactionItems) := by
    simp only [Transport.Enough, positioned_length]
    omega
  have invoicesNonneg := positioned_nonneg invoiceItems
  have transactionsNonneg := positioned_nonneg transactionItems
  have invoicesDistinct := positioned_distinct invoiceItems
  have transactionsDistinct := positioned_distinct transactionItems
  have filling := Transport.filling_fill enough
  have within := Transport.fill_within
    (2 * (invoiceItems.length + transactionItems.length)) invoicesNonneg transactionsNonneg
    invoicesDistinct transactionsDistinct
  have rows : allocationPlan invoiceItems transactionItems =
      (Transport.fill (2 * (invoiceItems.length + transactionItems.length))
        (positioned invoiceItems) (positioned transactionItems)).map
        (cellRow invoiceItems transactionItems) := by
    rw [allocationPlan, planRecords_eq, planRecords_eq,
      Transport.fill_map (fun position => (invoiceItems.get position).record.id)
        (fun position => (transactionItems.get position).record.id), List.map_map]
    rfl
  have pairs := Transport.nodup_fill (2 * (invoiceItems.length + transactionItems.length))
    invoicesNonneg transactionsNonneg invoicesDistinct transactionsDistinct
  refine ⟨_, filling, rows, ?_, pairs, ?_, ?_, ?_, ?_, ?_⟩
  · intro cell member
    rcases Transport.of_mem_fill invoicesNonneg transactionsNonneg member with
      ⟨positive, ⟨left, leftMem, leftPos⟩, left', leftMem', leftPos'⟩
    rw [mem_positioned] at leftMem leftMem'
    simp only at leftMem leftMem'
    rw [leftMem] at leftPos
    rw [leftMem'] at leftPos'
    exact ⟨positive, not_occupied_of_available leftPos, not_occupied_of_available leftPos'⟩
  · intro position
    exact within.1 (position, _) (mem_positioned.mpr rfl)
  · intro position
    exact within.2 (position, _) (mem_positioned.mpr rfl)
  · rw [rows, List.map_map, ← sum_positioned, ← sum_positioned]
    exact filling.sum_amounts invoicesNonneg transactionsNonneg
  · intro balanced
    rw [← sum_positioned, ← sum_positioned] at balanced
    have exhausted := Transport.fill_balanced invoicesNonneg transactionsNonneg invoicesDistinct
      transactionsDistinct enough balanced
    exact ⟨fun position => exhausted.1 (position, _) (mem_positioned.mpr rfl),
      fun position => exhausted.2 (position, _) (mem_positioned.mpr rfl)⟩
  · intro invoiceIds transactionIds
    have told := pairs.map ((injective_key invoiceIds).prodMap (injective_key transactionIds))
    rw [List.map_map] at told
    rw [rows, List.map_map]
    exact told

end Finrec
