import Finrec.Lib.Windows
import Finrec.Reconciliation.Acceptance
import Finrec.Reconciliation.Presenters

/-!
# Candidates

The candidate search proposes transactions for an invoice and invoices for a
transaction: contiguous windows of the other side whose open amounts add up to
the target, and failing that a partial payment.  The search for the invoices of
a transaction keeps to normal invoices.  The search for the transactions of an
invoice does not look at the status of the invoice, so what it proposes for a
red or a void invoice is refused.
-/

namespace Finrec

open Calendar Checks Totals

/-- The source's `PARTIAL` is `partly` here. -/
inductive CandidateKind where
  | contiguousExact
  | multiInvoiceExact
  | partly
deriving DecidableEq, Repr

structure Candidate where
  kind : CandidateKind
  transactionIds : List Uuid
  invoiceIds : List Uuid
  total : ℤ
  difference : ℤ
  startAt : ℤ
  endAt : ℤ
deriving DecidableEq, Repr

structure AvailableTransaction where
  id : Uuid
  occurredAt : ℤ
  openAmount : ℤ
deriving DecidableEq, Repr

/-- `_validate_date_window`. -/
def validateDateWindow (start stop : ℤ) : Except ServiceError Unit :=
  require (start ≤ stop) (.value "日期区间不合法")

/-- The value of the first item; a window has one. -/
def firstOf {α : Type} (value : α → ℤ) (window : List α) : ℤ :=
  (window.head?.map value).getD 0

/-- The value of the last item; a window has one. -/
def lastOf {α : Type} (value : α → ℤ) (window : List α) : ℤ :=
  (window.getLast?.map value).getD 0

namespace Ledger

/-- The transactions that `available_transactions_for_invoice` goes through. -/
def windowTransactions (ledger : Ledger) (zone : Zone) (invoice : Invoice) (start stop : ℤ) :
    List MoneyTransaction :=
  orderTransactions (ledger.transactions.filter fun money =>
    decide (money.counterparty = some invoice.counterparty ∧
      money.direction = (if invoice.direction = .input then .outflow else .inflow) ∧
      start ≤ zone.localDay money.occurredAt ∧ zone.localDay money.occurredAt ≤ stop))

/-- `available_transactions_for_invoice`. -/
def availableTransactionsForInvoice (ledger : Ledger) (zone : Zone) (invoice : Invoice)
    (start stop : ℤ) : List AvailableTransaction :=
  ((ledger.windowTransactions zone invoice start stop).filter fun money =>
    decide (0 < ledger.transactionOpen money)).map fun money =>
      ⟨money.id, money.occurredAt, ledger.transactionOpen money⟩

/-- The invoices of the query of `invoice_candidates`. -/
def windowInvoices (ledger : Ledger) (counterparty : Uuid) (direction : MoneyDirection)
    (start stop : ℤ) : List Invoice :=
  orderInvoices (ledger.invoices.filter fun invoice =>
    decide (invoice.counterparty = counterparty ∧
      invoice.direction = (if direction = .outflow then .input else .output) ∧
      start ≤ invoice.issueDate.toDay ∧ invoice.issueDate.toDay ≤ stop ∧
      invoice.status = .normal))

end Ledger

def exactTransactionCandidate (invoice : Uuid) (found : List AvailableTransaction × ℤ) :
    Candidate where
  kind := .contiguousExact
  transactionIds := found.1.map (·.id)
  invoiceIds := [invoice]
  total := found.2
  difference := 0
  startAt := firstOf (·.occurredAt) found.1
  endAt := lastOf (·.occurredAt) found.1

def partialCandidate (invoice : Uuid) (target : ℤ) (items : List AvailableTransaction) :
    Candidate where
  kind := .partly
  transactionIds := items.map (·.id)
  invoiceIds := [invoice]
  total := min target (items.map (·.openAmount)).sum
  difference := max (target - (items.map (·.openAmount)).sum) 0
  startAt := firstOf (·.occurredAt) items
  endAt := lastOf (·.occurredAt) items

/-- `transaction_candidates`. -/
def transactionCandidates (ledger : Ledger) (zone : Zone) (invoiceId : Uuid) (start stop : ℤ) :
    Except ServiceError (List Candidate) := do
  validateDateWindow start stop
  let invoice ← present (ledger.invoice? invoiceId) (.doesNotExist "Invoice")
  let target ← invoiceOpenAmount ledger invoice.id
  if target ≤ 0 then return []
  let items := ledger.availableTransactionsForInvoice zone invoice start stop
  let exact := (Windows.contiguous (·.openAmount) target items).map
    (exactTransactionCandidate invoice.id)
  if exact ≠ [] then return exact
  if items = [] then return []
  return [partialCandidate invoice.id target items]

def exactInvoiceCandidate (transaction : Uuid) (found : List (Invoice × ℤ) × ℤ) : Candidate where
  kind := .multiInvoiceExact
  transactionIds := [transaction]
  invoiceIds := found.1.map (·.1.id)
  total := found.2
  difference := 0
  startAt := firstOf (fun item => Zone.utc.dayStart item.1.issueDate.toDay) found.1
  endAt := lastOf (fun item => Zone.utc.dayStart item.1.issueDate.toDay + dayMicros - 1) found.1

/-- `invoice_candidates`. -/
def invoiceCandidates (ledger : Ledger) (transactionId : Uuid) (start stop : ℤ) :
    Except ServiceError (List Candidate) := do
  validateDateWindow start stop
  let money ← present (ledger.transaction? transactionId) (.doesNotExist "MoneyTransaction")
  let target ← transactionOpenAmount ledger money.id
  match money.counterparty with
  | none => return []
  | some counterparty =>
      if target ≤ 0 then return []
      let available := ((ledger.windowInvoices counterparty money.direction start stop).map
        fun invoice => (invoice, ledger.invoiceOpen invoice)).filter fun item => decide (0 < item.2)
      return (Windows.contiguous (·.2) target available).map (exactInvoiceCandidate money.id)

/-! ## What a candidate proposes -/

namespace Ledger

/-- The open amount of a transaction, by its key. -/
def transactionOpenOf (ledger : Ledger) (id : Uuid) : ℤ :=
  ((ledger.transaction? id).map ledger.transactionOpen).getD 0

/-- The open amount of an invoice, by its key. -/
def invoiceOpenOf (ledger : Ledger) (id : Uuid) : ℤ :=
  ((ledger.invoice? id).map ledger.invoiceOpen).getD 0

/-- The rows of the workbench for the transactions of a candidate. -/
def candidateItems (ledger : Ledger) (candidate : Candidate) :
    List (SettlementItem MoneyTransaction) :=
  (candidate.transactionIds.filterMap ledger.transaction?).map fun money =>
    ⟨money, ledger.transactionOpen money, moneyText (ledger.transactionOpen money), false⟩

end Ledger

/-- The lines of the selected rows of the workbench, with the amounts that they show. -/
def selectedInputs (invoice : Uuid) (rows : List DirectRow) : List AllocationInput :=
  (rows.filter (·.selected)).map fun row => ⟨invoice, row.record.id,
    match Decimal.ofPlain? row.allocationInput.toList with
    | some number => .decimal number
    | none => .other⟩

/-- A direct request for lines without expected amounts. -/
def directRequest (actor : Actor) (direction : ReconciliationDirection)
    (lines : List AllocationInput) (allowPartial : Bool) : ReconciliationRequest :=
  ⟨actor, some direction, lines, "", some .direct, none, none, none, allowPartial⟩

/-- The lines are accepted from a finance user. -/
def Accepted (ledger : Ledger) (direction : ReconciliationDirection)
    (lines : List AllocationInput) (allowPartial : Bool) : Prop :=
  ∀ (actor : Actor), actor.IsFinance → ∀ uuid, (∀ row ∈ ledger.reconciliations, row.id ≠ uuid) →
    ∀ now, ∃ after, createReconciliation (directRequest actor direction lines allowPartial) uuid
      now ledger = .ok after

/-- What a candidate for an invoice promises. -/
def InvoiceActionable (ledger : Ledger) (invoice : Invoice) (candidate : Candidate) : Prop :=
  match candidate.kind with
  | .partly =>
      candidate.total + candidate.difference = ledger.invoiceOpen invoice ∧ 0 < candidate.total ∧
        0 ≤ candidate.difference ∧
        Accepted ledger (directionOf invoice.direction)
          (selectedInputs invoice.id (directAllocationRows (ledger.candidateItems candidate)
            (ledger.invoiceOpen invoice))) true ∧
        ((selectedInputs invoice.id (directAllocationRows (ledger.candidateItems candidate)
          (ledger.invoiceOpen invoice))).map (·.amount.cents)).sum = candidate.total
  | _ =>
      candidate.total = ledger.invoiceOpen invoice ∧
        Accepted ledger (directionOf invoice.direction)
          (paymentsOf invoice.id (candidate.transactionIds.map fun id =>
            (id, ledger.transactionOpenOf id))) false

/-- What a candidate for a transaction promises. -/
def TransactionActionable (ledger : Ledger) (money : MoneyTransaction) (candidate : Candidate) :
    Prop :=
  candidate.total = ledger.transactionOpen money ∧
    Accepted ledger (if money.direction = .outflow then .purchasePayment else .salesReceipt)
      (receiptsOf money.id (candidate.invoiceIds.map fun id => (id, ledger.invoiceOpenOf id))) false

/-! ## The search for an invoice -/

section Requests

variable {ledger : Ledger} {direction : ReconciliationDirection} {lines : List AllocationInput}
  {allowPartial : Bool}

theorem directRequest_legal {actor : Actor} (finance : actor.IsFinance) {uuid : Uuid}
    (fresh : ∀ row ∈ ledger.reconciliations, row.id ≠ uuid) :
    ArgumentsLegal ledger (directRequest actor direction lines allowPartial) uuid direction
      .direct :=
  ⟨finance, rfl, rfl, by simp [directRequest], fresh, by simp [directRequest]⟩

theorem accepted_of_valid (sound : ledger.Sound)
    (valid : ∀ actor, ValidRequest ledger direction
      (directRequest actor direction lines allowPartial)) :
    Accepted ledger direction lines allowPartial := by
  intro actor finance uuid fresh now
  exact (createReconciliation_ok_iff sound (directRequest_legal finance fresh)).mpr (valid actor)

theorem exists_fresh (ledger : Ledger) : ∃ uuid, ∀ row ∈ ledger.reconciliations, row.id ≠ uuid := by
  refine ⟨(ledger.reconciliations.map (·.id)).sum + 1, ?_⟩
  intro row member
  have below : row.id ≤ (ledger.reconciliations.map (·.id)).sum :=
    List.le_sum_of_mem (List.mem_map_of_mem member)
  exact (Nat.lt_succ_of_le below).ne

/-- A line on a red or void invoice is refused. -/
theorem not_accepted (item : AllocationInput) (sound : ledger.Sound) {invoice : Invoice}
    (listed : invoice ∈ ledger.invoices) (notNormal : invoice.status ≠ .normal) {actor : Actor}
    (finance : actor.IsFinance) (member : item ∈ lines) (ofInvoice : item.invoiceId = invoice.id) :
    ¬Accepted ledger direction lines allowPartial := by
  intro accepted
  rcases exists_fresh ledger with ⟨uuid, fresh⟩
  have valid := (createReconciliation_ok_iff sound
    (directRequest_legal finance fresh)).mp (accepted actor finance uuid fresh 0)
  rcases valid.pairsFit item member with ⟨other, otherListed, otherId, -, -, -, -, -, notVoid⟩
  rw [List.inj_on_of_nodup_map sound.invoiceIds otherListed listed
    (otherId.trans ofInvoice)] at notVoid
  cases status : invoice.status with
  | normal => exact notNormal status
  | void => exact notVoid.1 status
  | red => exact notVoid.2 status

end Requests

section Invoice

variable {ledger : Ledger} {zone : Zone} {invoice : Invoice} {start stop : ℤ}

/-- The transactions behind the available ones. -/
def Ledger.offers (ledger : Ledger) (zone : Zone) (invoice : Invoice) (start stop : ℤ) :
    List MoneyTransaction :=
  (ledger.windowTransactions zone invoice start stop).filter fun money =>
    decide (0 < ledger.transactionOpen money)

theorem mem_offers {money : MoneyTransaction} :
    money ∈ ledger.offers zone invoice start stop ↔
      money ∈ ledger.transactions ∧ money.counterparty = some invoice.counterparty ∧
        money.direction = (directionsFor (directionOf invoice.direction)).2 ∧
        (start ≤ zone.localDay money.occurredAt ∧ zone.localDay money.occurredAt ≤ stop) ∧
        0 < ledger.transactionOpen money := by
  have direction : (if invoice.direction = .input then MoneyDirection.outflow else .inflow) =
      (directionsFor (directionOf invoice.direction)).2 := by
    cases invoice.direction <;> rfl
  simp only [Ledger.offers, Ledger.windowTransactions, orderTransactions, direction,
    List.mem_filter, List.mem_insertionSort, decide_eq_true_eq]
  constructor
  · rintro ⟨⟨listed, counterparty, ofDirection, after, before⟩, positive⟩
    exact ⟨listed, counterparty, ofDirection, ⟨after, before⟩, positive⟩
  · rintro ⟨listed, counterparty, ofDirection, ⟨after, before⟩, positive⟩
    exact ⟨⟨listed, counterparty, ofDirection, after, before⟩, positive⟩

theorem nodup_offers (sound : ledger.Sound) :
    ((ledger.offers zone invoice start stop).map (·.id)).Nodup := by
  have ordered := (List.perm_insertionSort
    (ByKeys (fun money : MoneyTransaction => money.occurredAt) fun money => money.id)
    (ledger.transactions.filter fun money =>
      decide (money.counterparty = some invoice.counterparty ∧
        money.direction = (if invoice.direction = .input then .outflow else .inflow) ∧
        start ≤ zone.localDay money.occurredAt ∧ zone.localDay money.occurredAt ≤ stop))).map
    MoneyTransaction.id
  have windowNodup : ((ledger.windowTransactions zone invoice start stop).map
      MoneyTransaction.id).Nodup :=
    ordered.nodup_iff.mpr ((List.filter_sublist.map _).nodup sound.transactionIds)
  exact (List.filter_sublist.map _).nodup windowNodup

theorem transactionOpenOf_eq (sound : ledger.Sound) {money : MoneyTransaction}
    (listed : money ∈ ledger.transactions) :
    ledger.transactionOpenOf money.id = ledger.transactionOpen money := by
  rw [Ledger.transactionOpenOf, sound.transaction?_eq_some_iff.mpr ⟨listed, rfl⟩]
  rfl

theorem invoiceOpenOf_eq (sound : ledger.Sound) (listed : invoice ∈ ledger.invoices) :
    ledger.invoiceOpenOf invoice.id = ledger.invoiceOpen invoice := by
  rw [Ledger.invoiceOpenOf, sound.invoice?_eq_some_iff.mpr ⟨listed, rfl⟩]
  rfl

/-- An offered transaction can pay up to its open amount. -/
theorem canPay_of_offer {money : MoneyTransaction}
    (offered : money ∈ ledger.offers zone invoice start stop) {amount : ℤ} (positive : 0 < amount)
    (room : amount ≤ ledger.transactionOpen money) : ledger.CanPay invoice (money.id, amount) := by
  rcases mem_offers.mp offered with ⟨listed, counterparty, direction, -, -⟩
  exact ⟨positive, money, listed, rfl, direction, counterparty, room⟩

/-- An exact candidate of a normal invoice is accepted whole. -/
theorem exact_actionable (sound : ledger.Sound) (listed : invoice ∈ ledger.invoices)
    (normal : invoice.status = .normal) {found : List AvailableTransaction × ℤ}
    (member : found ∈ Windows.contiguous (·.openAmount) (ledger.invoiceOpen invoice)
      (ledger.availableTransactionsForInvoice zone invoice start stop)) :
    InvoiceActionable ledger invoice (exactTransactionCandidate invoice.id found) := by
  rcases Windows.of_mem_contiguous member with ⟨reached, sumEq, nonempty, isInfix⟩
  have offer : ∀ item ∈ found.1, ∃ money ∈ ledger.offers zone invoice start stop,
      money.id = item.id ∧ ledger.transactionOpen money = item.openAmount := by
    intro item itemMem
    rcases List.mem_map.mp (isInfix.subset itemMem) with ⟨money, moneyMem, rfl⟩
    exact ⟨money, moneyMem, rfl, rfl⟩
  have idsNodup : (found.1.map (·.id)).Nodup := by
    have all : ((ledger.availableTransactionsForInvoice zone invoice start stop).map
        (·.id)).Nodup := by
      have distinct : ((ledger.offers zone invoice start stop).map (·.id)).Nodup :=
        nodup_offers sound
      simpa [Ledger.availableTransactionsForInvoice, Function.comp_def, Ledger.offers] using
        distinct
    exact (isInfix.sublist.map _).nodup all
  have parts : (found.1.map (·.id)).map (fun id => (id, ledger.transactionOpenOf id)) =
      found.1.map fun item => (item.id, item.openAmount) := by
    rw [List.map_map]
    apply List.map_congr_left
    intro item itemMem
    rcases offer item itemMem with ⟨money, offered, sameId, sameOpen⟩
    rw [Function.comp_apply, ← sameId, transactionOpenOf_eq sound (mem_offers.mp offered).1,
      sameOpen]
  have sum : ((found.1.map fun item => (item.id, item.openAmount)).map (·.2)).sum =
      ledger.invoiceOpen invoice := by
    rw [List.map_map]
    exact sumEq
  refine ⟨reached, accepted_of_valid sound fun actor => ?_⟩
  rw [exactTransactionCandidate, parts]
  apply validRequest_of_payments (found.1.map fun item => (item.id, item.openAmount)) sound listed
    normal
  · simpa using nonempty
  · simpa [Function.comp_def] using idsNodup
  · intro part partMem
    rcases List.mem_map.mp partMem with ⟨item, itemMem, rfl⟩
    rcases offer item itemMem with ⟨money, offered, sameId, sameOpen⟩
    rw [← sameId, ← sameOpen]
    exact canPay_of_offer offered (mem_offers.mp offered).2.2.2.2 le_rfl
  · exact sum.le
  · rfl
  · exact fun _ => sum
  · simp [directRequest]
  · simp [directRequest]

/-- The selected rows of the workbench serve the target from the transactions in order. -/
theorem selectedInputs_directRows (id : Uuid) (items : List (SettlementItem MoneyTransaction))
    (target : ℤ) : selectedInputs id (directAllocationRows items target) =
      paymentsOf id ((Transport.serve target (items.map fun item =>
        (item.record.id, item.openAmount))).filter fun part => decide (0 < part.2)) := by
  induction items generalizing target with
  | nil => rfl
  | cons item rest ih =>
      have tail := ih (target - min target item.openAmount)
      have shown : Decimal.ofPlain? (moneyInput (min target item.openAmount)).toList =
          some (Decimal.ofCents (min target item.openAmount)) := by
        rw [moneyInput, String.toList_ofList, Decimal.ofPlain?_plain]
      simp only [selectedInputs, paymentsOf] at tail
      simp only [directAllocationRows, selectedInputs, paymentsOf, Transport.serve, List.map_cons]
      by_cases positive : 0 < min target item.openAmount
      · simp only [directRow, positive, decide_true, List.filter_cons_of_pos, List.map_cons, shown,
          tail]
      · simp only [directRow, positive, decide_false, Bool.false_eq_true, not_false_eq_true,
          List.filter_cons_of_neg, tail]

theorem filterMap_transaction? (sound : ledger.Sound) {moneys : List MoneyTransaction}
    (listed : ∀ money ∈ moneys, money ∈ ledger.transactions) :
    (moneys.map (·.id)).filterMap ledger.transaction? = moneys := by
  induction moneys with
  | nil => rfl
  | cons money rest ih =>
      have found : ledger.transaction? money.id = some money :=
        sound.transaction?_eq_some_iff.mpr ⟨listed money (List.mem_cons_self ..), rfl⟩
      rw [List.map_cons, List.filterMap_cons_some found,
        ih fun other member => listed other (List.mem_cons_of_mem _ member)]

/-- A partial candidate of a normal invoice is accepted as far as it goes. -/
theorem partial_actionable (sound : ledger.Sound) (listed : invoice ∈ ledger.invoices)
    (normal : invoice.status = .normal) (positive : 0 < ledger.invoiceOpen invoice)
    (nonempty : ledger.offers zone invoice start stop ≠ []) :
    InvoiceActionable ledger invoice (partialCandidate invoice.id (ledger.invoiceOpen invoice)
      (ledger.availableTransactionsForInvoice zone invoice start stop)) := by
  have target : 0 ≤ ledger.invoiceOpen invoice := positive.le
  have items : ledger.candidateItems (partialCandidate invoice.id (ledger.invoiceOpen invoice)
      (ledger.availableTransactionsForInvoice zone invoice start stop)) =
        (ledger.offers zone invoice start stop).map fun money =>
          ⟨money, ledger.transactionOpen money, moneyText (ledger.transactionOpen money), false⟩ := by
    have ids : (partialCandidate invoice.id (ledger.invoiceOpen invoice)
        (ledger.availableTransactionsForInvoice zone invoice start stop)).transactionIds =
          (ledger.offers zone invoice start stop).map (·.id) := by
      simp [partialCandidate, Ledger.availableTransactionsForInvoice, Ledger.offers]
    rw [Ledger.candidateItems, ids, filterMap_transaction? sound]
    intro money offered
    exact (mem_offers.mp offered).1
  have available : ((ledger.availableTransactionsForInvoice zone invoice start stop).map
      (·.openAmount)).sum = Transport.sum ((ledger.offers zone invoice start stop).map
        fun money => (money.id, ledger.transactionOpen money)) := by
    simp [Transport.sum, Ledger.availableTransactionsForInvoice, Ledger.offers, Function.comp_def]
  have demands : (((ledger.offers zone invoice start stop).map fun money =>
      (⟨money, ledger.transactionOpen money, moneyText (ledger.transactionOpen money), false⟩ :
        SettlementItem MoneyTransaction)).map fun item => (item.record.id, item.openAmount)) =
      (ledger.offers zone invoice start stop).map fun money =>
        (money.id, ledger.transactionOpen money) := by
    simp [Function.comp_def]
  have demandsNonneg : Transport.Nonneg ((ledger.offers zone invoice start stop).map
      fun money => (money.id, ledger.transactionOpen money)) := by
    intro entry member
    rcases List.mem_map.mp member with ⟨money, offered, rfl⟩
    exact (mem_offers.mp offered).2.2.2.2.le
  have availablePos : 0 < Transport.sum ((ledger.offers zone invoice start stop).map
      fun money => (money.id, ledger.transactionOpen money)) := by
    apply List.sum_pos
    · intro amount member
      rcases List.mem_map.mp member with ⟨entry, entryMem, rfl⟩
      rcases List.mem_map.mp entryMem with ⟨money, offered, rfl⟩
      exact (mem_offers.mp offered).2.2.2.2
    · simpa using nonempty
  have served : Transport.Nonneg (Transport.serve (ledger.invoiceOpen invoice)
      ((ledger.offers zone invoice start stop).map fun money =>
        (money.id, ledger.transactionOpen money))) :=
    fun entry member => (Transport.of_mem_serve target demandsNonneg member).1
  have total := Transport.sum_serve target demandsNonneg
  rw [← Transport.sum_filter_positive served] at total
  have ids := Transport.keys_serve (ledger.invoiceOpen invoice)
    ((ledger.offers zone invoice start stop).map fun money =>
      (money.id, ledger.transactionOpen money))
  simp only [InvoiceActionable, items, selectedInputs_directRows, demands]
  simp only [partialCandidate, available]
  refine ⟨by omega, by omega, le_max_right _ _, accepted_of_valid sound fun actor => ?_, ?_⟩
  · apply validRequest_of_payments ((Transport.serve (ledger.invoiceOpen invoice)
        ((ledger.offers zone invoice start stop).map fun money =>
          (money.id, ledger.transactionOpen money))).filter fun part => decide (0 < part.2))
      sound listed normal
    · rintro empty
      rw [empty] at total
      simp only [Transport.sum, List.map_nil, List.sum_nil] at total availablePos
      omega
    · have distinct : ((Transport.serve (ledger.invoiceOpen invoice)
          ((ledger.offers zone invoice start stop).map fun money =>
            (money.id, ledger.transactionOpen money))).map (·.1)).Nodup := by
        rw [ids, List.map_map]
        exact nodup_offers sound
      exact (List.filter_sublist.map _).nodup distinct
    · intro part partMem
      rcases List.mem_filter.mp partMem with ⟨servedMem, partPos⟩
      rcases (Transport.of_mem_serve target demandsNonneg servedMem).2 with
        ⟨left, entryMem, within⟩
      rcases List.mem_map.mp entryMem with ⟨money, offered, same⟩
      simp only [Prod.mk.injEq] at same
      rcases same with ⟨sameId, rfl⟩
      have can := canPay_of_offer offered (of_decide_eq_true partPos) within
      rwa [sameId] at can
    · exact total.le.trans (min_le_left _ _)
    · rfl
    · simp [directRequest]
    · simp [directRequest]
    · simp [directRequest]
  · rw [← total]
    simp only [paymentsOf, List.map_map, Function.comp_def, cents_ofCents]
    rfl

theorem transactionCandidates_eq (sound : ledger.Sound) (listed : invoice ∈ ledger.invoices)
    (positive : 0 < ledger.invoiceOpen invoice) (ordered : start ≤ stop) :
    transactionCandidates ledger zone invoice.id start stop =
      .ok (if (Windows.contiguous (·.openAmount) (ledger.invoiceOpen invoice)
            (ledger.availableTransactionsForInvoice zone invoice start stop)).map
            (exactTransactionCandidate invoice.id) ≠ [] then
          (Windows.contiguous (·.openAmount) (ledger.invoiceOpen invoice)
            (ledger.availableTransactionsForInvoice zone invoice start stop)).map
            (exactTransactionCandidate invoice.id)
        else if ledger.availableTransactionsForInvoice zone invoice start stop = [] then []
        else [partialCandidate invoice.id (ledger.invoiceOpen invoice)
          (ledger.availableTransactionsForInvoice zone invoice start stop)]) := by
  have found : ledger.invoice? invoice.id = some invoice :=
    sound.invoice?_eq_some_iff.mpr ⟨listed, rfl⟩
  have target : invoiceOpenAmount ledger invoice.id = .ok (ledger.invoiceOpen invoice) :=
    invoiceOpenAmount_eq_ok.mpr ⟨invoice, found, rfl⟩
  simp only [transactionCandidates, validateDateWindow, require, ordered, ↓reduceIte, present,
    found, target, not_le.mpr positive, bind, Except.bind, pure, Except.pure]
  split_ifs <;> rfl

variable (zone) in
/-- All candidates of an invoice are actionable just when it is normal or nothing is offered. -/
theorem transactionCandidates_actionable (sound : ledger.Sound)
    (listed : invoice ∈ ledger.invoices) (positive : 0 < ledger.invoiceOpen invoice)
    (ordered : start ≤ stop) {actor : Actor} (finance : actor.IsFinance) :
    ∃ candidates, transactionCandidates ledger zone invoice.id start stop = .ok candidates ∧
      ((∀ candidate ∈ candidates, InvoiceActionable ledger invoice candidate) ↔
        invoice.status = .normal ∨ ledger.offers zone invoice start stop = []) := by
  refine ⟨_, transactionCandidates_eq sound listed positive ordered, ?_⟩
  have itemsEmpty : ledger.availableTransactionsForInvoice zone invoice start stop = [] ↔
      ledger.offers zone invoice start stop = [] := by
    simp [Ledger.availableTransactionsForInvoice, Ledger.offers]
  constructor
  · intro actionable
    by_contra neither
    rw [not_or] at neither
    rcases neither with ⟨notNormal, offered⟩
    split_ifs at actionable with found none
    · rcases List.exists_mem_of_ne_nil _ found with ⟨candidate, candidateMem⟩
      have accepted := actionable candidate candidateMem
      rcases List.mem_map.mp candidateMem with ⟨window, windowMem, rfl⟩
      rcases Windows.of_mem_contiguous windowMem with ⟨-, -, nonempty, -⟩
      rcases List.exists_mem_of_ne_nil _ nonempty with ⟨item, itemMem⟩
      refine not_accepted ⟨invoice.id, item.id,
        .decimal (Decimal.ofCents (ledger.transactionOpenOf item.id))⟩ sound listed notNormal
        finance ?_ rfl accepted.2
      exact List.mem_map.mpr ⟨(item.id, ledger.transactionOpenOf item.id),
        List.mem_map_of_mem (List.mem_map_of_mem itemMem), rfl⟩
    · exact offered (itemsEmpty.mp none)
    · have accepted := actionable _ (List.mem_singleton_self _)
      rcases accepted with ⟨-, totalPos, -, accepted, sumEq⟩
      have nonempty : selectedInputs invoice.id (directAllocationRows
          (ledger.candidateItems (partialCandidate invoice.id (ledger.invoiceOpen invoice)
            (ledger.availableTransactionsForInvoice zone invoice start stop)))
          (ledger.invoiceOpen invoice)) ≠ [] := by
        intro empty
        rw [empty] at sumEq
        simp only [List.map_nil, List.sum_nil] at sumEq
        omega
      rcases List.exists_mem_of_ne_nil _ nonempty with ⟨item, itemMem⟩
      refine not_accepted _ sound listed notNormal finance itemMem ?_ accepted
      rcases List.mem_map.mp itemMem with ⟨row, -, rfl⟩
      rfl
  · intro either candidate candidateMem
    split_ifs at candidateMem with found none
    · rcases List.mem_map.mp candidateMem with ⟨window, windowMem, rfl⟩
      rcases either with normal | nothing
      · exact exact_actionable sound listed normal windowMem
      · rw [itemsEmpty.mpr nothing] at windowMem
        simp [Windows.contiguous] at windowMem
    · simp at candidateMem
    · rw [List.mem_singleton] at candidateMem
      subst candidateMem
      rcases either with normal | nothing
      · exact partial_actionable sound listed normal positive fun empty => none (itemsEmpty.mpr empty)
      · exact absurd (itemsEmpty.mpr nothing) none

end Invoice

/-! ## The search for a transaction -/

section Transaction

variable {ledger : Ledger} {money : MoneyTransaction} {start stop : ℤ}

theorem mem_windowInvoices {counterparty : Uuid} {direction : MoneyDirection} {invoice : Invoice}
    (member : invoice ∈ ledger.windowInvoices counterparty direction start stop) :
    invoice ∈ ledger.invoices ∧ invoice.counterparty = counterparty ∧
      invoice.direction = (if direction = .outflow then .input else .output) ∧
      invoice.status = .normal := by
  simp only [Ledger.windowInvoices, orderInvoices, List.mem_insertionSort, List.mem_filter,
    decide_eq_true_eq] at member
  rcases member with ⟨listed, ofCounterparty, ofDirection, -, -, normal⟩
  exact ⟨listed, ofCounterparty, ofDirection, normal⟩

theorem nodup_windowInvoices (sound : ledger.Sound) (counterparty : Uuid)
    (direction : MoneyDirection) :
    ((ledger.windowInvoices counterparty direction start stop).map (·.id)).Nodup := by
  have ordered := (List.perm_insertionSort
    (ByKeys (fun invoice : Invoice => invoice.issueDate.toDay) fun invoice => invoice.id)
    (ledger.invoices.filter fun invoice =>
      decide (invoice.counterparty = counterparty ∧
        invoice.direction = (if direction = .outflow then .input else .output) ∧
        start ≤ invoice.issueDate.toDay ∧ invoice.issueDate.toDay ≤ stop ∧
        invoice.status = .normal))).map Invoice.id
  exact ordered.nodup_iff.mpr ((List.filter_sublist.map _).nodup sound.invoiceIds)

/-- Every candidate of a transaction is accepted whole. -/
theorem invoiceCandidates_actionable (sound : ledger.Sound) (listed : money ∈ ledger.transactions)
    (positive : 0 < ledger.transactionOpen money) (ordered : start ≤ stop) :
    ∃ candidates, invoiceCandidates ledger money.id start stop = .ok candidates ∧
      ∀ candidate ∈ candidates, TransactionActionable ledger money candidate := by
  have found : ledger.transaction? money.id = some money :=
    sound.transaction?_eq_some_iff.mpr ⟨listed, rfl⟩
  have target : transactionOpenAmount ledger money.id = .ok (ledger.transactionOpen money) :=
    transactionOpenAmount_eq_ok.mpr ⟨money, found, rfl⟩
  simp only [invoiceCandidates, validateDateWindow, require, ordered, ↓reduceIte, present, found,
    target, not_le.mpr positive, bind, Except.bind, pure, Except.pure]
  cases ofMoney : money.counterparty with
  | none => exact ⟨[], rfl, by simp⟩
  | some counterparty =>
      refine ⟨_, rfl, ?_⟩
      intro candidate candidateMem
      rcases List.mem_map.mp candidateMem with ⟨window, windowMem, rfl⟩
      rcases Windows.of_mem_contiguous windowMem with ⟨reached, sumEq, nonempty, isInfix⟩
      have each : ∀ item ∈ window.1, item.1 ∈ ledger.windowInvoices counterparty money.direction
          start stop ∧ item.2 = ledger.invoiceOpen item.1 ∧ 0 < item.2 := by
        intro item itemMem
        rcases List.mem_filter.mp (isInfix.subset itemMem) with ⟨mapped, itemPos⟩
        rcases List.mem_map.mp mapped with ⟨invoice, invoiceMem, rfl⟩
        exact ⟨invoiceMem, rfl, of_decide_eq_true itemPos⟩
      have idsNodup : (window.1.map (·.1.id)).Nodup := by
        have all : ((((ledger.windowInvoices counterparty money.direction start stop).map
            fun invoice => (invoice, ledger.invoiceOpen invoice)).filter
              fun item => decide (0 < item.2)).map (·.1.id)).Nodup := by
          apply (List.filter_sublist.map _).nodup
          rw [List.map_map]
          exact nodup_windowInvoices sound counterparty money.direction
        exact (isInfix.sublist.map _).nodup all
      have parts : (window.1.map (·.1.id)).map (fun id => (id, ledger.invoiceOpenOf id)) =
          window.1.map fun item => (item.1.id, item.2) := by
        rw [List.map_map]
        apply List.map_congr_left
        intro item itemMem
        rcases each item itemMem with ⟨invoiceMem, openEq, -⟩
        rw [Function.comp_apply, invoiceOpenOf_eq sound (mem_windowInvoices invoiceMem).1, openEq]
      have sum : ((window.1.map fun item => (item.1.id, item.2)).map (·.2)).sum =
          ledger.transactionOpen money := by
        rw [List.map_map]
        exact sumEq
      refine ⟨reached, accepted_of_valid sound fun actor => ?_⟩
      rw [exactInvoiceCandidate, parts]
      apply validRequest_of_receipts (window.1.map fun item => (item.1.id, item.2)) sound listed
      · cases money.direction <;> rfl
      · simpa using nonempty
      · simpa [Function.comp_def] using idsNodup
      · intro part partMem
        rcases List.mem_map.mp partMem with ⟨item, itemMem, rfl⟩
        rcases each item itemMem with ⟨invoiceMem, openEq, itemPos⟩
        rcases mem_windowInvoices invoiceMem with ⟨invoiceListed, ofCounterparty, direction, normal⟩
        refine ⟨itemPos, item.1, invoiceListed, rfl, ?_, normal, ?_, openEq⟩
        · rw [direction]
          cases money.direction <;> rfl
        · rw [ofMoney, ofCounterparty]
      · exact sum.le
      · rfl
      · exact ⟨rfl, rfl⟩

end Transaction

/--
The candidates of a transaction are actionable, and those of an invoice just when it is
normal or no transaction is offered for it.
-/
theorem candidates_actionable_iff (site : Installation) (directory : Directory)
    (operations : List Operation) (zone : Zone) {start stop : ℤ} (ordered : start ≤ stop)
    {actor : Actor} (finance : actor.IsFinance) :
    (∀ invoice ∈ (run site directory operations).invoices,
      0 < (run site directory operations).invoiceOpen invoice →
        ∃ candidates, transactionCandidates (run site directory operations) zone invoice.id start
            stop = .ok candidates ∧
          ((∀ candidate ∈ candidates,
              InvoiceActionable (run site directory operations) invoice candidate) ↔
            invoice.status = .normal ∨
              ∀ money ∈ (run site directory operations).transactions,
                ¬(money.counterparty = some invoice.counterparty ∧
                  money.direction = (directionsFor (directionOf invoice.direction)).2 ∧
                  (start ≤ zone.localDay money.occurredAt ∧
                    zone.localDay money.occurredAt ≤ stop) ∧
                  0 < (run site directory operations).transactionOpen money))) ∧
      ∀ money ∈ (run site directory operations).transactions,
        0 < (run site directory operations).transactionOpen money →
          ∃ candidates, invoiceCandidates (run site directory operations) money.id start stop =
              .ok candidates ∧
            ∀ candidate ∈ candidates,
              TransactionActionable (run site directory operations) money candidate := by
  have sound := run_sound site directory operations
  constructor
  · intro invoice listed positive
    rcases transactionCandidates_actionable zone sound listed positive ordered finance with
      ⟨candidates, succeeded, actionable⟩
    refine ⟨candidates, succeeded, actionable.trans (or_congr Iff.rfl ?_)⟩
    rw [List.eq_nil_iff_forall_not_mem]
    constructor
    · intro nothing money moneyListed offered
      exact nothing money (mem_offers.mpr ⟨moneyListed, offered⟩)
    · intro nothing money offered
      exact nothing money (mem_offers.mp offered).1 (mem_offers.mp offered).2
  · intro money listed positive
    exact invoiceCandidates_actionable sound listed positive ordered

/-- The search proposes the payment for a red invoice, and the proposal is refused. -/
theorem candidate_of_red_invoice_refused :
    let ledger := run (Sample.pairSite "红冲") Sample.directory Sample.pairImports
    (∃ invoice ∈ ledger.invoices, invoice.id = 1102 ∧ 0 < ledger.invoiceOpen invoice) ∧
      (transactionCandidates ledger (Sample.pairSite "红冲").env.zone 1102 739657 739657).toOption =
        some [⟨.contiguousExact, [1204], [1102], 10000, 0, 63906379200000000,
          63906379200000000⟩] ∧
      error? (createReconciliation (directRequest Sample.finance .purchasePayment
        (paymentsOf 1102 [(1204, ledger.transactionOpenOf 1204)]) false) 91 0 ledger) =
          some (.validation "作废或红冲发票不能核销") := by
  decide +kernel

/-- The payment proposed for a normal invoice is accepted. -/
theorem candidate_of_normal_invoice_accepted :
    let ledger := run (Sample.pairSite "正常") Sample.directory Sample.pairImports
    ∃ invoice ∈ ledger.invoices, ∃ candidates,
      transactionCandidates ledger (Sample.pairSite "正常").env.zone invoice.id 739657 739657 =
        .ok candidates ∧
      ∀ candidate ∈ candidates, InvoiceActionable ledger invoice candidate := by
  intro ledger
  have facts : ∃ invoice ∈ ledger.invoices,
      invoice.status = .normal ∧ 0 < ledger.invoiceOpen invoice := by
    decide +kernel
  rcases facts with ⟨invoice, listed, normal, positive⟩
  have ordered : (739657 : ℤ) ≤ 739657 := le_rfl
  have finance : Sample.finance.IsFinance := by decide
  rcases (candidates_actionable_iff (Sample.pairSite "正常") Sample.directory Sample.pairImports
    (Sample.pairSite "正常").env.zone ordered finance).1 invoice listed positive with
    ⟨candidates, succeeded, actionable⟩
  exact ⟨invoice, listed, candidates, succeeded, actionable.mpr (.inl normal)⟩

end Finrec
