import Finrec.Ledger.Invariant

/-!
# Which requests are accepted

`createReconciliation` checks a request line by line and with sums that it
accumulates on the way.  `ValidRequest` says what these checks amount to: every
line is a payment between two records that fit, and the totals on each record
respect its open amount.  A request is accepted exactly when it is valid.

The validity only depends on which pairs a request names and on its totals for
each record.  Permuting the lines, splitting a line or merging lines of one
pair therefore changes neither the decision nor the open amounts afterwards.
-/

namespace Finrec

open Checks Totals

namespace Amount

/-- The hundredths of an amount. -/
def cents : Amount → ℤ
  | .decimal number => number.roundedCents
  | _ => 0

/-- A positive `Decimal` with at most two decimals. -/
def IsPayment (amount : Amount) : Prop :=
  ∃ cents, 0 < cents ∧ amount.Equals cents

theorem cents_eq {amount : Amount} {cents : ℤ} (equals : amount.Equals cents) :
    amount.cents = cents := by
  cases amount with
  | decimal number => exact Decimal.roundedCents_eq equals
  | infinite negative => exact equals.elim
  | nan => exact equals.elim
  | other => exact equals.elim

theorem IsPayment.equals {amount : Amount} (payment : amount.IsPayment) :
    amount.Equals amount.cents := by
  rcases payment with ⟨cents, -, equals⟩
  rwa [cents_eq equals]

theorem IsPayment.cents_pos {amount : Amount} (payment : amount.IsPayment) : 0 < amount.cents := by
  rcases payment with ⟨cents, positive, equals⟩
  rwa [cents_eq equals]

theorem isPayment_iff {amount : Amount} {cents : ℤ} :
    (∃ number, amount = .decimal number ∧ 0 < number.coefficient ∧ number.IsCents cents) ↔
      0 < cents ∧ amount.Equals cents := by
  constructor
  · rintro ⟨number, rfl, positive, isCents⟩
    exact ⟨cents_pos positive isCents, isCents⟩
  · rintro ⟨positive, equals⟩
    cases amount with
    | decimal number =>
        refine ⟨number, rfl, ?_, equals⟩
        have isCents : number.coefficient * 100 = cents * 10 ^ number.places := equals
        have scaled : 0 < cents * 10 ^ number.places := by positivity
        omega
    | infinite negative => exact equals.elim
    | nan => exact equals.elim
    | other => exact equals.elim

end Amount

/-- What the lines of a request ask for on one record. -/
def requested (key : AllocationInput → Uuid) (items : List AllocationInput) (id : Uuid) : ℤ :=
  total (fun item => decide (key item = id)) (·.amount.cents) items

/-- An invoice and a transaction that may be reconciled with each other. -/
def Ledger.PairFits (ledger : Ledger) (direction : ReconciliationDirection)
    (invoiceId transactionId : Uuid) : Prop :=
  ∃ invoice ∈ ledger.invoices, invoice.id = invoiceId ∧
    ∃ money ∈ ledger.transactions, money.id = transactionId ∧
      (invoice.direction = (directionsFor direction).1 ∧
        money.direction = (directionsFor direction).2) ∧
      money.counterparty = some invoice.counterparty ∧
      invoice.status ≠ .void ∧ invoice.status ≠ .red

/-- A map of expected open amounts has the open amounts of exactly the touched records. -/
def ExpectsOpen {Record : Type} (expected : List (Uuid × ExpectedAmount)) (touched : List Uuid)
    (records : List Record) (key : Record → Uuid) (openAmount : Record → ℤ) : Prop :=
  (∀ id, (expected.lookup id).isSome = true ↔ id ∈ touched) ∧
    ∀ record ∈ records, key record ∈ touched →
      ∃ amount ∈ expected.lookup (key record), amount.Equals (openAmount record)

/-- The requests that `create_reconciliation` is to accept. -/
structure ValidRequest (ledger : Ledger) (direction : ReconciliationDirection)
    (request : ReconciliationRequest) : Prop where
  nonempty : request.allocations ≠ []
  payments : ∀ item ∈ request.allocations, item.amount.IsPayment
  pairsFit : ∀ item ∈ request.allocations,
    ledger.PairFits direction item.invoiceId item.transactionId
  invoicesOpen : ∀ invoice ∈ ledger.invoices,
    invoice.id ∈ request.allocations.map (·.invoiceId) →
      requested (·.invoiceId) request.allocations invoice.id ≤ ledger.invoiceOpen invoice
  transactionsOpen : ∀ money ∈ ledger.transactions,
    money.id ∈ request.allocations.map (·.transactionId) →
      requested (·.transactionId) request.allocations money.id ≤ ledger.transactionOpen money
  whole : request.allowPartial = false → ∀ invoice ∈ ledger.invoices,
    invoice.id ∈ request.allocations.map (·.invoiceId) →
      requested (·.invoiceId) request.allocations invoice.id = ledger.invoiceOpen invoice
  expectedInvoices : ∀ expected ∈ request.expectedInvoiceOpenAmounts,
    ExpectsOpen expected (request.allocations.map (·.invoiceId)) ledger.invoices (·.id)
      ledger.invoiceOpen
  expectedTransactions : ∀ expected ∈ request.expectedTransactionOpenAmounts,
    ExpectsOpen expected (request.allocations.map (·.transactionId)) ledger.transactions (·.id)
      ledger.transactionOpen

section Lines

variable {ledger : Ledger} {direction : ReconciliationDirection} {items : List AllocationInput}
  {lines : List AllocationLine} {invoices : List Invoice} {transactions : List MoneyTransaction}

theorem LineChecked.equals {item : AllocationInput} {line : AllocationLine}
    (checked : LineChecked direction invoices transactions item line) :
    item.amount.Equals line.amount := by
  rcases checked.amount with ⟨number, amountEq, -, isCents, -⟩
  rw [amountEq]
  exact isCents

theorem requested_eq_of_lines
    (each : List.Forall₂ (LineChecked direction invoices transactions) items lines) (id : Uuid) :
    requestedInvoiceAmount lines id = requested (·.invoiceId) items id ∧
      requestedTransactionAmount lines id = requested (·.transactionId) items id := by
  induction each with
  | nil => exact ⟨rfl, rfl⟩
  | cons head tail ih =>
      simp only [requestedInvoiceAmount, requestedTransactionAmount, requested, total_cons,
        head.invoice_mem.2, head.transaction_mem.2, Amount.cents_eq head.equals] at ih ⊢
      rw [ih.1, ih.2]
      exact ⟨rfl, rfl⟩

/-- The line that an item leads to. -/
theorem exists_line
    (each : List.Forall₂ (LineChecked direction invoices transactions) items lines)
    {item : AllocationInput} (member : item ∈ items) :
    ∃ line ∈ lines, LineChecked direction invoices transactions item line := by
  induction each with
  | nil => simp at member
  | cons head tail ih =>
      rcases List.mem_cons.mp member with rfl | later
      · exact ⟨_, List.mem_cons_self .., head⟩
      · rcases ih later with ⟨line, lineMem, checked⟩
        exact ⟨line, List.mem_cons_of_mem _ lineMem, checked⟩

theorem mem_touchedInvoices_iff (sound : ledger.Sound)
    (each : List.Forall₂ (LineChecked direction (ledger.requestInvoices items)
      (ledger.requestTransactions items)) items lines) (invoice : Invoice) :
    invoice ∈ touchedInvoices lines ↔
      invoice ∈ ledger.invoices ∧ invoice.id ∈ items.map (·.invoiceId) := by
  constructor
  · intro touched
    simp only [touchedInvoices, List.mem_eraseDups, List.mem_map] at touched
    rcases touched with ⟨line, lineMem, rfl⟩
    rcases exists_item each lineMem with ⟨item, itemMem, checked⟩
    rw [checked.invoice_mem.2]
    exact ⟨checked.fits.invoiceMem, List.mem_map_of_mem itemMem⟩
  · rintro ⟨listed, named⟩
    rcases List.mem_map.mp named with ⟨item, itemMem, itemId⟩
    rcases exists_line each itemMem with ⟨line, lineMem, checked⟩
    have sameInvoice : line.invoice = invoice :=
      List.inj_on_of_nodup_map sound.invoiceIds checked.fits.invoiceMem listed
        (checked.invoice_mem.2.trans itemId)
    rw [← sameInvoice]
    exact mem_touchedInvoices lineMem

theorem mem_touchedTransactions_iff (sound : ledger.Sound)
    (each : List.Forall₂ (LineChecked direction (ledger.requestInvoices items)
      (ledger.requestTransactions items)) items lines) (money : MoneyTransaction) :
    money ∈ touchedTransactions lines ↔
      money ∈ ledger.transactions ∧ money.id ∈ items.map (·.transactionId) := by
  constructor
  · intro touched
    simp only [touchedTransactions, List.mem_eraseDups, List.mem_map] at touched
    rcases touched with ⟨line, lineMem, rfl⟩
    rcases exists_item each lineMem with ⟨item, itemMem, checked⟩
    rw [checked.transaction_mem.2]
    exact ⟨checked.fits.transactionMem, List.mem_map_of_mem itemMem⟩
  · rintro ⟨listed, named⟩
    rcases List.mem_map.mp named with ⟨item, itemMem, itemId⟩
    rcases exists_line each itemMem with ⟨line, lineMem, checked⟩
    have sameMoney : line.transaction = money :=
      List.inj_on_of_nodup_map sound.transactionIds checked.fits.transactionMem listed
        (checked.transaction_mem.2.trans itemId)
    rw [← sameMoney]
    exact mem_touchedTransactions lineMem

theorem LineChecked.pairFits {item : AllocationInput} {line : AllocationLine}
    {allocations : List AllocationInput}
    (checked : LineChecked direction (ledger.requestInvoices allocations)
      (ledger.requestTransactions allocations) item line) :
    ledger.PairFits direction item.invoiceId item.transactionId :=
  ⟨line.invoice, checked.fits.invoiceMem, checked.invoice_mem.2, line.transaction,
    checked.fits.transactionMem, checked.transaction_mem.2, checked.directions,
    checked.counterparty, checked.notVoid⟩

/-- A payment between two records that fit, of less than `10 ^ 28` hundredths, is a line. -/
theorem exists_lineChecked (sound : ledger.Sound) {item : AllocationInput} (member : item ∈ items)
    (payment : item.amount.IsPayment) (small : item.amount.cents < 10 ^ 28)
    (fits : ledger.PairFits direction item.invoiceId item.transactionId) :
    ∃ line, LineChecked direction (ledger.requestInvoices items)
      (ledger.requestTransactions items) item line := by
  rcases fits with ⟨invoice, invoiceMem, invoiceId, money, moneyMem, moneyId, directions,
    counterparty, notVoid⟩
  refine ⟨⟨invoice, money, item.amount.cents⟩, ?_, ?_, ?_, notVoid, directions, counterparty⟩
  · rcases Amount.isPayment_iff.mpr ⟨payment.cents_pos, payment.equals⟩ with
      ⟨number, amountEq, positive, isCents⟩
    exact ⟨number, amountEq, positive, isCents, small⟩
  · have distinct : ((ledger.requestInvoices items).map Invoice.id).Nodup :=
      (List.filter_sublist.map Invoice.id).nodup sound.invoiceIds
    rw [find?_eq_some_iff distinct]
    refine ⟨List.mem_filter.mpr ⟨invoiceMem, decide_eq_true ?_⟩, invoiceId⟩
    exact List.mem_map.mpr ⟨item, member, invoiceId.symm⟩
  · have distinct : ((ledger.requestTransactions items).map MoneyTransaction.id).Nodup :=
      (List.filter_sublist.map MoneyTransaction.id).nodup sound.transactionIds
    rw [find?_eq_some_iff distinct]
    refine ⟨List.mem_filter.mpr ⟨moneyMem, decide_eq_true ?_⟩, moneyId⟩
    exact List.mem_map.mpr ⟨item, member, moneyId.symm⟩

/-- No line asks for more than all lines of its invoice together. -/
theorem cents_le_requested (payments : ∀ item ∈ items, item.amount.IsPayment)
    {item : AllocationInput} (member : item ∈ items) :
    item.amount.cents ≤ requested (·.invoiceId) items item.invoiceId := by
  apply le_total_of_mem (fun other otherMem => (payments other otherMem).cents_pos.le) member
  exact decide_eq_true rfl

theorem expectedMatches_iff {Record : Type} {expected : List (Uuid × ExpectedAmount)}
    {touched : List Uuid} {records listed : List Record} {key : Record → Uuid}
    {openAmount : Record → ℤ}
    (mem_listed : ∀ record, record ∈ listed ↔ record ∈ records ∧ key record ∈ touched)
    (found : ∀ id ∈ touched, ∃ record ∈ records, key record = id) :
    ExpectedMatches expected (listed.map fun record => (key record, openAmount record)) ↔
      ExpectsOpen expected touched records key openAmount := by
  have named : ∀ id, (expected.lookup id).isSome = true ↔ ∃ entry ∈ expected, entry.1 = id := by
    intro id
    simp only [List.lookup_isSome_iff, beq_iff_eq]
    constructor
    · rintro ⟨entry, entryMem, same⟩
      exact ⟨entry, entryMem, same.symm⟩
    · rintro ⟨entry, entryMem, same⟩
      exact ⟨entry, entryMem, same.symm⟩
  constructor
  · rintro ⟨keysWithin, values⟩
    refine ⟨?_, ?_⟩
    · intro id
      constructor
      · intro present
        rcases (named id).mp present with ⟨entry, entryMem, rfl⟩
        rcases List.mem_map.mp (keysWithin entry entryMem) with ⟨current, currentMem, same⟩
        rcases List.mem_map.mp currentMem with ⟨record, recordMem, rfl⟩
        rw [← same]
        exact ((mem_listed record).mp recordMem).2
      · intro isTouched
        rcases found id isTouched with ⟨record, recordMem, rfl⟩
        rcases values _ (List.mem_map_of_mem ((mem_listed record).mpr ⟨recordMem, isTouched⟩)) with
          ⟨amount, lookedUp, -⟩
        exact Option.isSome_iff_exists.mpr ⟨amount, lookedUp⟩
    · intro record recordMem isTouched
      exact values _ (List.mem_map_of_mem ((mem_listed record).mpr ⟨recordMem, isTouched⟩))
  · rintro ⟨keys, values⟩
    refine ⟨?_, ?_⟩
    · intro entry entryMem
      have isTouched := (keys entry.1).mp ((named entry.1).mpr ⟨entry, entryMem, rfl⟩)
      rcases found entry.1 isTouched with ⟨record, recordMem, sameKey⟩
      rw [← sameKey] at isTouched ⊢
      exact List.mem_map.mpr ⟨(key record, openAmount record),
        List.mem_map_of_mem ((mem_listed record).mpr ⟨recordMem, isTouched⟩), rfl⟩
    · intro entry entryMem
      rcases List.mem_map.mp entryMem with ⟨record, recordMem, rfl⟩
      rcases (mem_listed record).mp recordMem with ⟨listedMem, isTouched⟩
      exact values record listedMem isTouched

end Lines

section Valid

variable {ledger after : Ledger} {request : ReconciliationRequest}
  {direction : ReconciliationDirection} {mode : ReconciliationMode} {uuid : Uuid} {now : ℤ}

/-- The checks of `_validate_allocations` amount to the validity of the request. -/
theorem allocationsChecked_iff (sound : ledger.Sound) {lines : List AllocationLine}
    (nonempty : request.allocations ≠ [])
    (each : List.Forall₂ (LineChecked direction (ledger.requestInvoices request.allocations)
      (ledger.requestTransactions request.allocations)) request.allocations lines) :
    AllocationsChecked request direction (ledger.requestInvoices request.allocations)
        (ledger.requestTransactions request.allocations) (ledger.activeAmount (·.invoice))
        (ledger.activeAmount (·.transaction)) lines ↔
      ValidRequest ledger direction request := by
  have touchedInvoice := mem_touchedInvoices_iff sound each
  have touchedMoney := mem_touchedTransactions_iff sound each
  have sums := requested_eq_of_lines each
  have invoiceFound : ∀ id ∈ request.allocations.map (·.invoiceId),
      ∃ invoice ∈ ledger.invoices, invoice.id = id := by
    intro id named
    rcases List.mem_map.mp named with ⟨item, itemMem, rfl⟩
    rcases exists_line each itemMem with ⟨line, -, checked⟩
    exact ⟨line.invoice, checked.fits.invoiceMem, checked.invoice_mem.2⟩
  have moneyFound : ∀ id ∈ request.allocations.map (·.transactionId),
      ∃ money ∈ ledger.transactions, money.id = id := by
    intro id named
    rcases List.mem_map.mp named with ⟨item, itemMem, rfl⟩
    rcases exists_line each itemMem with ⟨line, -, checked⟩
    exact ⟨line.transaction, checked.fits.transactionMem, checked.transaction_mem.2⟩
  constructor
  · intro checked
    constructor
    case nonempty => exact nonempty
    case payments =>
      intro item itemMem
      rcases exists_line each itemMem with ⟨line, -, lineChecked⟩
      exact ⟨line.amount, lineChecked.amount_pos, lineChecked.equals⟩
    case pairsFit =>
      intro item itemMem
      rcases exists_line each itemMem with ⟨line, -, lineChecked⟩
      exact lineChecked.pairFits
    case invoicesOpen =>
      intro invoice listed named
      rw [← (sums invoice.id).1]
      exact checked.invoicesOpen invoice ((touchedInvoice invoice).mpr ⟨listed, named⟩)
    case transactionsOpen =>
      intro money listed named
      rw [← (sums money.id).2]
      exact checked.transactionsOpen money ((touchedMoney money).mpr ⟨listed, named⟩)
    case whole =>
      intro exactly invoice listed named
      have touched := (touchedInvoice invoice).mpr ⟨listed, named⟩
      have within := checked.invoicesOpen invoice touched
      rcases checked.wholeUnlessPartial invoice touched with allowed | nothingLeft
      · simp [exactly] at allowed
      · rw [← (sums invoice.id).1]
        apply le_antisymm within
        omega
    case expectedInvoices =>
      intro expected given
      exact (expectedMatches_iff touchedInvoice invoiceFound).mp
        (checked.expectedInvoices expected given)
    case expectedTransactions =>
      intro expected given
      exact (expectedMatches_iff touchedMoney moneyFound).mp
        (checked.expectedTransactions expected given)
  · intro valid
    constructor
    case each => exact each
    case expectedInvoices =>
      intro expected given
      exact (expectedMatches_iff touchedInvoice invoiceFound).mpr
        (valid.expectedInvoices expected given)
    case expectedTransactions =>
      intro expected given
      exact (expectedMatches_iff touchedMoney moneyFound).mpr
        (valid.expectedTransactions expected given)
    case wholeUnlessPartial =>
      intro invoice touched
      rcases (touchedInvoice invoice).mp touched with ⟨listed, named⟩
      cases allowed : request.allowPartial with
      | true => exact .inl rfl
      | false =>
          right
          have whole := valid.whole allowed invoice listed named
          rw [← (sums invoice.id).1, Ledger.invoiceOpen] at whole
          omega
    case transactionsOpen =>
      intro money touched
      rcases (touchedMoney money).mp touched with ⟨listed, named⟩
      rw [(sums money.id).2]
      exact valid.transactionsOpen money listed named
    case invoicesOpen =>
      intro invoice touched
      rcases (touchedInvoice invoice).mp touched with ⟨listed, named⟩
      rw [(sums invoice.id).1]
      exact valid.invoicesOpen invoice listed named

theorem ValidRequest.cents_lt (sound : ledger.Sound) (valid : ValidRequest ledger direction request)
    {item : AllocationInput} (member : item ∈ request.allocations) :
    item.amount.cents < 10 ^ 28 := by
  rcases valid.pairsFit item member with ⟨invoice, listed, invoiceId, -⟩
  have part := cents_le_requested valid.payments member
  have within := valid.invoicesOpen invoice listed
    (by rw [invoiceId]; exact List.mem_map_of_mem member)
  rw [invoiceId, Ledger.invoiceOpen] at within
  have active := sound.activeAmount_nonneg (·.invoice) invoice.id
  have inRange := (sound.invoicesInRange invoice listed).2
  have small : (10 : ℤ) ^ 18 < 10 ^ 28 := by norm_num
  omega

theorem ValidRequest.exists_lines (sound : ledger.Sound)
    (valid : ValidRequest ledger direction request) :
    ∃ lines, List.Forall₂ (LineChecked direction (ledger.requestInvoices request.allocations)
      (ledger.requestTransactions request.allocations)) request.allocations lines := by
  have each : ∀ item ∈ request.allocations, ∃ line, validateLine direction
      (ledger.requestInvoices request.allocations)
      (ledger.requestTransactions request.allocations) item = .ok line := by
    intro item member
    simp only [validateLine_eq_ok]
    exact exists_lineChecked sound member (valid.payments item member)
      (valid.cents_lt sound member) (valid.pairsFit item member)
  rcases exists_collect_eq_ok.mpr each with ⟨lines, collected⟩
  refine ⟨lines, ?_⟩
  simpa only [collect_eq_ok, validateLine_eq_ok] using collected

/-- The arguments of a request beside its lines are in order. -/
structure ArgumentsLegal (ledger : Ledger) (request : ReconciliationRequest) (uuid : Uuid)
    (direction : ReconciliationDirection) (mode : ReconciliationMode) : Prop where
  finance : request.actor.IsFinance
  directionGiven : request.direction = some direction
  modeGiven : request.mode = some mode
  linked : request.settlementBatch.isSome = true ↔ mode = .batch
  insertable : ledger.CanInsertReconciliation uuid request.settlementBatch

/-- A request with legal arguments is accepted exactly when it is valid. -/
theorem createReconciliation_ok_iff (sound : ledger.Sound)
    (legal : ArgumentsLegal ledger request uuid direction mode) :
    (∃ after, createReconciliation request uuid now ledger = .ok after) ↔
      ValidRequest ledger direction request := by
  simp only [createReconciliation_eq_ok]
  constructor
  · rintro ⟨after, direction', mode', lines, checked, -⟩
    have sameDirection : direction' = direction :=
      Option.some.inj (checked.directionGiven.symm.trans legal.directionGiven)
    subst sameDirection
    exact (allocationsChecked_iff sound checked.nonempty checked.allocations.each).mp
      checked.allocations
  · intro valid
    rcases valid.exists_lines sound with ⟨lines, each⟩
    exact ⟨_, direction, mode, lines, ⟨legal.finance, valid.nonempty, legal.directionGiven,
      legal.modeGiven, legal.linked, (allocationsChecked_iff sound valid.nonempty each).mpr valid,
      legal.insertable⟩, rfl⟩

/-- What an accepted request leaves of an invoice. -/
theorem invoiceOpenAmount_created (sound : ledger.Sound)
    (created : createReconciliation request uuid now ledger = .ok after) (id : Uuid) :
    invoiceOpenAmount after id = (invoiceOpenAmount ledger id).map
      (· - requested (·.invoiceId) request.allocations id) := by
  rcases createReconciliation_eq_ok.mp created with ⟨direction, mode, lines, checked, rfl⟩
  have sameInvoice : (ledger.insertReconciliation
      (reconciliationRow request uuid now direction mode) lines).invoice? id =
        ledger.invoice? id := rfl
  simp only [invoiceOpenAmount, sameInvoice]
  cases found : ledger.invoice? id with
  | none => rfl
  | some invoice =>
      have sameId : invoice.id = id := by simpa using List.find?_some found
      have amount : (ledger.insertReconciliation
          (reconciliationRow request uuid now direction mode) lines).activeAmount (·.invoice) id =
          ledger.activeAmount (·.invoice) id + requestedInvoiceAmount lines id :=
        sound.invoiceAmount_insertReconciliation checked.insertable.1 id
      rw [(requested_eq_of_lines checked.allocations.each id).1] at amount
      change Except.ok _ = Except.ok _
      rw [Ledger.invoiceOpen, Ledger.invoiceOpen, sameId, amount]
      congr 1
      ring

/-- What an accepted request leaves of a transaction. -/
theorem transactionOpenAmount_created (sound : ledger.Sound)
    (created : createReconciliation request uuid now ledger = .ok after) (id : Uuid) :
    transactionOpenAmount after id = (transactionOpenAmount ledger id).map
      (· - requested (·.transactionId) request.allocations id) := by
  rcases createReconciliation_eq_ok.mp created with ⟨direction, mode, lines, checked, rfl⟩
  have sameMoney : (ledger.insertReconciliation
      (reconciliationRow request uuid now direction mode) lines).transaction? id =
        ledger.transaction? id := rfl
  simp only [transactionOpenAmount, sameMoney]
  cases found : ledger.transaction? id with
  | none => rfl
  | some money =>
      have sameId : money.id = id := by simpa using List.find?_some found
      have amount : (ledger.insertReconciliation
          (reconciliationRow request uuid now direction mode) lines).activeAmount
            (·.transaction) id =
          ledger.activeAmount (·.transaction) id + requestedTransactionAmount lines id :=
        sound.transactionAmount_insertReconciliation checked.insertable.1 id
      rw [(requested_eq_of_lines checked.allocations.each id).2] at amount
      change Except.ok _ = Except.ok _
      rw [Ledger.transactionOpen, Ledger.transactionOpen, sameId, amount]
      congr 1
      ring

end Valid

/-! ## Requests around one record -/

section Requested

variable {items : List AllocationInput} {key : AllocationInput → Uuid}

theorem requested_of_unnamed {id : Uuid} (unnamed : ∀ item ∈ items, key item ≠ id) :
    requested key items id = 0 :=
  total_eq_zero fun item member => decide_eq_false (unnamed item member)

/-- Lines that all name one record ask for their whole sum on it. -/
theorem requested_of_all {id : Uuid} (named : ∀ item ∈ items, key item = id) :
    requested key items id = (items.map (·.amount.cents)).sum := by
  rw [requested, total, List.filter_eq_self.mpr]
  intro item member
  exact decide_eq_true (named item member)

/-- Lines with distinct keys ask for one amount each. -/
theorem requested_of_distinct (distinct : (items.map key).Nodup) {item : AllocationInput}
    (member : item ∈ items) : requested key items (key item) = item.amount.cents := by
  induction items with
  | nil => simp at member
  | cons first rest ih =>
      rw [List.map_cons, List.nodup_cons] at distinct
      rcases List.mem_cons.mp member with rfl | later
      · have none : requested key rest (key item) = 0 :=
          requested_of_unnamed fun other otherMem same =>
            distinct.1 (same ▸ List.mem_map_of_mem otherMem)
        simp only [requested, total_cons, decide_true, ↓reduceIte] at none ⊢
        omega
      · have other : key first ≠ key item := by
          intro same
          exact distinct.1 (same ▸ List.mem_map_of_mem later)
        have tail := ih distinct.2 later
        simp only [requested, total_cons, other, decide_false, Bool.false_eq_true,
          ↓reduceIte] at tail ⊢
        omega

end Requested

/-- The direction in which an invoice is reconciled. -/
def directionOf : InvoiceDirection → ReconciliationDirection
  | .input => .purchasePayment
  | .output => .salesReceipt

theorem directionsFor_directionOf (direction : InvoiceDirection) :
    (directionsFor (directionOf direction)).1 = direction := by
  cases direction <;> rfl

/-- Lines that pay one invoice from several transactions. -/
def paymentsOf (invoice : Uuid) (parts : List (Uuid × ℤ)) : List AllocationInput :=
  parts.map fun part => ⟨invoice, part.1, .decimal (Decimal.ofCents part.2)⟩

/-- Lines that distribute one transaction over several invoices. -/
def receiptsOf (transaction : Uuid) (parts : List (Uuid × ℤ)) : List AllocationInput :=
  parts.map fun part => ⟨part.1, transaction, .decimal (Decimal.ofCents part.2)⟩

theorem cents_ofCents (cents : ℤ) : (Amount.decimal (Decimal.ofCents cents)).cents = cents :=
  Decimal.roundedCents_eq (Decimal.isCents_ofCents cents)

section Around

variable {ledger : Ledger} {request : ReconciliationRequest} {invoice : Invoice}
  {money : MoneyTransaction} {parts : List (Uuid × ℤ)}

/-- A transaction can pay an amount of an invoice. -/
def Ledger.CanPay (ledger : Ledger) (invoice : Invoice) (part : Uuid × ℤ) : Prop :=
  0 < part.2 ∧ ∃ money ∈ ledger.transactions, money.id = part.1 ∧
    money.direction = (directionsFor (directionOf invoice.direction)).2 ∧
    money.counterparty = some invoice.counterparty ∧ part.2 ≤ ledger.transactionOpen money

variable (parts) in
/-- Payments of one invoice that respect all open amounts are a valid request. -/
theorem validRequest_of_payments (sound : ledger.Sound) (listed : invoice ∈ ledger.invoices)
    (normal : invoice.status = .normal) (nonempty : parts ≠ [])
    (distinct : (parts.map (·.1)).Nodup) (canPay : ∀ part ∈ parts, ledger.CanPay invoice part)
    (within : (parts.map (·.2)).sum ≤ ledger.invoiceOpen invoice)
    (lines : request.allocations = paymentsOf invoice.id parts)
    (whole : request.allowPartial = false →
      (parts.map (·.2)).sum = ledger.invoiceOpen invoice)
    (expectedInvoices : ∀ expected ∈ request.expectedInvoiceOpenAmounts,
      ExpectsOpen expected (request.allocations.map (·.invoiceId)) ledger.invoices (·.id)
        ledger.invoiceOpen)
    (expectedTransactions : ∀ expected ∈ request.expectedTransactionOpenAmounts,
      ExpectsOpen expected (request.allocations.map (·.transactionId)) ledger.transactions (·.id)
        ledger.transactionOpen) :
    ValidRequest ledger (directionOf invoice.direction) request := by
  have sum : requested (·.invoiceId) request.allocations invoice.id = (parts.map (·.2)).sum := by
    rw [lines, requested_of_all]
    · simp only [paymentsOf, List.map_map, Function.comp_def, cents_ofCents]
    · intro item member
      rcases List.mem_map.mp member with ⟨part, -, rfl⟩
      rfl
  have onlyInvoice : ∀ other ∈ ledger.invoices,
      other.id ∈ request.allocations.map (·.invoiceId) → other = invoice := by
    intro other otherListed named
    rw [lines] at named
    rcases List.mem_map.mp named with ⟨item, itemMem, sameId⟩
    rcases List.mem_map.mp itemMem with ⟨part, -, rfl⟩
    exact List.inj_on_of_nodup_map sound.invoiceIds otherListed listed sameId.symm
  constructor
  case nonempty => simpa [lines, paymentsOf] using nonempty
  case payments =>
    intro item member
    rw [lines] at member
    rcases List.mem_map.mp member with ⟨part, partMem, rfl⟩
    exact ⟨part.2, (canPay part partMem).1, Decimal.isCents_ofCents _⟩
  case pairsFit =>
    intro item member
    rw [lines] at member
    rcases List.mem_map.mp member with ⟨part, partMem, rfl⟩
    rcases (canPay part partMem).2 with ⟨money, moneyMem, moneyId, direction, counterparty, -⟩
    exact ⟨invoice, listed, rfl, money, moneyMem, moneyId,
      ⟨(directionsFor_directionOf _).symm, direction⟩, counterparty, by simp [normal]⟩
  case invoicesOpen =>
    intro other otherListed named
    rw [onlyInvoice other otherListed named, sum]
    exact within
  case transactionsOpen =>
    intro money moneyListed named
    rw [lines] at named ⊢
    rcases List.mem_map.mp named with ⟨item, itemMem, sameId⟩
    have distinctLines : ((paymentsOf invoice.id parts).map (·.transactionId)).Nodup := by
      simpa [paymentsOf, Function.comp_def] using distinct
    have amount := requested_of_distinct distinctLines itemMem
    rw [sameId] at amount
    rcases List.mem_map.mp itemMem with ⟨part, partMem, rfl⟩
    rcases (canPay part partMem).2 with ⟨payer, payerMem, payerId, -, -, room⟩
    rw [amount, cents_ofCents, List.inj_on_of_nodup_map sound.transactionIds moneyListed payerMem
      (sameId.symm.trans payerId.symm)]
    exact room
  case whole =>
    intro exactly other otherListed named
    rw [onlyInvoice other otherListed named, sum]
    exact whole exactly
  case expectedInvoices => exact expectedInvoices
  case expectedTransactions => exact expectedTransactions

variable (parts) in
/-- Open invoices that one transaction settles whole are a valid request. -/
theorem validRequest_of_receipts (sound : ledger.Sound) (listed : money ∈ ledger.transactions)
    {direction : ReconciliationDirection} (ofMoney : money.direction = (directionsFor direction).2)
    (nonempty : parts ≠ []) (distinct : (parts.map (·.1)).Nodup)
    (settled : ∀ part ∈ parts, 0 < part.2 ∧ ∃ invoice ∈ ledger.invoices, invoice.id = part.1 ∧
      invoice.direction = (directionsFor direction).1 ∧ invoice.status = .normal ∧
      money.counterparty = some invoice.counterparty ∧ part.2 = ledger.invoiceOpen invoice)
    (within : (parts.map (·.2)).sum ≤ ledger.transactionOpen money)
    (lines : request.allocations = receiptsOf money.id parts)
    (noneExpected : request.expectedInvoiceOpenAmounts = none ∧
      request.expectedTransactionOpenAmounts = none) :
    ValidRequest ledger direction request := by
  have sum : requested (·.transactionId) request.allocations money.id = (parts.map (·.2)).sum := by
    rw [lines, requested_of_all]
    · simp only [receiptsOf, List.map_map, Function.comp_def, cents_ofCents]
    · intro item member
      rcases List.mem_map.mp member with ⟨part, -, rfl⟩
      rfl
  have each : ∀ invoice ∈ ledger.invoices, invoice.id ∈ request.allocations.map (·.invoiceId) →
      requested (·.invoiceId) request.allocations invoice.id = ledger.invoiceOpen invoice := by
    intro invoice invoiceListed named
    rw [lines] at named ⊢
    rcases List.mem_map.mp named with ⟨item, itemMem, sameId⟩
    have distinctLines : ((receiptsOf money.id parts).map (·.invoiceId)).Nodup := by
      simpa [receiptsOf, Function.comp_def] using distinct
    have amount := requested_of_distinct distinctLines itemMem
    rw [sameId] at amount
    rcases List.mem_map.mp itemMem with ⟨part, partMem, rfl⟩
    rcases (settled part partMem).2 with ⟨other, otherMem, otherId, -, -, -, exactly⟩
    rw [amount, cents_ofCents, exactly, List.inj_on_of_nodup_map sound.invoiceIds invoiceListed
      otherMem (sameId.symm.trans otherId.symm)]
  constructor
  case nonempty => simpa [lines, receiptsOf] using nonempty
  case payments =>
    intro item member
    rw [lines] at member
    rcases List.mem_map.mp member with ⟨part, partMem, rfl⟩
    exact ⟨part.2, (settled part partMem).1, Decimal.isCents_ofCents _⟩
  case pairsFit =>
    intro item member
    rw [lines] at member
    rcases List.mem_map.mp member with ⟨part, partMem, rfl⟩
    rcases (settled part partMem).2 with
      ⟨invoice, invoiceMem, invoiceId, ofInvoice, normal, counterparty, -⟩
    exact ⟨invoice, invoiceMem, invoiceId, money, listed, rfl, ⟨ofInvoice, ofMoney⟩, counterparty,
      by simp [normal]⟩
  case invoicesOpen =>
    intro invoice invoiceListed named
    exact (each invoice invoiceListed named).le
  case transactionsOpen =>
    intro other otherListed named
    rw [lines] at named
    rcases List.mem_map.mp named with ⟨item, itemMem, sameId⟩
    rcases List.mem_map.mp itemMem with ⟨part, -, rfl⟩
    rw [List.inj_on_of_nodup_map sound.transactionIds otherListed listed sameId.symm, sum]
    exact within
  case whole => exact fun _ => each
  case expectedInvoices => simp [noneExpected.1]
  case expectedTransactions => simp [noneExpected.2]

end Around

/-! ## Regrouping the lines -/

/--
Two requests for the same payments: permuted, or with one line split into several lines
on the same pair.
-/
inductive Regroups : List AllocationInput → List AllocationInput → Prop where
  | permute {items others : List AllocationInput} (perm : items.Perm others) :
      Regroups items others
  | split (earlier later : List AllocationInput) (item : AllocationInput)
      {parts : List AllocationInput} (nonempty : parts ≠ [])
      (samePair : ∀ part ∈ parts,
        part.invoiceId = item.invoiceId ∧ part.transactionId = item.transactionId)
      (payments : ∀ part ∈ parts, part.amount.IsPayment)
      (sameTotal : item.amount.Equals (parts.map fun part => part.amount.cents).sum) :
      Regroups (earlier ++ item :: later) (earlier ++ parts ++ later)

/-- What the decision about a request depends on. -/
structure SameDemand (items others : List AllocationInput) : Prop where
  invoices : ∀ id, id ∈ items.map (·.invoiceId) ↔ id ∈ others.map (·.invoiceId)
  transactions : ∀ id, id ∈ items.map (·.transactionId) ↔ id ∈ others.map (·.transactionId)
  payments : (∀ item ∈ items, item.amount.IsPayment) ↔ ∀ item ∈ others, item.amount.IsPayment
  pairs : ∀ pair, pair ∈ items.map (fun item => (item.invoiceId, item.transactionId)) ↔
    pair ∈ others.map fun item => (item.invoiceId, item.transactionId)
  invoiceTotals : ∀ id, requested (·.invoiceId) items id = requested (·.invoiceId) others id
  transactionTotals : ∀ id,
    requested (·.transactionId) items id = requested (·.transactionId) others id

namespace SameDemand

variable {items others third : List AllocationInput}

theorem refl (items : List AllocationInput) : SameDemand items items :=
  ⟨fun _ => Iff.rfl, fun _ => Iff.rfl, Iff.rfl, fun _ => Iff.rfl, fun _ => rfl, fun _ => rfl⟩

theorem symm (same : SameDemand items others) : SameDemand others items :=
  ⟨fun id => (same.invoices id).symm, fun id => (same.transactions id).symm, same.payments.symm,
    fun pair => (same.pairs pair).symm, fun id => (same.invoiceTotals id).symm,
    fun id => (same.transactionTotals id).symm⟩

theorem trans (first : SameDemand items others) (second : SameDemand others third) :
    SameDemand items third :=
  ⟨fun id => (first.invoices id).trans (second.invoices id),
    fun id => (first.transactions id).trans (second.transactions id),
    first.payments.trans second.payments,
    fun pair => (first.pairs pair).trans (second.pairs pair),
    fun id => (first.invoiceTotals id).trans (second.invoiceTotals id),
    fun id => (first.transactionTotals id).trans (second.transactionTotals id)⟩

theorem of_perm (perm : items.Perm others) : SameDemand items others where
  invoices id := (perm.map _).mem_iff
  transactions id := (perm.map _).mem_iff
  payments := by
    constructor
    · intro payments item member
      exact payments item (perm.mem_iff.mpr member)
    · intro payments item member
      exact payments item (perm.mem_iff.mp member)
  pairs pair := (perm.map _).mem_iff
  invoiceTotals id := ((perm.filter _).map _).sum_eq
  transactionTotals id := ((perm.filter _).map _).sum_eq

/-- A list of lines that agree on a column names just that value in it. -/
theorem mem_map_parts {α : Type} {column : AllocationInput → α} {parts : List AllocationInput}
    {wanted : α} (nonempty : parts ≠ []) (agree : ∀ part ∈ parts, column part = wanted) (value : α) :
    value ∈ parts.map column ↔ value = wanted := by
  rcases List.exists_cons_of_ne_nil nonempty with ⟨part, rest, rfl⟩
  constructor
  · intro member
    rcases List.mem_map.mp member with ⟨other, otherMem, rfl⟩
    exact agree other otherMem
  · rintro rfl
    exact List.mem_map.mpr ⟨part, List.mem_cons_self .., agree part (List.mem_cons_self ..)⟩

/-- The parts of a line ask for the same on its record as the line. -/
theorem requested_parts {key : AllocationInput → Uuid} {item : AllocationInput}
    {parts : List AllocationInput} (agree : ∀ part ∈ parts, key part = key item)
    (sameTotal : item.amount.Equals (parts.map fun part => part.amount.cents).sum) (id : Uuid) :
    requested key parts id = requested key [item] id := by
  have cents := Amount.cents_eq sameTotal
  by_cases same : key item = id
  · have every : parts.filter (fun part => decide (key part = id)) = parts := by
      rw [List.filter_eq_self]
      intro part member
      exact decide_eq_true ((agree part member).trans same)
    simp only [requested, total, every, List.filter_cons, List.filter_nil, same, decide_true,
      ↓reduceIte, List.map_cons, List.map_nil, List.sum_cons, List.sum_nil]
    omega
  · have none : requested key parts id = 0 := by
      apply total_eq_zero
      intro part member
      exact decide_eq_false fun ofPart => same ((agree part member).symm.trans ofPart)
    rw [none]
    simp [requested, total, same]

theorem of_split {earlier later parts : List AllocationInput} {item : AllocationInput}
    (nonempty : parts ≠ []) (samePair : ∀ part ∈ parts,
      part.invoiceId = item.invoiceId ∧ part.transactionId = item.transactionId)
    (payments : ∀ part ∈ parts, part.amount.IsPayment)
    (sameTotal : item.amount.Equals (parts.map fun part => part.amount.cents).sum) :
    SameDemand (earlier ++ item :: later) (earlier ++ parts ++ later) := by
  have column {α : Type} (column : AllocationInput → α)
      (agree : ∀ part ∈ parts, column part = column item) (value : α) :
      value ∈ (earlier ++ item :: later).map column ↔
        value ∈ (earlier ++ parts ++ later).map column := by
    have ofParts := mem_map_parts nonempty agree value
    rw [List.map_append, List.map_append, List.map_append, List.map_cons, List.mem_append,
      List.mem_append, List.mem_append, List.mem_cons, ofParts, or_assoc]
  have totals (key : AllocationInput → Uuid) (agree : ∀ part ∈ parts, key part = key item)
      (id : Uuid) : requested key (earlier ++ item :: later) id =
        requested key (earlier ++ parts ++ later) id := by
    have ofParts := requested_parts agree sameTotal id
    have split : earlier ++ item :: later = earlier ++ [item] ++ later := by simp
    simp only [requested] at ofParts ⊢
    rw [split, total_append, total_append, total_append, total_append, ofParts]
  constructor
  case invoices => exact column (·.invoiceId) fun part member => (samePair part member).1
  case transactions => exact column (·.transactionId) fun part member => (samePair part member).2
  case pairs =>
    apply column fun item => (item.invoiceId, item.transactionId)
    intro part member
    exact Prod.ext (samePair part member).1 (samePair part member).2
  case invoiceTotals => exact totals (·.invoiceId) fun part member => (samePair part member).1
  case transactionTotals =>
    exact totals (·.transactionId) fun part member => (samePair part member).2
  case payments =>
    have positive : 0 < (parts.map fun part => part.amount.cents).sum := by
      apply List.sum_pos
      · intro cents member
        rcases List.mem_map.mp member with ⟨part, partMem, rfl⟩
        exact (payments part partMem).cents_pos
      · simpa using nonempty
    constructor
    · intro all part member
      rcases List.mem_append.mp member with inFront | inLater
      · rcases List.mem_append.mp inFront with inEarlier | inParts
        · exact all part (List.mem_append_left _ inEarlier)
        · exact payments part inParts
      · exact all part (List.mem_append_right _ (List.mem_cons_of_mem _ inLater))
    · intro all other member
      rcases List.mem_append.mp member with inEarlier | inRest
      · exact all other (List.mem_append_left _ (List.mem_append_left _ inEarlier))
      · rcases List.mem_cons.mp inRest with rfl | inLater
        · exact ⟨_, positive, sameTotal⟩
        · exact all other (List.mem_append_right _ inLater)

theorem of_regroups (regroups : Regroups items others) : SameDemand items others := by
  cases regroups with
  | permute perm => exact of_perm perm
  | split earlier later item nonempty samePair payments sameTotal =>
      exact of_split nonempty samePair payments sameTotal

/-- Any number of permutations, splits and merges keeps what is asked for. -/
theorem of_regrouped (regrouped : Relation.EqvGen Regroups items others) :
    SameDemand items others := by
  induction regrouped with
  | rel items others regroups => exact of_regroups regroups
  | refl items => exact refl items
  | symm items others _ ih => exact ih.symm
  | trans items others third _ _ first second => exact first.trans second

theorem nonempty (same : SameDemand items others) (nonempty : items ≠ []) : others ≠ [] := by
  rintro rfl
  rcases List.exists_cons_of_ne_nil nonempty with ⟨item, rest, rfl⟩
  have named := (same.invoices item.invoiceId).mp (by simp)
  simp at named

/-- A request for the same payments is valid as well. -/
theorem validRequest {ledger : Ledger} {direction : ReconciliationDirection}
    {request : ReconciliationRequest} (same : SameDemand request.allocations others)
    (valid : ValidRequest ledger direction request) :
    ValidRequest ledger direction { request with allocations := others } where
  nonempty := same.nonempty valid.nonempty
  payments := same.payments.mp valid.payments
  pairsFit := by
    intro other member
    have named := (same.pairs (other.invoiceId, other.transactionId)).mpr
      (List.mem_map.mpr ⟨other, member, rfl⟩)
    rcases List.mem_map.mp named with ⟨item, itemMem, samePair⟩
    have fits := valid.pairsFit item itemMem
    simp only [Prod.mk.injEq] at samePair
    rwa [samePair.1, samePair.2] at fits
  invoicesOpen := by
    intro invoice listed named
    rw [← same.invoiceTotals]
    exact valid.invoicesOpen invoice listed ((same.invoices _).mpr named)
  transactionsOpen := by
    intro money listed named
    rw [← same.transactionTotals]
    exact valid.transactionsOpen money listed ((same.transactions _).mpr named)
  whole := by
    intro exactly invoice listed named
    rw [← same.invoiceTotals]
    exact valid.whole exactly invoice listed ((same.invoices _).mpr named)
  expectedInvoices := by
    intro expected given
    rcases valid.expectedInvoices expected given with ⟨keys, values⟩
    exact ⟨fun id => (keys id).trans (same.invoices id),
      fun invoice listed named => values invoice listed ((same.invoices _).mpr named)⟩
  expectedTransactions := by
    intro expected given
    rcases valid.expectedTransactions expected given with ⟨keys, values⟩
    exact ⟨fun id => (keys id).trans (same.transactions id),
      fun money listed named => values money listed ((same.transactions _).mpr named)⟩

end SameDemand

/--
A request is accepted exactly when it is valid, and permuting, splitting and merging its
lines changes neither the decision nor the open amounts afterwards.
-/
theorem accepts_exactly_valid_requests {ledger : Ledger} (sound : ledger.Sound)
    {request : ReconciliationRequest} {uuid : Uuid} {direction : ReconciliationDirection}
    {mode : ReconciliationMode} (legal : ArgumentsLegal ledger request uuid direction mode)
    (now : ℤ) :
    ((∃ after, createReconciliation request uuid now ledger = .ok after) ↔
      ValidRequest ledger direction request) ∧
    ∀ others, Relation.EqvGen Regroups request.allocations others →
      ((∃ after, createReconciliation request uuid now ledger = .ok after) ↔
        ∃ after, createReconciliation { request with allocations := others } uuid now ledger =
          .ok after) ∧
      ∀ after after', createReconciliation request uuid now ledger = .ok after →
        createReconciliation { request with allocations := others } uuid now ledger = .ok after' →
          ∀ id, invoiceOpenAmount after id = invoiceOpenAmount after' id ∧
            transactionOpenAmount after id = transactionOpenAmount after' id := by
  refine ⟨createReconciliation_ok_iff sound legal, ?_⟩
  intro others regrouped
  have same := SameDemand.of_regrouped regrouped
  have otherLegal : ArgumentsLegal ledger { request with allocations := others } uuid direction
      mode :=
    ⟨legal.finance, legal.directionGiven, legal.modeGiven, legal.linked, legal.insertable⟩
  refine ⟨?_, ?_⟩
  · rw [createReconciliation_ok_iff sound legal, createReconciliation_ok_iff sound otherLegal]
    constructor
    · exact same.validRequest
    · intro valid
      have back : ValidRequest ledger direction
          { { request with allocations := others } with allocations := request.allocations } :=
        same.symm.validRequest valid
      exact back
  · intro after after' created created' id
    rw [invoiceOpenAmount_created sound created, invoiceOpenAmount_created sound created',
      transactionOpenAmount_created sound created, transactionOpenAmount_created sound created',
      same.invoiceTotals, same.transactionTotals]
    exact ⟨rfl, rfl⟩

namespace Sample

def tenth : Calendar.Date :=
  ⟨2026, 2, 10, by decide, by decide, by decide, by decide⟩

/-- An invoice of a given status and a payment, both of 100.00 and of the same day. -/
def pairSite (status : String) : Installation :=
  site [invoiceBook [invoiceCells "I1" tenth "100.00" status]]
    [statement [paymentCells tenth 43200000000 "100.00" "900.00"]]

def pairImports : List Operation :=
  [stageInvoices 0 11 0, confirm 11 0, stageStatement 0 12 0, confirm 12 0]

def openInvoice : Invoice :=
  ⟨1, .input, "I1", "MILL", "OWN", tenth, none, 10000, .normal, 7, 11, 2⟩

def openPayment : MoneyTransaction :=
  ⟨2, 5, .bank, .outflow, 0, 8000, none, "", "F1", some 7, "Mill", "", 12, 2⟩

/-- An invoice of 100.00 and a payment of 80.00, neither of them reconciled. -/
def openLedger : Ledger :=
  { Ledger.empty directory with invoices := [openInvoice], transactions := [openPayment] }

theorem openLedger_sound : openLedger.Sound := by
  constructor <;> simp [openLedger, Ledger.empty, openInvoice, openPayment, Ledger.activeAmount]

def paymentOf (cents : ℤ) : AllocationInput :=
  ⟨1, 2, .decimal (Decimal.ofCents cents)⟩

def openRequest (allocations : List AllocationInput) : ReconciliationRequest :=
  ⟨finance, some .purchasePayment, allocations, "", some .direct, none, none, none, true⟩

theorem openRequest_legal (allocations : List AllocationInput) :
    ArgumentsLegal openLedger (openRequest allocations) 20 .purchasePayment .direct := by
  have finance : Sample.finance.IsFinance := by decide
  refine ⟨finance, rfl, rfl, by simp [openRequest], ?_⟩
  simp [Ledger.CanInsertReconciliation, openLedger, Ledger.empty, openRequest]

end Sample

/-- A payment of 80.00 is accepted, and so are its halves. -/
theorem accepts_payment_and_halves :
    (∃ after, createReconciliation (Sample.openRequest [Sample.paymentOf 8000]) 20 0
        Sample.openLedger = .ok after) ∧
      ∃ after, createReconciliation
        (Sample.openRequest [Sample.paymentOf 4000, Sample.paymentOf 4000]) 20 0
        Sample.openLedger = .ok after := by
  have payment : (Sample.paymentOf 8000).amount.IsPayment := ⟨8000, by decide, by decide⟩
  have half : (Sample.paymentOf 4000).amount.IsPayment := ⟨4000, by decide, by decide⟩
  have pairFits : Sample.openLedger.PairFits .purchasePayment 1 2 :=
    ⟨Sample.openInvoice, by simp [Sample.openLedger], rfl, Sample.openPayment,
      by simp [Sample.openLedger], rfl, by decide⟩
  have valid : ValidRequest Sample.openLedger .purchasePayment
      (Sample.openRequest [Sample.paymentOf 8000]) := by
    constructor
    case nonempty => simp [Sample.openRequest]
    case payments => simpa [Sample.openRequest] using payment
    case pairsFit => simpa [Sample.openRequest, Sample.paymentOf] using pairFits
    case invoicesOpen => simp [Sample.openRequest, Sample.openLedger]; decide
    case transactionsOpen => simp [Sample.openRequest, Sample.openLedger]; decide
    case whole => simp [Sample.openRequest]
    case expectedInvoices => simp [Sample.openRequest]
    case expectedTransactions => simp [Sample.openRequest]
  have splits : Regroups ([] ++ [Sample.paymentOf 8000])
      ([] ++ [Sample.paymentOf 4000, Sample.paymentOf 4000] ++ []) := by
    apply Regroups.split [] [] (Sample.paymentOf 8000)
    · simp
    · simp [Sample.paymentOf]
    · simpa using half
    · decide
  have exactly := accepts_exactly_valid_requests Sample.openLedger_sound
    (Sample.openRequest_legal [Sample.paymentOf 8000]) 0
  have accepted := exactly.1.mpr valid
  exact ⟨accepted, (exactly.2 _ (.rel _ _ splits)).1.mp accepted⟩

end Finrec
