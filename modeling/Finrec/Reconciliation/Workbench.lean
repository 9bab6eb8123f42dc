import Finrec.Lib.Doubles
import Finrec.Reconciliation.Candidates
import Finrec.Reconciliation.Forms

/-!
# The workbench

The workbench shows one invoice and the transactions that can pay it.  The
server proposes an allocation in hundredths; in the browser the script
`reconciliation-workbench.js` computes it anew whenever the user checks a row,
on integers that it takes from the page, and enables the fields to post.

The script formats the difference after dividing by a hundred, in floating
point.  From 2^46 on neighbouring doubles are more than a hundredth apart, so
two amounts can have one quotient, and the text of one of them is a hundredth off.
-/

namespace Finrec

open Calendar Checks

/-! ## The page that the server renders -/

namespace Ledger

/-- The invoices that the workbench lists. -/
def openInvoices (ledger : Ledger) : List Invoice :=
  (orderInvoices (ledger.invoices.filter fun invoice => decide (invoice.status = .normal))).filter
    fun invoice => decide (0 < ledger.invoiceOpen invoice)

/-- The row of a transaction. -/
def moneyItem (ledger : Ledger) (money : MoneyTransaction) : SettlementItem MoneyTransaction :=
  ⟨money, ledger.transactionOpen money, moneyText (ledger.transactionOpen money), false⟩

end Ledger

/-- The result of `_workbench_context`. -/
structure WorkbenchContext where
  invoiceItems : List (SettlementItem Invoice)
  selectedInvoice : Option Invoice
  selectedOpen : String
  selectedOpenInput : String
  selectedOpenCents : ℤ
  transactions : List DirectRow
  moneyTotal : String
  allocatedTotal : String
  difference : String
  differenceCents : ℤ
  stale : Bool

/-- The context for a selected invoice and the transactions that are offered for it. -/
def contextFor (ledger : Ledger) (selected : Option Invoice)
    (transactions : List (SettlementItem MoneyTransaction)) (stale : Bool) : WorkbenchContext :=
  let selectedOpen := (selected.map ledger.invoiceOpen).getD 0
  let moneyTotal := (transactions.map (·.openAmount)).sum
  let allocated := min selectedOpen moneyTotal
  { invoiceItems := ledger.openInvoices.map fun invoice =>
      ⟨invoice, ledger.invoiceOpen invoice, moneyText (ledger.invoiceOpen invoice), false⟩
    selectedInvoice := selected
    selectedOpen := moneyText selectedOpen
    selectedOpenInput := moneyInput selectedOpen
    selectedOpenCents := selectedOpen
    transactions := directAllocationRows transactions selectedOpen
    moneyTotal := moneyText moneyTotal
    allocatedTotal := moneyText allocated
    difference := moneyText (max (selectedOpen - allocated) 0)
    differenceCents := max (selectedOpen - allocated) 0
    stale := stale }

/-- The transactions of `_workbench_context`: the available ones, each with its record. -/
def workbenchItems (ledger : Ledger) (zone : Zone) (invoice : Invoice) (start stop : ℤ) :
    List (SettlementItem MoneyTransaction) :=
  (ledger.availableTransactionsForInvoice zone invoice start stop).filterMap fun item =>
    (ledger.transaction? item.id).map fun money =>
      ⟨money, item.openAmount, moneyText item.openAmount, false⟩

/-- `_workbench_context` for a requested invoice and a period. -/
def workbenchContext (ledger : Ledger) (zone : Zone) (requested : Option Uuid) (start stop : ℤ)
    (stale : Bool) : WorkbenchContext :=
  match ledger.openInvoices.find? fun invoice => decide (some invoice.id = requested) with
  | none => contextFor ledger none [] stale
  | some invoice =>
      contextFor ledger (some invoice) (workbenchItems ledger zone invoice start stop) stale

/-! ## The page in the browser -/

structure HiddenInput where
  value : String
  disabled : Bool
deriving DecidableEq, Repr

/-- A row of the table, with the data of its checkbox and its three hidden inputs. -/
structure PageRow where
  transactionId : String
  availableCents : ℤ
  stale : Bool
  checked : Bool
  idInput : HiddenInput
  expectedOpenInput : HiddenInput
  amountInput : HiddenInput
deriving DecidableEq, Repr

/-- The form `data-reconciliation-form`. -/
structure Page where
  invoiceId : String
  expectedInvoiceOpen : String
  note : String
  invoiceCents : ℤ
  rows : List PageRow
  partialChecked : Bool
  partialHidden : Bool
  partialRequired : Bool
  selectedTotal : String
  allocatedTotal : String
  differenceTotal : String
  confirmDisabled : Bool
deriving DecidableEq, Repr

/-- A row as the template renders it. -/
def renderRow (stale : Bool) (row : DirectRow) : PageRow where
  transactionId := uuidText row.record.id
  availableCents := row.openCents
  stale := stale
  checked := row.selected
  idInput := ⟨uuidText row.record.id, !row.selected⟩
  expectedOpenInput := ⟨row.openInput, !row.selected⟩
  amountInput := ⟨row.allocationInput, !row.selected⟩

/-- The form as the template renders it for the selected invoice, with a note. -/
def renderPage (context : WorkbenchContext) (invoice : Invoice) (note : String) : Page where
  invoiceId := uuidText invoice.id
  expectedInvoiceOpen := context.selectedOpenInput
  note := note
  invoiceCents := context.selectedOpenCents
  rows := context.transactions.map (renderRow context.stale)
  partialChecked := false
  partialHidden := decide (context.differenceCents = 0)
  partialRequired := decide (context.differenceCents ≠ 0)
  selectedTotal := context.moneyTotal
  allocatedTotal := context.allocatedTotal
  differenceTotal := context.difference
  confirmDisabled := true

/-! ## The script

A `RangeError` is its message.  A whole number beyond the safe integers is read
and added up as a double that is not safe either, so integers model both.
-/

/-- `Number.MAX_SAFE_INTEGER`. -/
def maxSafeInteger : ℤ :=
  9007199254740991

/-- `Number.isSafeInteger` of a whole number. -/
def IsSafeInteger (value : ℤ) : Prop :=
  -maxSafeInteger ≤ value ∧ value ≤ maxSafeInteger

instance (value : ℤ) : Decidable (IsSafeInteger value) :=
  inferInstanceAs (Decidable (_ ∧ _))

def requireSafeNonNegativeInteger (value : ℤ) (label : String) : Except String Unit := do
  require (IsSafeInteger value) (label ++ "必须是安全整数")
  require (0 ≤ value) (label ++ "必须是非负整数")

structure SelectedTransaction where
  id : String
  availableCents : ℤ
deriving DecidableEq, Repr

/-- The body of the loop of `calculateAllocation`, on the identifiers and the sum so far. -/
def addSelected (state : List String × ℤ) (item : SelectedTransaction) :
    Except String (List String × ℤ) := do
  require (item.id ≠ "" ∧ item.id ∉ state.1) "资金流水不能重复"
  requireSafeNonNegativeInteger item.availableCents "可核销金额"
  require (IsSafeInteger (state.2 + item.availableCents)) "资金合计必须是安全整数"
  return (item.id :: state.1, state.2 + item.availableCents)

structure Allocation where
  selected : ℤ
  allocated : ℤ
  difference : ℤ
deriving DecidableEq, Repr

def calculateAllocation (invoiceAmount : ℤ) (selectedTransactions : List SelectedTransaction) :
    Except String Allocation := do
  requireSafeNonNegativeInteger invoiceAmount "发票金额"
  let (_, selected) ← selectedTransactions.foldlM addSelected ([], 0)
  let allocated := min invoiceAmount selected
  return ⟨selected, allocated, invoiceAmount - allocated⟩

/-- The result of `confirmationState`; the source's `partial` is `partly` here. -/
structure ConfirmationState extends Allocation where
  partly : Bool
  canConfirm : Bool
deriving DecidableEq, Repr

def confirmationState (invoiceAmount : ℤ) (selectedTransactions : List SelectedTransaction)
    (partialConfirmed stale : Bool) : Except String ConfirmationState := do
  let allocation ← calculateAllocation invoiceAmount selectedTransactions
  let partly := decide (0 < allocation.allocated) && decide (0 < allocation.difference)
  return { allocation with
    partly := partly
    canConfirm := decide (0 < allocation.allocated) && !stale && (!partly || partialConfirmed) }

/-- `String(number)` of a whole number. -/
def wholeText (number : ℕ) : List Char :=
  Digits.natural number

def centsToInput (cents : ℤ) : Except String String := do
  requireSafeNonNegativeInteger cents "核销金额"
  return String.ofList (wholeText (Doubles.floor (Doubles.quotient cents.toNat 100)) ++
    '.' :: List.leftpad 2 '0' (wholeText (cents.toNat % 100)))

/-- `centsToText`, of hundredths that are not negative: grouped by thousands, two decimals.
`Intl.NumberFormat` rounds the shortest decimal of the double. -/
def centsToText (cents : ℤ) : String :=
  moneyText (Doubles.hundredths (Doubles.quotient cents.toNat 100))

namespace PageRow

/-- What `update` does to a row up to its amount text. -/
def setDisabled (row : PageRow) (disabled : Bool) : PageRow :=
  { row with
    idInput.disabled := disabled
    expectedOpenInput.disabled := disabled
    amountInput.disabled := disabled }

def setAmount (row : PageRow) (text : String) : PageRow :=
  { row with amountInput.value := text }

end PageRow

/-- The loop of `update` over the rows, and whether it came to its end. -/
def fillRows : ℤ → List PageRow → List PageRow × Bool
  | _, [] => ([], true)
  | remaining, row :: rest =>
      let amount := if row.checked then min remaining row.availableCents else 0
      let row := row.setDisabled (decide (amount = 0))
      match centsToInput amount with
      | .error _ => (row :: rest, false)
      | .ok text =>
          let (filled, finished) := fillRows (remaining - amount) rest
          (row.setAmount text :: filled, finished)

namespace Page

def selectedItems (page : Page) : List SelectedTransaction :=
  (page.rows.filter (·.checked)).map fun row => ⟨row.transactionId, row.availableCents⟩

def isStale (page : Page) : Bool :=
  (page.rows.filter (·.checked)).any (·.stale)

/-- `confirmationState` on what the page shows. -/
def state (page : Page) : Except String ConfirmationState :=
  confirmationState page.invoiceCents page.selectedItems page.partialChecked page.isStale

def update (page : Page) : Page :=
  match page.state with
  | .error _ => { page with confirmDisabled := true }
  | .ok result =>
      let (rows, finished) := fillRows result.allocated page.rows
      if finished then
        { page with
          rows := rows
          selectedTotal := centsToText result.selected
          allocatedTotal := centsToText result.allocated
          differenceTotal := centsToText result.difference
          partialHidden := !result.partly
          partialRequired := result.partly
          partialChecked := page.partialChecked && result.partly
          confirmDisabled := !result.canConfirm }
      else { page with rows := rows, confirmDisabled := true }

/-- The values of the inputs that are not disabled. -/
def enabledValues (page : Page) (input : PageRow → HiddenInput) : List String :=
  ((page.rows.map input).filter fun hidden => !hidden.disabled).map (·.value)

/-- What the browser posts. -/
def submission (page : Page) : DirectSubmission where
  invoiceId := some page.invoiceId
  note := some page.note
  partialConfirm := if page.partialChecked then some "on" else none
  expectedInvoiceOpen := some page.expectedInvoiceOpen
  transactionId := page.enabledValues (·.idInput)
  amount := page.enabledValues (·.amountInput)
  expectedTransactionOpen := page.enabledValues (·.expectedOpenInput)

end Page

/-- What the user does on the page. -/
inductive PageEvent where
  | toggleRow (position : ℕ)
  | togglePartial
deriving DecidableEq, Repr

namespace Page

/-- The checkbox changes before the script hears of it. -/
def toggle (page : Page) : PageEvent → Page
  | .toggleRow position =>
      { page with rows := page.rows.modify position fun row => { row with checked := !row.checked } }
  | .togglePartial => { page with partialChecked := !page.partialChecked }

/-- An event and the `update` that listens for it. -/
def handle (page : Page) (event : PageEvent) : Page :=
  (page.toggle event).update

end Page

/-! ## Amounts as texts -/

/-- A text with two decimals is padded to two digits. -/
theorem leftpad_wholeText {number : ℕ} (small : number < 100) :
    List.leftpad 2 '0' (wholeText number) = Digits.padded 2 number := by
  simp only [wholeText, Digits.natural]
  by_cases oneDigit : number < 10
  · rw [Nat.log_of_lt oneDigit]
    have zero : number / 10 = 0 := by omega
    simp [List.leftpad, Digits.padded, zero]
    decide
  · have twoDigits : Nat.log 10 number = 1 := by
      rw [Nat.log_eq_iff (by omega)]
      omega
    simp [twoDigits, List.leftpad]

/-- The script writes amounts as the server does. -/
theorem centsToInput_eq {cents : ℤ} (nonneg : 0 ≤ cents) (safe : cents ≤ maxSafeInteger) :
    centsToInput cents = .ok (moneyInput cents) := by
  have checked : requireSafeNonNegativeInteger cents "核销金额" = .ok () := by
    simp only [requireSafeNonNegativeInteger, bind_eq_ok, require_eq_ok]
    refine ⟨(), ⟨?_, safe⟩, nonneg⟩
    simp only [maxSafeInteger]
    omega
  obtain ⟨number, rfl⟩ := Int.eq_ofNat_of_zero_le nonneg
  have bound : number < 100 * 2 ^ 47 := by
    simp only [maxSafeInteger] at safe
    omega
  have text : moneyInput number = String.ofList (wholeText (number / 100) ++
      '.' :: Digits.padded 2 (number % 100)) := rfl
  rw [centsToInput, checked, text, Int.toNat_natCast, Doubles.floor_quotient bound,
    leftpad_wholeText (Nat.mod_lt number (by omega : 0 < 100))]
  rfl

theorem filter_groupThousands (digits : List Char) :
    (groupThousands digits).filter (· ≠ ',') = digits.filter (· ≠ ',') := by
  fun_induction groupThousands digits with
  | case1 a b c d rest ih =>
      simp only [List.filter_cons, ih]
      simp
  | case2 rest => rfl

/-- Without its separators, the text of an amount is the plain text. -/
theorem filter_moneyText {cents : ℤ} (nonneg : 0 ≤ cents) :
    (moneyText cents).toList.filter (· ≠ ',') = (Decimal.ofCents cents).plain := by
  have digits : ∀ number : ℕ, ∀ width, (Digits.padded width number).filter (· ≠ ',') =
      Digits.padded width number := by
    intro number width
    rw [List.filter_eq_self]
    intro character member
    have isDigit := Digits.isDigit_of_mem_padded member
    apply decide_eq_true
    rintro rfl
    revert isDigit
    decide
  have notNegative : ¬cents < 0 := by omega
  simp only [moneyText, String.toList_ofList, notNegative, if_false, List.nil_append,
    List.filter_append, List.filter_reverse, filter_groupThousands, List.reverse_reverse,
    List.filter_cons, digits, Digits.natural, Decimal.plain, Decimal.ofCents]
  rfl

theorem moneyText_inj {first second : ℤ} (firstNonneg : 0 ≤ first) (secondNonneg : 0 ≤ second)
    (same : moneyText first = moneyText second) : first = second := by
  have plain : (Decimal.ofCents first).plain = (Decimal.ofCents second).plain := by
    rw [← filter_moneyText firstNonneg, ← filter_moneyText secondNonneg, same]
  have read := congrArg Decimal.ofPlain? plain
  rw [Decimal.ofPlain?_plain, Decimal.ofPlain?_plain, Option.some.injEq] at read
  exact congrArg Decimal.coefficient read

/-- The differences that the page shows as they are. -/
def ShownExactly (cents : ℤ) : Prop :=
  cents < 100 * 2 ^ 46 ∨ Doubles.Prevails cents.toNat

instance (cents : ℤ) : Decidable (ShownExactly cents) :=
  inferInstanceAs (Decidable (_ ∨ _))

theorem centsToText_iff {cents : ℤ} (nonneg : 0 ≤ cents) (safe : cents ≤ maxSafeInteger) :
    centsToText cents = moneyText cents ↔ ShownExactly cents := by
  obtain ⟨number, rfl⟩ := Int.eq_ofNat_of_zero_le nonneg
  have bound : number < 2 ^ 53 := by
    simp only [maxSafeInteger] at safe
    omega
  have shown := Doubles.hundredths_quotient_iff bound
  have exactly : ShownExactly number ↔ number < 100 * 2 ^ 46 ∨ Doubles.Prevails number := by
    rw [ShownExactly, Int.toNat_natCast]
    exact or_congr_left (by omega)
  rw [exactly, ← shown, centsToText, Int.toNat_natCast]
  constructor
  · intro same
    have sameCents := moneyText_inj (Int.natCast_nonneg _) nonneg same
    omega
  · intro same
    rw [same]

/-! ## What the script computes -/

/-- What a successful allocation has checked. -/
theorem calculateAllocation_eq_ok {invoiceAmount : ℤ} {items : List SelectedTransaction}
    {allocation : Allocation} (succeeded : calculateAllocation invoiceAmount items = .ok allocation) :
    (0 ≤ invoiceAmount ∧ invoiceAmount ≤ maxSafeInteger) ∧
      (∀ item ∈ items, 0 ≤ item.availableCents ∧ item.availableCents ≤ maxSafeInteger) ∧
      allocation = ⟨(items.map (·.availableCents)).sum,
        min invoiceAmount (items.map (·.availableCents)).sum,
        invoiceAmount - min invoiceAmount (items.map (·.availableCents)).sum⟩ := by
  have added : ∀ (items : List SelectedTransaction) (start last : List String × ℤ),
      items.foldlM addSelected start = .ok last →
        (∀ item ∈ items, 0 ≤ item.availableCents ∧ item.availableCents ≤ maxSafeInteger) ∧
          last.2 = start.2 + (items.map (·.availableCents)).sum := by
    intro items
    induction items with
    | nil =>
        intro start last folded
        cases folded
        simp
    | cons item rest ih =>
        intro start last folded
        simp only [List.foldlM_cons, addSelected, requireSafeNonNegativeInteger, bind_eq_ok,
          require_eq_ok] at folded
        rcases folded with ⟨middle, ⟨-, -, -, ⟨-, safe, nonneg⟩, -, -, same⟩, folded⟩
        cases same
        rcases ih _ _ folded with ⟨each, sum⟩
        refine ⟨?_, ?_⟩
        · intro other member
          rcases List.mem_cons.mp member with rfl | later
          · exact ⟨nonneg, safe.2⟩
          · exact each other later
        · rw [sum, List.map_cons, List.sum_cons, add_assoc]
  simp only [calculateAllocation, requireSafeNonNegativeInteger, bind_eq_ok, require_eq_ok]
    at succeeded
  rcases succeeded with ⟨-, ⟨-, safe, nonneg⟩, ⟨identifiers, selected⟩, folded, same⟩
  rcases added items _ _ folded with ⟨each, sum⟩
  simp only [zero_add] at sum
  subst sum
  cases same
  exact ⟨⟨nonneg, safe.2⟩, each, rfl⟩

/-- What is asked of a row. -/
def PageRow.demand (row : PageRow) : ℤ :=
  if row.checked then row.availableCents else 0

/-- The rows, each with what is asked of it. -/
def demands (rows : List PageRow) : List (PageRow × ℤ) :=
  rows.map fun row => (row, row.demand)

/-- A row that is given an amount. -/
def filledRow (served : PageRow × ℤ) : PageRow :=
  (served.1.setDisabled (decide (served.2 = 0))).setAmount (moneyInput served.2)

/-- The loop serves the checked rows in order. -/
theorem fillRows_eq {rows : List PageRow} {remaining : ℤ} (nonneg : 0 ≤ remaining)
    (safe : remaining ≤ maxSafeInteger) (demandsNonneg : Transport.Nonneg (demands rows)) :
    fillRows remaining rows = ((Transport.serve remaining (demands rows)).map filledRow, true) := by
  induction rows generalizing remaining with
  | nil => rfl
  | cons row rest ih =>
      have demandNonneg : 0 ≤ row.demand := demandsNonneg (row, row.demand) (List.mem_cons_self ..)
      have amount : (if row.checked then min remaining row.availableCents else 0) =
          min remaining row.demand := by
        simp only [PageRow.demand]
        split
        · rfl
        · omega
      have text : centsToInput (min remaining row.demand) =
          .ok (moneyInput (min remaining row.demand)) :=
        centsToInput_eq (le_min nonneg demandNonneg) ((min_le_left _ _).trans safe)
      have tail : fillRows (remaining - min remaining row.demand) rest =
          ((Transport.serve (remaining - min remaining row.demand) (demands rest)).map filledRow,
            true) :=
        ih (by omega) (by omega) demandsNonneg.tail
      simp only [fillRows, amount, text, tail]
      rfl

/-! ## What stays on the page -/

/-- The part of a row that the page keeps. -/
structure FixedRow where
  transactionId : String
  availableCents : ℤ
  stale : Bool
  idValue : String
  expectedOpenValue : String
deriving DecidableEq, Repr

def PageRow.fixed (row : PageRow) : FixedRow :=
  ⟨row.transactionId, row.availableCents, row.stale, row.idInput.value,
    row.expectedOpenInput.value⟩

/-- The part of a page that it keeps. -/
structure FixedPage where
  invoiceId : String
  expectedInvoiceOpen : String
  note : String
  invoiceCents : ℤ
  rows : List FixedRow
deriving DecidableEq, Repr

def Page.fixed (page : Page) : FixedPage :=
  ⟨page.invoiceId, page.expectedInvoiceOpen, page.note, page.invoiceCents,
    page.rows.map (·.fixed)⟩

theorem fixed_fillRows (remaining : ℤ) (rows : List PageRow) :
    (fillRows remaining rows).1.map (·.fixed) = rows.map (·.fixed) := by
  induction rows generalizing remaining with
  | nil => rfl
  | cons row rest ih =>
      simp only [fillRows]
      split
      · rfl
      · simp only [List.map_cons, ih]
        rfl

theorem Page.fixed_update (page : Page) : page.update.fixed = page.fixed := by
  simp only [Page.update]
  split
  · rfl
  · split
    · simp only [Page.fixed, fixed_fillRows]
    · simp only [Page.fixed, fixed_fillRows]

theorem Page.fixed_toggle (page : Page) (event : PageEvent) :
    (page.toggle event).fixed = page.fixed := by
  cases event with
  | togglePartial => rfl
  | toggleRow position =>
      have rows : ∀ (rows : List PageRow) (position : ℕ),
          (rows.modify position fun row => { row with checked := !row.checked }).map (·.fixed) =
            rows.map (·.fixed) := by
        intro rows
        induction rows with
        | nil =>
            intro position
            simp
        | cons row rest ih =>
            intro position
            cases position with
            | zero => simp [PageRow.fixed]
            | succ position => simp [ih]
      simp only [Page.fixed, Page.toggle, rows]

/-- After any run of events, the page is one that `update` has just left. -/
theorem exists_update (rendered : Page) (events : List PageEvent) :
    ∃ before : Page, before.fixed = rendered.fixed ∧
      events.foldl Page.handle rendered.update = before.update := by
  have run : ∀ (events : List PageEvent) (page : Page), page.fixed = rendered.fixed →
      ∃ before : Page, before.fixed = rendered.fixed ∧
        events.foldl Page.handle page.update = before.update := by
    intro events
    induction events with
    | nil =>
        intro page same
        exact ⟨page, same, rfl⟩
    | cons event rest ih =>
        intro page same
        apply ih (page.update.toggle event)
        rw [Page.fixed_toggle, Page.fixed_update, same]
  exact run events rendered rfl

end Finrec
