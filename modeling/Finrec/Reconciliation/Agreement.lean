import Finrec.Reconciliation.Workbench

/-!
# The workbench and the server agree

Whenever the page lets the user confirm, the fields that it has enabled pass
the form and the server accepts them.  The invoice is left with the difference
that the script computed; the page shows it as it is exactly when the rounding
of the quotient does no harm.
-/

namespace Finrec

open Calendar Checks

/-! ## What the page posts -/

/-- The transactions of a list that the workbench can offer for an invoice, in any order. -/
structure CandidateRows (ledger : Ledger) (zone : Zone) (invoice : Invoice)
    (moneys : List MoneyTransaction) : Prop where
  offered : ∀ money ∈ moneys, ∃ start stop, money ∈ ledger.offers zone invoice start stop
  distinct : (moneys.map (·.id)).Nodup
  keys : ∀ money ∈ moneys, IsUuid money.id

/-- The form for an invoice and a list of transactions. -/
def candidatePage (ledger : Ledger) (invoice : Invoice) (moneys : List MoneyTransaction)
    (stale : Bool) (note : String) : Page :=
  renderPage (contextFor ledger (some invoice) (moneys.map ledger.moneyItem) stale) invoice note

/-- The row of a transaction, as far as the page keeps it. -/
def moneyRow (ledger : Ledger) (stale : Bool) (money : MoneyTransaction) : FixedRow :=
  ⟨uuidText money.id, ledger.transactionOpen money, stale, uuidText money.id,
    moneyInput (ledger.transactionOpen money)⟩

theorem fixed_renderRows (ledger : Ledger) (stale : Bool) (moneys : List MoneyTransaction)
    (target : ℤ) :
    ((directAllocationRows (moneys.map ledger.moneyItem) target).map (renderRow stale)).map
        (·.fixed) = moneys.map (moneyRow ledger stale) := by
  induction moneys generalizing target with
  | nil => rfl
  | cons money rest ih =>
      simp only [List.map_cons, directAllocationRows, ih]
      rfl

theorem fixed_candidatePage (ledger : Ledger) (invoice : Invoice) (moneys : List MoneyTransaction)
    (stale : Bool) (note : String) : (candidatePage ledger invoice moneys stale note).fixed =
      ⟨uuidText invoice.id, moneyInput (ledger.invoiceOpen invoice), note,
        ledger.invoiceOpen invoice, moneys.map (moneyRow ledger stale)⟩ := by
  have rows := fixed_renderRows ledger stale moneys (ledger.invoiceOpen invoice)
  simp only [candidatePage, renderPage, contextFor, Page.fixed, Option.map_some, Option.getD_some,
    rows]

theorem sum_selectedItems (rows : List PageRow) :
    (((rows.filter (·.checked)).map fun row =>
      (⟨row.transactionId, row.availableCents⟩ : SelectedTransaction)).map
        (·.availableCents)).sum = Transport.sum (demands rows) := by
  induction rows with
  | nil => rfl
  | cons row rest ih =>
      simp only [Transport.sum, demands, List.map_map] at ih ⊢
      cases checked : row.checked with
      | true => simp [PageRow.demand, checked, ih]
      | false => simp [PageRow.demand, checked, ih]

namespace Page

variable {page before : Page}

/-- What a successful `confirmationState` has checked and computed. -/
structure Computes (page : Page) (result : ConfirmationState) : Prop where
  invoiceSafe : 0 ≤ page.invoiceCents ∧ page.invoiceCents ≤ maxSafeInteger
  rowsSafe : ∀ row ∈ page.rows, row.checked = true →
    0 ≤ row.availableCents ∧ row.availableCents ≤ maxSafeInteger
  allocated : result.allocated = min page.invoiceCents (Transport.sum (demands page.rows))
  difference : result.difference = page.invoiceCents - result.allocated
  partly : result.partly = (decide (0 < result.allocated) && decide (0 < result.difference))
  canConfirm : result.canConfirm = (decide (0 < result.allocated) && !page.isStale &&
    (!result.partly || page.partialChecked))

theorem computes_of_state {result : ConfirmationState} (succeeded : page.state = .ok result) :
    page.Computes result := by
  simp only [state, confirmationState, bind_eq_ok] at succeeded
  rcases succeeded with ⟨allocation, calculated, same⟩
  rcases calculateAllocation_eq_ok calculated with ⟨invoiceSafe, each, rfl⟩
  have sum := sum_selectedItems page.rows
  cases same
  constructor
  case invoiceSafe => exact invoiceSafe
  case rowsSafe =>
    intro row member checked
    apply each ⟨row.transactionId, row.availableCents⟩
    apply List.mem_map_of_mem
    exact List.mem_filter.mpr ⟨member, checked⟩
  case allocated =>
    rw [← sum]
    rfl
  case difference => rfl
  case partly => rfl
  case canConfirm => rfl

theorem Computes.demandsNonneg {result : ConfirmationState} (computes : page.Computes result) :
    Transport.Nonneg (demands page.rows) := by
  intro entry member
  rcases List.mem_map.mp member with ⟨row, rowMem, rfl⟩
  simp only [PageRow.demand]
  split
  · rename_i checked
    exact (computes.rowsSafe row rowMem checked).1
  · exact le_rfl

theorem Computes.allocated_nonneg {result : ConfirmationState} (computes : page.Computes result) :
    0 ≤ result.allocated := by
  rw [computes.allocated]
  exact le_min computes.invoiceSafe.1 (Transport.sum_nonneg computes.demandsNonneg)

theorem Computes.allocated_le {result : ConfirmationState} (computes : page.Computes result) :
    result.allocated ≤ page.invoiceCents := by
  rw [computes.allocated]
  exact min_le_left _ _

/-- What `update` makes of a page that can be computed. -/
theorem update_of_state {result : ConfirmationState} (succeeded : page.state = .ok result) :
    page.update = { page with
      rows := (Transport.serve result.allocated (demands page.rows)).map filledRow
      selectedTotal := centsToText result.selected
      allocatedTotal := centsToText result.allocated
      differenceTotal := centsToText result.difference
      partialHidden := !result.partly
      partialRequired := result.partly
      partialChecked := page.partialChecked && result.partly
      confirmDisabled := !result.canConfirm } := by
  have computes := computes_of_state succeeded
  have filled := fillRows_eq computes.allocated_nonneg
    (computes.allocated_le.trans computes.invoiceSafe.2) computes.demandsNonneg
  simp only [update, succeeded, filled, if_true]

/-- A page that lets the user confirm has been computed. -/
theorem exists_state (enabled : page.update.confirmDisabled = false) :
    ∃ result, page.state = .ok result ∧ result.canConfirm = true := by
  cases found : page.state with
  | error error => simp [update, found] at enabled
  | ok result =>
      rw [update_of_state found] at enabled
      exact ⟨result, rfl, by simpa using enabled⟩

end Page

/-! ## The fields pass the form -/

/-- The values of the enabled inputs are those of the rows that are given something. -/
theorem enabled_filled {input : PageRow → HiddenInput} {value : PageRow × ℤ → String}
    (sees : ∀ served, input (filledRow served) = ⟨value served, decide (served.2 = 0)⟩)
    {served : List (PageRow × ℤ)} (nonneg : Transport.Nonneg served) :
    (((served.map filledRow).map input).filter fun hidden => !hidden.disabled).map (·.value) =
      (served.filter fun entry => decide (0 < entry.2)).map value := by
  induction served with
  | nil => rfl
  | cons entry rest ih =>
      have tail := ih nonneg.tail
      have entryNonneg := nonneg entry (List.mem_cons_self ..)
      simp only [List.map_cons, sees]
      by_cases positive : 0 < entry.2
      · have nonzero : entry.2 ≠ 0 := by omega
        simpa [positive, nonzero] using tail
      · have zero : entry.2 = 0 := by omega
        simpa [zero] using tail

/-- The rows that the script gives something, each with its amount. -/
def paidRows (allocated : ℤ) (rows : List PageRow) : List (PageRow × ℤ) :=
  (Transport.serve allocated (demands rows)).filter fun entry => decide (0 < entry.2)

/-- The key that a row posts. -/
def PageRow.key (row : PageRow) : Uuid :=
  (readUuid row.idInput.value).getD 0

/-- A text without spaces. -/
theorem strip_eq_self {text : String}
    (noSpace : ∀ character ∈ text.toList, isPythonSpace character = false) : strip text = text := by
  have kept : ∀ characters : List Char,
      (∀ character ∈ characters, isPythonSpace character = false) →
        characters.dropWhile isPythonSpace = characters := by
    intro characters all
    cases characters with
    | nil => rfl
    | cons first rest => simp [all first]
  rw [strip, kept _ noSpace, kept]
  · simp
  · intro character member
    exact noSpace character (List.mem_reverse.mp member)

theorem noSpace_of_mem_digits {character : Char} (digit : Digits.isDigit character = true) :
    isPythonSpace character = false := by
  simp only [Digits.isDigit, Digits.digitValue?] at digit
  split at digit
  · rename_i bounds
    simp only [isPythonSpace, decide_eq_false_iff_not]
    omega
  · cases digit

theorem strip_moneyInput {cents : ℤ} (nonneg : 0 ≤ cents) :
    strip (moneyInput cents) = moneyInput cents := by
  apply strip_eq_self
  intro character member
  have notNegative : ¬cents < 0 := by omega
  simp only [moneyInput, String.toList_ofList, Decimal.plain, Decimal.ofCents, notNegative,
    if_false, List.nil_append, List.mem_append, Digits.natural] at member
  rcases member with whole | fraction
  · exact noSpace_of_mem_digits (Digits.isDigit_of_mem_padded whole)
  · rcases List.mem_cons.mp fraction with rfl | decimals
    · decide
    · exact noSpace_of_mem_digits (Digits.isDigit_of_mem_padded decimals)

theorem strip_uuidText (id : Uuid) : strip (uuidText id) = uuidText id := by
  apply strip_eq_self
  intro character member
  have hexadecimal : ∀ digit : Fin 16, isPythonSpace (Patterns.Uuid.digitChar digit) = false := by
    decide
  rw [uuidText, String.toList_ofList] at member
  by_cases hyphen : character = '-'
  · rw [hyphen]
    decide
  · have kept : character ∈ (Patterns.Uuid.ofNat id).text.filter (· ≠ '-') :=
      List.mem_filter.mpr ⟨member, decide_eq_true hyphen⟩
    rw [Patterns.Uuid.filter_text] at kept
    rcases List.mem_map.mp kept with ⟨digit, -, rfl⟩
    exact hexadecimal digit

theorem requiredText_eq {text message : String} (stripped : strip text = text)
    (nonempty : text ≠ "") : requiredText (some text) message = .ok text := by
  rw [requiredText, present_eq_ok, Option.map_some, stripped, Option.filter_eq_some_iff]
  exact ⟨rfl, decide_eq_true nonempty⟩

theorem moneyInput_ne_empty (cents : ℤ) : moneyInput cents ≠ "" := by
  intro empty
  have point : '.' ∈ (moneyInput cents).toList := by
    simp [moneyInput, Decimal.plain, Decimal.ofCents]
  simp [empty] at point

theorem uuidText_ne_empty (id : Uuid) : uuidText id ≠ "" := by
  intro empty
  have hyphen : '-' ∈ (uuidText id).toList := by
    simp [uuidText, Patterns.Uuid.text, Patterns.grouped]
  simp [empty] at hyphen

theorem length_strip_le (text : String) : (strip text).length ≤ text.length := by
  have shorter : ∀ characters : List Char,
      (characters.dropWhile isPythonSpace).length ≤ characters.length :=
    fun characters => (List.dropWhile_suffix _).length_le
  have first := shorter text.toList
  have second := shorter (text.toList.dropWhile isPythonSpace).reverse
  simp only [strip, ← String.length_toList, String.toList_ofList, List.length_reverse] at *
  omega

theorem mem_of_mem_strip {text : String} {character : Char}
    (member : character ∈ (strip text).toList) : character ∈ text.toList := by
  rw [strip, String.toList_ofList, List.mem_reverse] at member
  have inner := List.mem_reverse.mp ((List.dropWhile_suffix _).subset member)
  exact (List.dropWhile_suffix _).subset inner

/-- A note that the page allows passes its field. -/
theorem cleanNote_eq {note : String} (short : note.length ≤ 1000)
    (noNull : Char.ofNat 0 ∉ note.toList) : cleanNote (some note) = .ok (strip note) := by
  simp only [cleanNote, bind_eq_ok, require_eq_ok, Option.getD_some]
  exact ⟨(), (length_strip_le note).trans short, (), fun member => noNull (mem_of_mem_strip member),
    rfl⟩

theorem collect_map_eq_map {ε α β γ : Type} {process : α → Except ε β} {source : γ → α}
    {value : γ → β} {items : List γ}
    (each : ∀ item ∈ items, process (source item) = .ok (value item)) :
    collect process (items.map source) = .ok (items.map value) := by
  rw [collect_eq_ok]
  induction items with
  | nil => exact .nil
  | cons item rest ih =>
      exact .cons (each item (List.mem_cons_self ..))
        (ih fun other member => each other (List.mem_cons_of_mem _ member))

section Posts

variable {ledger : Ledger} {zone : Zone} {invoice : Invoice} {moneys : List MoneyTransaction}
  {stale : Bool} {note : String} {page : Page} {result : ConfirmationState}

/-- The rows of a page stand for the transactions of its list. -/
theorem exists_money (same : page.rows.map (·.fixed) = moneys.map (moneyRow ledger stale))
    {row : PageRow} (member : row ∈ page.rows) :
    ∃ money ∈ moneys, row.fixed = moneyRow ledger stale money := by
  have fixedMem : row.fixed ∈ moneys.map (moneyRow ledger stale) := by
    rw [← same]
    exact List.mem_map_of_mem member
  rcases List.mem_map.mp fixedMem with ⟨money, moneyMem, sameFixed⟩
  exact ⟨money, moneyMem, sameFixed.symm⟩

theorem keys_rows (candidates : CandidateRows ledger zone invoice moneys)
    (same : page.rows.map (·.fixed) = moneys.map (moneyRow ledger stale)) :
    page.rows.map (·.key) = moneys.map (·.id) := by
  have viaFixed : page.rows.map (·.key) =
      (page.rows.map (·.fixed)).map fun row => (readUuid row.idValue).getD 0 := by
    rw [List.map_map]
    rfl
  rw [viaFixed, same, List.map_map]
  apply List.map_congr_left
  intro money member
  simp [moneyRow, readUuid_uuidText (candidates.keys money member)]

/-- A row that is given something is checked and stands for a transaction. -/
theorem of_mem_paidRows (computes : page.Computes result)
    (same : page.rows.map (·.fixed) = moneys.map (moneyRow ledger stale))
    {entry : PageRow × ℤ} (member : entry ∈ paidRows result.allocated page.rows) :
    0 < entry.2 ∧ ∃ money ∈ moneys, entry.1.fixed = moneyRow ledger stale money ∧
      entry.2 ≤ ledger.transactionOpen money ∧
      ledger.transactionOpen money ≤ maxSafeInteger := by
  rcases List.mem_filter.mp member with ⟨served, positive⟩
  have positive := of_decide_eq_true positive
  rcases (Transport.of_mem_serve computes.allocated_nonneg computes.demandsNonneg served).2 with
    ⟨left, demanded, within⟩
  rcases List.mem_map.mp demanded with ⟨row, rowMem, sameRow⟩
  simp only [Prod.mk.injEq] at sameRow
  rcases sameRow with ⟨rfl, rfl⟩
  rcases exists_money same rowMem with ⟨money, moneyMem, sameFixed⟩
  have available : entry.1.availableCents = ledger.transactionOpen money :=
    congrArg FixedRow.availableCents sameFixed
  have checked : entry.1.checked = true := by
    by_contra unchecked
    simp only [PageRow.demand, unchecked] at within
    simp at within
    omega
  have safe := computes.rowsSafe entry.1 rowMem checked
  simp only [PageRow.demand, checked, if_true] at within
  refine ⟨positive, money, moneyMem, sameFixed, ?_, ?_⟩
  · omega
  · omega

/-- What `cleaned_data` holds of a row. -/
def cleanedRow (entry : PageRow × ℤ) : CleanRow :=
  ⟨entry.1.key, Decimal.ofCents entry.2, Decimal.ofCents entry.1.availableCents⟩

/-- The values that a paid row posts pass. -/
theorem cleanRow_paid (candidates : CandidateRows ledger zone invoice moneys)
    (computes : page.Computes result)
    (same : page.rows.map (·.fixed) = moneys.map (moneyRow ledger stale))
    {entry : PageRow × ℤ} (member : entry ∈ paidRows result.allocated page.rows) :
    cleanRow (entry.1.idInput.value, moneyInput entry.2, entry.1.expectedOpenInput.value) =
      .ok (cleanedRow entry) := by
  rcases of_mem_paidRows computes same member with
    ⟨positive, money, moneyMem, sameFixed, within, safe⟩
  simp only [PageRow.fixed, moneyRow, FixedRow.mk.injEq] at sameFixed
  rcases sameFixed with ⟨-, available, -, idValue, expectedValue⟩
  have read := readUuid_uuidText (candidates.keys money moneyMem)
  simp only [maxSafeInteger] at safe
  simp only [cleanRow, cleanedRow, PageRow.key, idValue, expectedValue, available, read,
    Option.getD_some, bind_eq_ok, cleanUuid_uuidText (candidates.keys money moneyMem)]
  refine ⟨money.id, rfl, _, cleanAmount_moneyInput positive ?_, _, cleanAmount_moneyInput ?_ ?_, rfl⟩
  · simp only [maxMoney]
    omega
  · omega
  · simp only [maxMoney]
    omega

/-- The form that a page posts. -/
def postedForm (ledger : Ledger) (invoice : Invoice) (note : String) (page : Page)
    (result : ConfirmationState) : DirectForm where
  invoiceId := invoice.id
  note := strip note
  partialConfirm := page.partialChecked && result.partly
  expectedInvoiceOpen := Decimal.ofCents (ledger.invoiceOpen invoice)
  allocationRows := (paidRows result.allocated page.rows).map cleanedRow

/-- The lines of the posted form. -/
def paidParts (page : Page) (result : ConfirmationState) : List (Uuid × ℤ) :=
  (paidRows result.allocated page.rows).map fun entry => (entry.1.key, entry.2)

theorem sum_paidParts (computes : page.Computes result) :
    ((paidParts page result).map (·.2)).sum = result.allocated := by
  have served : Transport.Nonneg (Transport.serve result.allocated (demands page.rows)) :=
    fun entry member => (Transport.of_mem_serve computes.allocated_nonneg computes.demandsNonneg
      member).1
  have total := Transport.sum_serve computes.allocated_nonneg computes.demandsNonneg
  rw [← Transport.sum_filter_positive served] at total
  have asked : min result.allocated (Transport.sum (demands page.rows)) = result.allocated := by
    have allocated := computes.allocated
    omega
  rw [asked] at total
  rw [← total, paidParts, List.map_map]
  rfl

theorem nodup_paidParts (candidates : CandidateRows ledger zone invoice moneys)
    (same : page.rows.map (·.fixed) = moneys.map (moneyRow ledger stale)) :
    ((paidParts page result).map (·.1)).Nodup := by
  have keys : (Transport.serve result.allocated (demands page.rows)).map (·.1.key) =
      moneys.map (·.id) := by
    have rows := Transport.keys_serve result.allocated (demands page.rows)
    have viaRows : (Transport.serve result.allocated (demands page.rows)).map (·.1.key) =
        ((Transport.serve result.allocated (demands page.rows)).map (·.1)).map (·.key) := by
      rw [List.map_map]
      rfl
    rw [viaRows, rows, demands, List.map_map, List.map_map, ← keys_rows candidates same]
    rfl
  have distinct : ((Transport.serve result.allocated (demands page.rows)).map (·.1.key)).Nodup := by
    rw [keys]
    exact candidates.distinct
  rw [paidParts, List.map_map]
  exact (List.filter_sublist.map _).nodup distinct

/-- What the page posts passes the form. -/
theorem form_of_page (isUuid : IsUuid invoice.id)
    (candidates : CandidateRows ledger zone invoice moneys) (short : note.length ≤ 1000)
    (noNull : Char.ofNat 0 ∉ note.toList)
    (same : page.fixed = (candidatePage ledger invoice moneys stale note).fixed)
    (computed : page.state = .ok result) (confirms : result.canConfirm = true) :
    directReconciliationForm page.update.submission =
      .ok (postedForm ledger invoice note page result) := by
  have computes := Page.computes_of_state computed
  rw [fixed_candidatePage] at same
  simp only [Page.fixed, FixedPage.mk.injEq] at same
  rcases same with ⟨invoiceId, expectedOpen, sameNote, invoiceCents, rows⟩
  have positive : 0 < result.allocated := by
    have allowed := computes.canConfirm.symm.trans confirms
    simp only [Bool.and_eq_true, decide_eq_true_eq] at allowed
    exact allowed.1.1
  have served : Transport.Nonneg (Transport.serve result.allocated (demands page.rows)) :=
    fun entry member => (Transport.of_mem_serve computes.allocated_nonneg computes.demandsNonneg
      member).1
  have ids : page.update.enabledValues (·.idInput) =
      (paidRows result.allocated page.rows).map (·.1.idInput.value) := by
    rw [Page.update_of_state computed]
    exact enabled_filled (fun _ => rfl) served
  have amounts : page.update.enabledValues (·.amountInput) =
      (paidRows result.allocated page.rows).map fun entry => moneyInput entry.2 := by
    rw [Page.update_of_state computed]
    exact enabled_filled (fun _ => rfl) served
  have expecteds : page.update.enabledValues (·.expectedOpenInput) =
      (paidRows result.allocated page.rows).map (·.1.expectedOpenInput.value) := by
    rw [Page.update_of_state computed]
    exact enabled_filled (fun _ => rfl) served
  have nonempty : paidRows result.allocated page.rows ≠ [] := by
    intro empty
    have sum := sum_paidParts computes
    rw [paidParts, empty] at sum
    simp only [List.map_nil, List.sum_nil] at sum
    omega
  have cleaned : collect cleanRow (((paidRows result.allocated page.rows).map
      (·.1.idInput.value)).zip (((paidRows result.allocated page.rows).map
        fun entry => moneyInput entry.2).zip ((paidRows result.allocated page.rows).map
          (·.1.expectedOpenInput.value)))) =
      .ok ((paidRows result.allocated page.rows).map cleanedRow) := by
    rw [List.zip_map', List.zip_map']
    apply collect_map_eq_map
    intro entry member
    exact cleanRow_paid candidates computes rows member
  have distinct : (((paidRows result.allocated page.rows).map cleanedRow).map
      (·.transactionId)).Nodup := by
    have parts : ((paidParts page result).map (·.1)).Nodup := nodup_paidParts candidates rows
    rw [paidParts, List.map_map] at parts
    rwa [List.map_map]
  have expectedRead : cleanAmount (moneyInput (ledger.invoiceOpen invoice)) =
      .ok (Decimal.ofCents (ledger.invoiceOpen invoice)) := by
    have within := computes.allocated_le
    have safe := computes.invoiceSafe.2
    apply cleanAmount_moneyInput
    · omega
    · simp only [maxSafeInteger, maxMoney] at safe ⊢
      omega
  have kept := Page.fixed_update page
  simp only [Page.fixed, FixedPage.mk.injEq, invoiceId, expectedOpen, sameNote] at kept
  have checkbox : page.update.partialChecked = (page.partialChecked && result.partly) := by
    rw [Page.update_of_state computed]
  have read : cleanCheckbox (if page.update.partialChecked = true then some "on" else none) =
      (page.partialChecked && result.partly) := by
    rw [checkbox]
    cases page.partialChecked && result.partly with
    | true => decide +kernel
    | false => rfl
  simp only [directReconciliationForm, bind_eq_ok, present_eq_ok, require_eq_ok, Page.submission,
    kept.1, kept.2.1, kept.2.2.1, ids, amounts, expecteds, read]
  refine ⟨_, requiredText_eq (strip_uuidText _) (uuidText_ne_empty _), _, readUuid_uuidText isUuid,
    _, cleanNote_eq short noNull, _, requiredText_eq (strip_moneyInput ?_) (moneyInput_ne_empty _),
    (), ⟨?_, ?_, ?_⟩, _, cleaned, (), distinct, _, expectedRead, rfl⟩
  · rw [← invoiceCents]
    exact computes.invoiceSafe.1
  · simpa using nonempty
  · simp
  · simp

/-! ## The request is valid -/

theorem mem_paidParts {part : Uuid × ℤ} :
    part ∈ paidParts page result ↔
      ∃ entry ∈ paidRows result.allocated page.rows, (entry.1.key, entry.2) = part := by
  simp only [paidParts, List.mem_map]

/-- The transaction that a paid row stands for. -/
theorem key_of_fixed (candidates : CandidateRows ledger zone invoice moneys) {row : PageRow}
    {money : MoneyTransaction} (member : money ∈ moneys)
    (same : row.fixed = moneyRow ledger stale money) : row.key = money.id := by
  have idValue : row.idInput.value = uuidText money.id := congrArg FixedRow.idValue same
  rw [PageRow.key, idValue, readUuid_uuidText (candidates.keys money member)]
  rfl

/-- The posted form asks for nothing that the ledger refuses. -/
theorem validRequest_of_page (sound : ledger.Sound) (listed : invoice ∈ ledger.invoices)
    (normal : invoice.status = .normal) (candidates : CandidateRows ledger zone invoice moneys)
    (invoiceCents : page.invoiceCents = ledger.invoiceOpen invoice)
    (same : page.rows.map (·.fixed) = moneys.map (moneyRow ledger stale))
    (computes : page.Computes result) (confirms : result.canConfirm = true) (actor : Actor) :
    ValidRequest ledger (directionOf invoice.direction)
      ((postedForm ledger invoice note page result).request actor invoice) := by
  have allowed := computes.canConfirm.symm.trans confirms
  simp only [Bool.and_eq_true, decide_eq_true_eq, Bool.or_eq_true, Bool.not_eq_true'] at allowed
  rcases allowed with ⟨⟨positive, -⟩, confirmed⟩
  have sum := sum_paidParts computes
  have lines : ((postedForm ledger invoice note page result).request actor invoice).allocations =
      paymentsOf invoice.id (paidParts page result) := by
    simp only [DirectForm.request, DirectForm.allocationInputs, postedForm, paymentsOf, paidParts,
      List.map_map]
    rfl
  have nonempty : paidParts page result ≠ [] := by
    intro empty
    rw [empty] at sum
    simp only [List.map_nil, List.sum_nil] at sum
    omega
  have touchedInvoices : ∀ id, id ∈ (paymentsOf invoice.id (paidParts page result)).map
      (·.invoiceId) ↔ id = invoice.id := by
    intro id
    have each : (paymentsOf invoice.id (paidParts page result)).map (·.invoiceId) =
        (paidParts page result).map fun _ => invoice.id := by
      simp [paymentsOf, Function.comp_def]
    rw [each]
    simp [nonempty]
  have touchedTransactions : (paymentsOf invoice.id (paidParts page result)).map
      (·.transactionId) = (paidParts page result).map (·.1) := by
    simp [paymentsOf, Function.comp_def]
  apply validRequest_of_payments (paidParts page result) sound listed normal nonempty
    (nodup_paidParts candidates same)
  case canPay =>
    intro part member
    rcases mem_paidParts.mp member with ⟨entry, paid, rfl⟩
    rcases of_mem_paidRows computes same paid with ⟨amount, money, moneyMem, sameRow, within, -⟩
    rcases candidates.offered money moneyMem with ⟨start, stop, offered⟩
    have can := canPay_of_offer offered amount within
    rwa [← key_of_fixed candidates moneyMem sameRow] at can
  case within =>
    rw [sum, ← invoiceCents]
    exact computes.allocated_le
  case lines => exact lines
  case whole =>
    intro whole
    have notPartly : result.partly = false := by
      cases partly : result.partly with
      | false => rfl
      | true =>
          have unchecked : page.partialChecked = false := by
            simpa [DirectForm.request, postedForm, partly] using whole
          simp [partly, unchecked] at confirmed
    have partly := computes.partly
    rw [notPartly] at partly
    have difference := computes.difference
    have within := computes.allocated_le
    simp [positive] at partly
    omega
  case expectedInvoices =>
    intro expected given
    cases given
    rw [lines]
    refine ⟨?_, ?_⟩
    · intro id
      rw [touchedInvoices]
      simp [DirectForm.expectedInvoiceOpenAmounts, postedForm]
    · intro other otherListed touched
      have sameId := (touchedInvoices other.id).mp touched
      rw [List.inj_on_of_nodup_map sound.invoiceIds otherListed listed sameId]
      refine ⟨.amount (.decimal (Decimal.ofCents (ledger.invoiceOpen invoice))), ?_, ?_⟩
      · simp [DirectForm.expectedInvoiceOpenAmounts, postedForm]
      · exact Decimal.isCents_ofCents _
  case expectedTransactions =>
    intro expected given
    cases given
    rw [lines, touchedTransactions]
    have named : ∀ id, (((postedForm ledger invoice note page
        result).expectedTransactionOpenAmounts).lookup id).isSome = true ↔
          id ∈ (paidParts page result).map (·.1) := by
      intro id
      simp only [List.lookup_isSome_iff, beq_iff_eq, DirectForm.expectedTransactionOpenAmounts,
        postedForm, paidParts, List.map_map, List.mem_map]
      constructor
      · rintro ⟨-, ⟨entry, paid, rfl⟩, rfl⟩
        exact ⟨entry, paid, rfl⟩
      · rintro ⟨entry, paid, rfl⟩
        exact ⟨_, ⟨entry, paid, rfl⟩, rfl⟩
    refine ⟨named, ?_⟩
    intro money moneyListed touched
    rcases Option.isSome_iff_exists.mp ((named money.id).mpr touched) with ⟨amount, lookedUp⟩
    refine ⟨amount, lookedUp, ?_⟩
    rcases List.lookup_eq_some_iff.mp lookedUp with ⟨before, after, split, -⟩
    have member : (money.id, amount) ∈
        (postedForm ledger invoice note page result).expectedTransactionOpenAmounts := by
      simp [split]
    simp only [DirectForm.expectedTransactionOpenAmounts, postedForm, List.map_map] at member
    rcases List.mem_map.mp member with ⟨entry, paid, sameEntry⟩
    rcases of_mem_paidRows computes same paid with ⟨-, payer, payerMem, sameRow, -, -⟩
    rcases candidates.offered payer payerMem with ⟨start, stop, offered⟩
    simp only [Function.comp_apply, cleanedRow, Prod.mk.injEq] at sameEntry
    rcases sameEntry with ⟨sameKey, rfl⟩
    have sameMoney : money = payer := by
      apply List.inj_on_of_nodup_map sound.transactionIds moneyListed (mem_offers.mp offered).1
      rw [← sameKey, key_of_fixed candidates payerMem sameRow]
    have available : entry.1.availableCents = ledger.transactionOpen payer :=
      congrArg FixedRow.availableCents sameRow
    rw [sameMoney, available]
    exact Decimal.isCents_ofCents _

theorem requested_paymentsOf (id : Uuid) (parts : List (Uuid × ℤ)) :
    requested (·.invoiceId) (paymentsOf id parts) id = (parts.map (·.2)).sum := by
  rw [requested_of_all]
  · simp only [paymentsOf, List.map_map, Function.comp_def, cents_ofCents]
  · intro item member
    rcases List.mem_map.mp member with ⟨part, -, rfl⟩
    rfl

/-- The server accepts what the page posts, and leaves the difference that the script computed. -/
theorem directConfirm_of_page (sound : ledger.Sound) (listed : invoice ∈ ledger.invoices)
    (normal : invoice.status = .normal) (isUuid : IsUuid invoice.id)
    (candidates : CandidateRows ledger zone invoice moneys) (short : note.length ≤ 1000)
    (noNull : Char.ofNat 0 ∉ note.toList)
    (same : page.fixed = (candidatePage ledger invoice moneys stale note).fixed)
    (computed : page.state = .ok result) (confirms : result.canConfirm = true) {actor : Actor}
    (finance : actor.IsFinance) {uuid : Uuid}
    (fresh : ∀ row ∈ ledger.reconciliations, row.id ≠ uuid) (now : ℤ) :
    ∃ after, directConfirm actor page.update.submission uuid now ledger = .ok after ∧
      invoiceOpenAmount after invoice.id = .ok result.difference := by
  have computes := Page.computes_of_state computed
  have form := form_of_page isUuid candidates short noNull same computed confirms
  rw [fixed_candidatePage] at same
  simp only [Page.fixed, FixedPage.mk.injEq] at same
  rcases same with ⟨-, -, -, invoiceCents, rows⟩
  have valid : ValidRequest ledger (directionOf invoice.direction)
      ((postedForm ledger invoice note page result).request actor invoice) :=
    validRequest_of_page sound listed normal candidates invoiceCents rows computes confirms actor
  have legal : ArgumentsLegal ledger
      ((postedForm ledger invoice note page result).request actor invoice) uuid
      (directionOf invoice.direction) .direct :=
    ⟨finance, rfl, rfl, by simp [DirectForm.request], fresh, by simp [DirectForm.request]⟩
  have found : ledger.invoice? invoice.id = some invoice :=
    sound.invoice?_eq_some_iff.mpr ⟨listed, rfl⟩
  obtain ⟨after, created⟩ : ∃ after, createReconciliation
      ((postedForm ledger invoice note page result).request actor invoice) uuid now ledger =
        .ok after := (createReconciliation_ok_iff sound legal).mpr valid
  refine ⟨after, ?_, ?_⟩
  · have invoiceId : (postedForm ledger invoice note page result).invoiceId = invoice.id := rfl
    simp only [directConfirm, form, bind_eq_ok, present_eq_ok, invoiceId]
    exact ⟨invoice, found, created⟩
  · have lines : ((postedForm ledger invoice note page result).request actor invoice).allocations =
        paymentsOf invoice.id (paidParts page result) := by
      simp only [DirectForm.request, DirectForm.allocationInputs, postedForm, paymentsOf,
        paidParts, List.map_map]
      rfl
    have before : invoiceOpenAmount ledger invoice.id = .ok (ledger.invoiceOpen invoice) :=
      invoiceOpenAmount_eq_ok.mpr ⟨invoice, found, rfl⟩
    rw [invoiceOpenAmount_created sound created, before, lines, requested_paymentsOf,
      sum_paidParts computes, computes.difference, invoiceCents]
    rfl

end Posts

/-! ## What the server rendered -/

/-- The rows of a page as the server renders them. -/
def renderedRows (ledger : Ledger) (stale : Bool) (moneys : List MoneyTransaction) (target : ℤ) :
    List PageRow :=
  (directAllocationRows (moneys.map ledger.moneyItem) target).map (renderRow stale)

theorem demands_rendered_nonneg {ledger : Ledger} {stale : Bool} {moneys : List MoneyTransaction}
    (opens : ∀ money ∈ moneys, 0 ≤ ledger.transactionOpen money) (target : ℤ) :
    Transport.Nonneg (demands (renderedRows ledger stale moneys target)) := by
  induction moneys generalizing target with
  | nil => simp [Transport.Nonneg, demands, renderedRows, directAllocationRows]
  | cons money rest ih =>
      have headOpen := opens money (List.mem_cons_self ..)
      have tail := ih (fun other member => opens other (List.mem_cons_of_mem _ member))
        (target - min target (ledger.transactionOpen money))
      intro entry member
      rcases List.mem_cons.mp member with rfl | later
      · by_cases positive : 0 < min target (ledger.transactionOpen money)
        · simpa [PageRow.demand, renderRow, directRow, Ledger.moneyItem, positive] using headOpen
        · simp [PageRow.demand, renderRow, directRow, Ledger.moneyItem, positive]
      · exact tail entry later

/-- A row that shows its amount already stays as it is. -/
theorem fillRows_cons_self {row : PageRow} {rest : List PageRow} {remaining amount : ℤ}
    (given : (if row.checked = true then min remaining row.availableCents else 0) = amount)
    (nonneg : 0 ≤ amount) (safe : amount ≤ maxSafeInteger) (keeps : filledRow (row, amount) = row)
    (tail : fillRows (remaining - amount) rest = (rest, true)) :
    fillRows remaining (row :: rest) = (row :: rest, true) := by
  simp only [fillRows, given, centsToInput_eq nonneg safe, tail]
  rw [← keeps]
  rfl

/-- The script fills the rows that the server has selected as the server did. -/
theorem fillRows_rendered {ledger : Ledger} {stale : Bool} {moneys : List MoneyTransaction}
    (opens : ∀ money ∈ moneys, 0 ≤ ledger.transactionOpen money) {target : ℤ}
    (nonneg : 0 ≤ target)
    (safe : min target (Transport.sum (demands (renderedRows ledger stale moneys target))) ≤
      maxSafeInteger) :
    fillRows (min target (Transport.sum (demands (renderedRows ledger stale moneys target))))
      (renderedRows ledger stale moneys target) =
        (renderedRows ledger stale moneys target, true) := by
  induction moneys generalizing target with
  | nil => rfl
  | cons money rest ih =>
      have headOpen := opens money (List.mem_cons_self ..)
      have restOpens : ∀ other ∈ rest, 0 ≤ ledger.transactionOpen other :=
        fun other member => opens other (List.mem_cons_of_mem _ member)
      obtain ⟨amount, amount_eq⟩ : ∃ amount, amount = min target (ledger.transactionOpen money) :=
        ⟨_, rfl⟩
      have split : renderedRows ledger stale (money :: rest) target =
          renderRow stale (directRow (ledger.moneyItem money) amount) ::
            renderedRows ledger stale rest (target - amount) := by
        rw [amount_eq]
        rfl
      have restNonneg := Transport.sum_nonneg
        (demands_rendered_nonneg restOpens (target - amount) : Transport.Nonneg
          (demands (renderedRows ledger stale rest (target - amount))))
      have filled : min (target - amount) (Transport.sum (demands (renderedRows ledger stale rest
          (target - amount)))) ≤ maxSafeInteger → _ := ih restOpens (by omega)
      generalize renderedRows ledger stale rest (target - amount) = others at *
      have sum : Transport.sum (demands (renderedRows ledger stale (money :: rest) target)) =
          (if 0 < amount then ledger.transactionOpen money else 0) +
            Transport.sum (demands others) := by
        rw [split]
        simp [demands, Transport.sum, PageRow.demand, renderRow, directRow, Ledger.moneyItem]
      rw [sum] at safe ⊢
      rw [split]
      have left : min target ((if 0 < amount then ledger.transactionOpen money else 0) +
          Transport.sum (demands others)) - amount =
            min (target - amount) (Transport.sum (demands others)) := by
        split_ifs <;> omega
      have given : (if (renderRow stale (directRow (ledger.moneyItem money) amount)).checked = true
          then min (min target ((if 0 < amount then ledger.transactionOpen money else 0) +
            Transport.sum (demands others)))
              (renderRow stale (directRow (ledger.moneyItem money) amount)).availableCents
          else 0) = amount := by
        by_cases positive : 0 < amount
        · simp only [renderRow, directRow, Ledger.moneyItem, positive, decide_true, if_true]
          omega
        · simp only [renderRow, directRow, positive, decide_false, Bool.false_eq_true, if_false]
          omega
      have small : amount ≤ maxSafeInteger := by
        split_ifs at safe <;> omega
      apply fillRows_cons_self given (by omega) small
      · by_cases positive : 0 < amount
        · have nonzero : amount ≠ 0 := by omega
          simp [filledRow, PageRow.setDisabled, PageRow.setAmount, renderRow, directRow, positive,
            nonzero]
        · have zero : amount = 0 := by omega
          simp [filledRow, PageRow.setDisabled, PageRow.setAmount, renderRow, directRow, zero]
      · rw [left]
        apply filled
        omega

section Agreement

variable {ledger : Ledger} {zone : Zone} {invoice : Invoice} {moneys : List MoneyTransaction}

/-- The workbench shows the offered transactions. -/
theorem workbenchItems_eq (sound : ledger.Sound) (start stop : ℤ) :
    workbenchItems ledger zone invoice start stop =
      (ledger.offers zone invoice start stop).map ledger.moneyItem := by
  have found : ∀ moneys : List MoneyTransaction, (∀ money ∈ moneys, money ∈ ledger.transactions) →
      (moneys.map fun money => (⟨money.id, money.occurredAt, ledger.transactionOpen money⟩ :
        AvailableTransaction)).filterMap (fun item => (ledger.transaction? item.id).map fun money =>
          (⟨money, item.openAmount, moneyText item.openAmount, false⟩ :
            SettlementItem MoneyTransaction)) = moneys.map ledger.moneyItem := by
    intro moneys listed
    rw [List.filterMap_map]
    apply List.filterMap_eq_map_iff_forall_eq_some.mpr
    intro money member
    have lookedUp : ledger.transaction? money.id = some money :=
      sound.transaction?_eq_some_iff.mpr ⟨listed money member, rfl⟩
    simp only [Function.comp_apply, lookedUp, Option.map_some]
    rfl
  apply found
  intro money offered
  exact (mem_offers.mp offered).1

/-- The page of the workbench for an open invoice is one for candidate rows. -/
theorem renderPage_workbenchContext (sound : ledger.Sound) (listed : invoice ∈ ledger.invoices)
    (normal : invoice.status = .normal) (isOpen : 0 < ledger.invoiceOpen invoice) (start stop : ℤ)
    (stale : Bool) (note : String) :
    renderPage (workbenchContext ledger zone (some invoice.id) start stop stale) invoice note =
      candidatePage ledger invoice (ledger.offers zone invoice start stop) stale note := by
  have distinct : (ledger.openInvoices.map (·.id)).Nodup := by
    have ordered := (List.perm_insertionSort
      (ByKeys (fun invoice : Invoice => invoice.issueDate.toDay) fun invoice => invoice.id)
      (ledger.invoices.filter fun invoice => decide (invoice.status = .normal))).map (·.id)
    apply (List.filter_sublist.map _).nodup
    apply ordered.nodup_iff.mpr
    exact (List.filter_sublist.map _).nodup sound.invoiceIds
  have member : invoice ∈ ledger.openInvoices := by
    simp [Ledger.openInvoices, orderInvoices, listed, normal, isOpen]
  have selected : (ledger.openInvoices.find? fun other =>
      decide (some other.id = some invoice.id)) = some invoice := by
    simp only [Option.some.injEq]
    exact (Totals.find?_eq_some_iff distinct).mpr ⟨member, rfl⟩
  rw [workbenchContext, selected, candidatePage, ← workbenchItems_eq sound]

theorem candidateRows_offers (sound : ledger.Sound)
    (keys : ∀ money ∈ ledger.transactions, IsUuid money.id) (start stop : ℤ) :
    CandidateRows ledger zone invoice (ledger.offers zone invoice start stop) where
  offered := fun _ offered => ⟨start, stop, offered⟩
  distinct := nodup_offers sound
  keys := fun money offered => keys money (mem_offers.mp offered).1

/-- Loading the page leaves its rows as the server rendered them. -/
theorem rows_update_candidatePage (candidates : CandidateRows ledger zone invoice moneys)
    (stale : Bool) (note : String) :
    (candidatePage ledger invoice moneys stale note).update.rows =
      (candidatePage ledger invoice moneys stale note).rows := by
  cases found : (candidatePage ledger invoice moneys stale note).state with
  | error error => simp only [Page.update, found]
  | ok result =>
      have computes := Page.computes_of_state found
      have opens : ∀ money ∈ moneys, 0 ≤ ledger.transactionOpen money := by
        intro money member
        rcases candidates.offered money member with ⟨start, stop, offered⟩
        exact (mem_offers.mp offered).2.2.2.2.le
      have allocated : result.allocated = min (ledger.invoiceOpen invoice)
          (Transport.sum (demands (renderedRows ledger stale moneys (ledger.invoiceOpen invoice)))) :=
        computes.allocated
      have safe := computes.allocated_le.trans computes.invoiceSafe.2
      rw [allocated] at safe
      have nonneg : 0 ≤ ledger.invoiceOpen invoice := computes.invoiceSafe.1
      have filled := fillRows_rendered opens nonneg safe
      rw [← allocated] at filled
      have sameRows : (candidatePage ledger invoice moneys stale note).rows =
          renderedRows ledger stale moneys (ledger.invoiceOpen invoice) := rfl
      simp only [Page.update, found, sameRows, filled, if_true]

namespace Page

/-- What the checked rows leave of the invoice. -/
def shortfall (page : Page) : ℤ :=
  max (page.invoiceCents - (page.selectedItems.map (·.availableCents)).sum) 0

theorem shortfall_update {page : Page} {result : ConfirmationState}
    (computed : page.state = .ok result) : page.update.shortfall = result.difference := by
  have computes := computes_of_state computed
  have asked : ((demands page.update.rows).map (·.2)) = (demands page.rows).map (·.2) := by
    have keys := Transport.keys_serve result.allocated (demands page.rows)
    have viaServed : (demands page.update.rows).map (·.2) =
        ((Transport.serve result.allocated (demands page.rows)).map (·.1)).map (·.demand) := by
      rw [update_of_state computed, demands, List.map_map, List.map_map, List.map_map]
      rfl
    rw [viaServed, keys, demands, List.map_map, List.map_map, List.map_map]
    rfl
  have sum : (page.update.selectedItems.map (·.availableCents)).sum =
      Transport.sum (demands page.rows) := by
    rw [selectedItems, sum_selectedItems, Transport.sum, asked, Transport.sum]
  have kept : page.update.invoiceCents = page.invoiceCents :=
    congrArg FixedPage.invoiceCents (fixed_update page)
  rw [shortfall, sum, kept, computes.difference, computes.allocated]
  omega

end Page

/-- Confirming posts fields that are accepted, and leaves what the page shows as the difference. -/
def ConfirmsAsShown (ledger : Ledger) (invoice : Invoice) (page : Page) (actor : Actor)
    (uuid : Uuid) (now : ℤ) : Prop :=
  ∃ form after remaining, directReconciliationForm page.submission = .ok form ∧
    directConfirm actor page.submission uuid now ledger = .ok after ∧
    invoiceOpenAmount after invoice.id = .ok remaining ∧ page.differenceTotal = moneyText remaining

variable (zone) in
/-- A page that lets the user confirm keeps what it shows, just when the difference is shown. -/
theorem confirmsAsShown_iff (sound : ledger.Sound) (listed : invoice ∈ ledger.invoices)
    (normal : invoice.status = .normal) (isUuid : IsUuid invoice.id)
    (candidates : CandidateRows ledger zone invoice moneys) {stale : Bool} {note : String}
    (short : note.length ≤ 1000) (noNull : Char.ofNat 0 ∉ note.toList) {page : Page}
    (same : page.fixed = (candidatePage ledger invoice moneys stale note).fixed)
    (enabled : page.update.confirmDisabled = false) {actor : Actor} (finance : actor.IsFinance)
    {uuid : Uuid} (fresh : ∀ row ∈ ledger.reconciliations, row.id ≠ uuid) (now : ℤ) :
    ConfirmsAsShown ledger invoice page.update actor uuid now ↔
      ShownExactly page.update.shortfall := by
  rcases Page.exists_state enabled with ⟨result, computed, confirms⟩
  have computes := Page.computes_of_state computed
  have form := form_of_page isUuid candidates short noNull same computed confirms
  rcases directConfirm_of_page sound listed normal isUuid candidates short noNull same computed
    confirms finance fresh now with ⟨after, confirmed, remaining⟩
  have shown : page.update.differenceTotal = centsToText result.difference := by
    rw [Page.update_of_state computed]
  have within := computes.allocated_le
  have nonneg := computes.allocated_nonneg
  have safe := computes.invoiceSafe.2
  have difference := computes.difference
  rw [Page.shortfall_update computed, ← centsToText_iff (by omega) (by omega), ← shown]
  constructor
  · rintro ⟨_, after', remaining', -, confirmed', remainingEq, text⟩
    cases confirmed.symm.trans confirmed'
    cases remaining.symm.trans remainingEq
    exact text
  · intro text
    exact ⟨_, after, _, form, confirmed, remaining, text⟩

end Agreement

/--
The page keeps the rows that the server rendered, and whenever it lets the user confirm, the
posted fields are accepted and leave the difference that it shows: just when the difference is a
number of hundredths that survives the division by a hundred.  The page that the server renders
for an open invoice is one of these.
-/
theorem workbench_agrees_iff {ledger : Ledger} (sound : ledger.Sound) {invoice : Invoice}
    (listed : invoice ∈ ledger.invoices) (normal : invoice.status = .normal)
    (isUuid : IsUuid invoice.id) {zone : Zone} {moneys : List MoneyTransaction}
    (candidates : CandidateRows ledger zone invoice moneys) (stale : Bool) {note : String}
    (short : note.length ≤ 1000) (noNull : Char.ofNat 0 ∉ note.toList) (events : List PageEvent)
    {actor : Actor} (finance : actor.IsFinance) {uuid : Uuid}
    (fresh : ∀ row ∈ ledger.reconciliations, row.id ≠ uuid) (now : ℤ) :
    let rendered := candidatePage ledger invoice moneys stale note
    let page := events.foldl Page.handle rendered.update
    ((rendered.update.rows = rendered.rows ∧ (page.confirmDisabled = false →
        ConfirmsAsShown ledger invoice page actor uuid now)) ↔
      (page.confirmDisabled = false → ShownExactly page.shortfall)) ∧
    (0 < ledger.invoiceOpen invoice → (∀ money ∈ ledger.transactions, IsUuid money.id) →
      ∀ start stop, CandidateRows ledger zone invoice (ledger.offers zone invoice start stop) ∧
        renderPage (workbenchContext ledger zone (some invoice.id) start stop stale) invoice note =
          candidatePage ledger invoice (ledger.offers zone invoice start stop) stale note) := by
  intro rendered page
  obtain ⟨before, same, reached⟩ : ∃ before : Page, before.fixed = rendered.fixed ∧
      page = before.update := exists_update rendered events
  have rows : rendered.update.rows = rendered.rows := rows_update_candidatePage candidates stale note
  have agrees (enabled : page.confirmDisabled = false) :
      ConfirmsAsShown ledger invoice page actor uuid now ↔ ShownExactly page.shortfall := by
    rw [reached] at enabled ⊢
    exact confirmsAsShown_iff zone sound listed normal isUuid candidates short noNull same enabled
      finance fresh now
  refine ⟨⟨?_, ?_⟩, ?_⟩
  · rintro ⟨-, confirms⟩ enabled
    exact (agrees enabled).mp (confirms enabled)
  · intro shown
    exact ⟨rows, fun enabled => (agrees enabled).mpr (shown enabled)⟩
  · intro isOpen keys start stop
    exact ⟨candidateRows_offers sound keys start stop,
      renderPage_workbenchContext sound listed normal isOpen start stop stale note⟩

namespace Sample

/-- An invoice whose open amount needs doubles more than a hundredth apart. -/
def hugeInvoice : Invoice :=
  { openInvoice with totalAmount := 7036874417766402 }

def smallPayment : MoneyTransaction :=
  { openPayment with amount := 1 }

def hugeLedger : Ledger :=
  { Ledger.empty directory with invoices := [hugeInvoice], transactions := [smallPayment] }

theorem hugeLedger_sound : hugeLedger.Sound := by
  constructor <;> simp [hugeLedger, Ledger.empty, hugeInvoice, smallPayment, openInvoice,
    openPayment, Ledger.activeAmount]

/-- Two numbers of hundredths share a double, and its text is that of the other one. -/
theorem centsToText_shared : centsToText 7036874417766401 = "70,368,744,177,664.02" := by
  have shared : Doubles.quotient 7036874417766401 100 = Doubles.quotient 7036874417766402 100 := by
    decide +kernel
  have prevails : Doubles.hundredths (Doubles.quotient 7036874417766402 100) = 7036874417766402 :=
    (Doubles.hundredths_quotient_iff (by decide)).mpr (.inr (by decide))
  have cents : (7036874417766401 : ℤ).toNat = 7036874417766401 := rfl
  rw [centsToText, cents, shared, prevails]
  decide +kernel

/-- The page for an invoice and one payment, after its checkbox for a part was set. -/
def confirmedPage (ledger : Ledger) (invoice : Invoice) (money : MoneyTransaction) : Page :=
  [PageEvent.togglePartial].foldl Page.handle (candidatePage ledger invoice [money] false "").update

theorem candidateRows_single {ledger : Ledger} {zone : Zone} {invoice : Invoice}
    {money : MoneyTransaction} (isUuid : IsUuid money.id)
    (offered : money ∈ ledger.offers zone invoice (zone.localDay money.occurredAt)
      (zone.localDay money.occurredAt)) : CandidateRows ledger zone invoice [money] := by
  constructor
  case offered =>
    intro other member
    rw [List.mem_singleton.mp member]
    exact ⟨_, _, offered⟩
  case distinct => simp
  case keys =>
    intro other member
    rwa [List.mem_singleton.mp member]

end Sample

/-- An invoice that is open with 70368744177664.02 and paid with 0.01 is left with a cent less than
the page shows. -/
theorem workbench_shows_wrong_difference :
    let page := Sample.confirmedPage Sample.hugeLedger Sample.hugeInvoice Sample.smallPayment
    page.confirmDisabled = false ∧ page.differenceTotal = "70,368,744,177,664.02" ∧
      (∃ after, directConfirm Sample.finance page.submission 20 0 Sample.hugeLedger = .ok after ∧
        invoiceOpenAmount after Sample.hugeInvoice.id = .ok 7036874417766401) ∧
      ¬ConfirmsAsShown Sample.hugeLedger Sample.hugeInvoice page Sample.finance 20 0 := by
  intro page
  let before := (candidatePage Sample.hugeLedger Sample.hugeInvoice [Sample.smallPayment] false
    "").update.toggle .togglePartial
  have computed : before.state = .ok ⟨⟨1, 1, 7036874417766401⟩, true, true⟩ := by decide +kernel
  have shown : page.differenceTotal = "70,368,744,177,664.02" := by
    change before.update.differenceTotal = _
    simp only [Page.update_of_state computed, Sample.centsToText_shared]
  have accepted : ∃ after, directConfirm Sample.finance page.submission 20 0 Sample.hugeLedger =
      .ok after ∧ invoiceOpenAmount after Sample.hugeInvoice.id = .ok 7036874417766401 := by
    have candidates : CandidateRows Sample.hugeLedger Zone.utc Sample.hugeInvoice
        [Sample.smallPayment] := by
      apply Sample.candidateRows_single (by decide)
      exact mem_offers.mpr ⟨by simp [Sample.hugeLedger], rfl, rfl, ⟨le_rfl, le_rfl⟩, by decide⟩
    have fresh : ∀ row ∈ Sample.hugeLedger.reconciliations, row.id ≠ 20 := by
      simp [Sample.hugeLedger, Ledger.empty]
    exact directConfirm_of_page Sample.hugeLedger_sound (by simp [Sample.hugeLedger]) rfl
      (by decide) candidates (by decide : "".length ≤ 1000) (by decide)
      ((Page.fixed_toggle _ _).trans (Page.fixed_update _)) computed rfl (by decide) fresh 0
  refine ⟨by decide +kernel, shown, accepted, ?_⟩
  rintro ⟨form, after, remaining, -, confirmed, remainingEq, text⟩
  rcases accepted with ⟨after', confirmed', remaining'⟩
  cases confirmed.symm.trans confirmed'
  cases remaining'.symm.trans remainingEq
  rw [shown] at text
  revert text
  decide +kernel

/-- Paying 80.00 of 100.00 leaves the 20.00 that the page shows. -/
theorem workbench_agrees_on_payment :
    (Sample.confirmedPage Sample.openLedger Sample.openInvoice
        Sample.openPayment).confirmDisabled = false ∧
      ConfirmsAsShown Sample.openLedger Sample.openInvoice
        (Sample.confirmedPage Sample.openLedger Sample.openInvoice Sample.openPayment)
        Sample.finance 20 0 := by
  have candidates : CandidateRows Sample.openLedger Zone.utc Sample.openInvoice
      [Sample.openPayment] := by
    apply Sample.candidateRows_single (by decide)
    exact mem_offers.mpr ⟨by simp [Sample.openLedger], rfl, rfl, ⟨le_rfl, le_rfl⟩, by decide⟩
  have enabled : (Sample.confirmedPage Sample.openLedger Sample.openInvoice
      Sample.openPayment).confirmDisabled = false := by decide +kernel
  have finance : Sample.finance.IsFinance := by decide
  have fresh : ∀ row ∈ Sample.openLedger.reconciliations, row.id ≠ 20 := by
    simp [Sample.openLedger, Ledger.empty]
  have agrees := (workbench_agrees_iff Sample.openLedger_sound
    (by simp [Sample.openLedger] : Sample.openInvoice ∈ Sample.openLedger.invoices) rfl
    (by decide : IsUuid 1) candidates false (by decide : "".length ≤ 1000) (by decide)
    [.togglePartial] finance fresh 0).1.mpr fun _ => by decide +kernel
  exact ⟨enabled, agrees.2 enabled⟩

end Finrec
