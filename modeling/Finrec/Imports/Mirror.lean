import Finrec.Imports.Documents

/-!
# The rows of a file mirror the ledger

Staging compares a row with the rows it has already seen, as if they were
posted; confirming compares it with the ledger, where they are.  The two agree as
long as the seen rows mirror the ledger: under the key of a seen row the ledger has
a record with the fields and the status of that row, and under any other key it
has what it had when the file was staged.
-/

namespace Finrec

open Checks

namespace Ledger

/-- What the ledger has under a key. -/
def underKey (ledger : Ledger) : DuplicateKey → Option Invoice × Bool
  | .invoice invoiceNumber sellerTaxId => (ledger.invoiceOf? invoiceNumber sellerTaxId, false)
  | .transaction fingerprint => (none, ledger.hasFingerprint fingerprint)

/-- The record under a key agrees with a row. -/
def Records (ledger : Ledger) : DuplicateKey → Normalized → Prop
  | .invoice invoiceNumber sellerTaxId, .invoice row => ∃ invoice,
      ledger.invoiceOf? invoiceNumber sellerTaxId = some invoice ∧
        ledger.BusinessFieldsMatch invoice row ∧ invoice.status = row.status
  | .transaction fingerprint, .transaction _ => ledger.hasFingerprint fingerprint = true
  | _, _ => False

variable {ledger after : Ledger}

theorem BusinessFieldsMatch.congr {invoice later : Invoice} {row : NormalizedInvoiceRow}
    (documents : after.documents = ledger.documents)
    (same : later = { invoice with status := later.status })
    (fieldsMatch : ledger.BusinessFieldsMatch invoice row) : after.BusinessFieldsMatch later row := by
  rcases fieldsMatch with ⟨fields, names⟩
  have source : after.sourceData later = ledger.sourceData invoice := by
    refine sourceData_congr documents ?_ ?_ <;> rw [same]
  refine ⟨?_, source ▸ names⟩
  rw [same]
  exact fields

theorem Records.congr {key : DuplicateKey} {normalized : Normalized}
    (documents : after.documents = ledger.documents)
    (same : after.underKey key = ledger.underKey key) (records : ledger.Records key normalized) :
    after.Records key normalized := by
  cases key with
  | invoice invoiceNumber sellerTaxId =>
      cases normalized with
      | invoice row =>
          rcases records with ⟨invoice, found, fieldsMatch, status⟩
          refine ⟨invoice, ?_, fieldsMatch.congr documents rfl, status⟩
          exact (congrArg Prod.fst same).trans found
      | transaction row => exact records.elim
  | transaction fingerprint =>
      cases normalized with
      | invoice row => exact records.elim
      | transaction row => exact (congrArg Prod.snd same).trans records

/-- An invoice with the fields of one row has those of another just when the rows agree. -/
theorem businessFieldsMatch_iff {invoice : Invoice} {names : String × String}
    {previous row : NormalizedInvoiceRow} (named : ledger.sourceNames invoice = some names)
    (fieldsMatch : ledger.BusinessFieldsMatch invoice previous) :
    ledger.BusinessFieldsMatch invoice row ↔ SameBusinessFields previous row := by
  rcases fieldsMatch with ⟨⟨direction, number, seller, buyer, issued, total⟩, matched⟩
  rw [namesMatch_sourceData_iff named] at matched
  simp only [BusinessFieldsMatch, SameBusinessFields, namesMatch_sourceData_iff named, matched,
    direction, number, seller, buyer, issued, Decimal.same_iff_isCents total, Prod.mk.injEq]
  tauto

/-- The disposition of a row is about what the ledger has under its key. -/
theorem formalDispositionFor_congr {env : Env} {key : DuplicateKey} {normalized : Normalized}
    (keyed : duplicateKey env normalized = .ok key)
    (same : after.underKey key = ledger.underKey key)
    (sources : ∀ invoice ∈ ledger.invoices, after.sourceData invoice = ledger.sourceData invoice) :
    after.formalDispositionFor env normalized = ledger.formalDispositionFor env normalized := by
  cases normalized with
  | invoice row =>
      cases keyed
      have sameInvoice : after.invoiceOf? row.invoiceNumber row.sellerTaxId =
          ledger.invoiceOf? row.invoiceNumber row.sellerTaxId := congrArg Prod.fst same
      simp only [formalDispositionFor, sameInvoice]
      cases found : ledger.invoiceOf? row.invoiceNumber row.sellerTaxId with
      | none => rfl
      | some invoice =>
          have sameMatch : after.BusinessFieldsMatch invoice row ↔
              ledger.BusinessFieldsMatch invoice row := by
            simp only [BusinessFieldsMatch, sources invoice (invoiceOf?_eq_some found).1]
          simp only [invoiceDisposition, sameMatch]
  | transaction row =>
      simp only [duplicateKey] at keyed
      cases computed : transactionFingerprint env row with
      | error error => simp [computed, Except.map] at keyed
      | ok fingerprint =>
          rw [computed] at keyed
          cases keyed
          have sameFingerprint : after.hasFingerprint fingerprint =
              ledger.hasFingerprint fingerprint := congrArg Prod.snd same
          simp only [formalDispositionFor, computed, bind, Except.bind, sameFingerprint]

/-- A row that the ledger calls a duplicate agrees with the record under its key. -/
theorem records_of_duplicate {env : Env} {key : DuplicateKey} {normalized : Normalized}
    {existing : Option Invoice} (keyed : duplicateKey env normalized = .ok key)
    (found : ledger.formalDispositionFor env normalized = .ok (.duplicate, existing)) :
    ledger.Records key normalized := by
  cases normalized with
  | invoice row =>
      cases keyed
      simp only [formalDispositionFor] at found
      split at found
      · simp at found
      rename_i invoice isFound
      simp only [Except.ok.injEq, Prod.mk.injEq, invoiceDisposition] at found
      rcases found with ⟨disposition, -⟩
      split_ifs at disposition with fieldsMatch
      refine ⟨invoice, isFound, fieldsMatch, ?_⟩
      by_contra different
      simp only [statusDisposition, if_neg different] at disposition
      split_ifs at disposition
  | transaction row =>
      simp only [duplicateKey] at keyed
      simp only [formalDispositionFor] at found
      cases computed : transactionFingerprint env row with
      | error error => simp [computed, Except.map] at keyed
      | ok fingerprint =>
          rw [computed] at keyed found
          cases keyed
          simp only [bind, Except.bind, pure, Except.pure, Except.ok.injEq, Prod.mk.injEq] at found
          by_contra absent
          simp only [Records, Bool.not_eq_true] at absent
          simp [absent] at found

end Ledger

/-- The seen rows stand for what the ledger has more than the one the file was staged on. -/
structure Mirrors (base ledger : Ledger) (seenRows : List (DuplicateKey × Normalized)) : Prop where
  sources : ∀ invoice ∈ base.invoices, ledger.sourceData invoice = base.sourceData invoice
  unseen : ∀ key, seenRows.lookup key = none → ledger.underKey key = base.underKey key
  seen : ∀ key normalized, seenRows.lookup key = some normalized → ledger.Records key normalized

namespace Mirrors

variable {env : Env} {base ledger after : Ledger} {seenRows : List (DuplicateKey × Normalized)}
  {key : DuplicateKey} {normalized : Normalized}

/-- The comparison with the seen rows and the one with the ledger have the same outcome. -/
theorem disposition_eq (mirrors : Mirrors base ledger seenRows) (documented : ledger.Documented)
    (keyed : duplicateKey env normalized = .ok key) {disposition : Disposition}
    {status : Option InvoiceStatus}
    (staged : stagedDispositionFor env base (seenRows.lookup key) normalized =
      .ok (disposition, status)) :
    ∃ existing, ledger.formalDispositionFor env normalized = .ok (disposition, existing) := by
  cases found : seenRows.lookup key with
  | none =>
      rw [found] at staged
      have same := mirrors.unseen key found
      rw [Ledger.formalDispositionFor_congr keyed same mirrors.sources]
      cases formal : base.formalDispositionFor env normalized with
      | error error => simp [stagedDispositionFor, formal, Except.map] at staged
      | ok result =>
          simp only [stagedDispositionFor, formal, Except.map, Except.ok.injEq,
            Prod.mk.injEq] at staged
          exact ⟨result.2, by rw [← staged.1]⟩
  | some previous =>
      have records := mirrors.seen key previous found
      rw [found] at staged
      cases normalized with
      | invoice row =>
          cases keyed
          cases previous with
          | transaction previous => exact records.elim
          | invoice previous =>
              rcases records with ⟨invoice, isFound, fieldsMatch, sameStatus⟩
              rcases documented.named invoice (Ledger.invoiceOf?_eq_some isFound).1 with
                ⟨names, named⟩
              simp only [stagedDispositionFor, Except.ok.injEq, Prod.mk.injEq] at staged
              refine ⟨some invoice, ?_⟩
              simp only [Ledger.formalDispositionFor, isFound, Ledger.invoiceDisposition,
                Ledger.businessFieldsMatch_iff named fieldsMatch, sameStatus]
              rw [← staged.1, invoiceRowsDisposition]
      | transaction row =>
          simp only [duplicateKey] at keyed
          cases computed : transactionFingerprint env row with
          | error error => simp [computed, Except.map] at keyed
          | ok fingerprint =>
              rw [computed] at keyed
              cases keyed
              cases previous with
              | invoice previous => exact records.elim
              | transaction previous =>
                  simp only [stagedDispositionFor, Except.ok.injEq, Prod.mk.injEq] at staged
                  refine ⟨none, ?_⟩
                  rw [Ledger.Records] at records
                  simp only [Ledger.formalDispositionFor, computed, bind, Except.bind, records,
                    ← staged.1]
                  rfl

/-- Another row may be remembered with the record that it posted. -/
theorem remember (mirrors : Mirrors base ledger seenRows)
    (documents : after.documents = ledger.documents)
    (others : ∀ other, other ≠ key → after.underKey other = ledger.underKey other)
    (records : after.Records key normalized) :
    Mirrors base after ((key, normalized) :: seenRows) where
  sources invoice member := by
    rw [Ledger.sourceData_congr documents rfl rfl]
    exact mirrors.sources invoice member
  unseen other absent := by
    rw [List.lookup_cons] at absent
    split at absent
    · simp at absent
    · rename_i different
      rw [others other (by simpa using different)]
      exact mirrors.unseen other absent
  seen other previous found := by
    rw [List.lookup_cons] at found
    split at found
    · rename_i same
      rw [beq_iff_eq] at same
      cases found
      exact same ▸ records
    · rename_i different
      exact (mirrors.seen other previous found).congr documents (others other (by simpa using different))

end Mirrors

/-! ## Posting -/

namespace Ledger

variable {ledger : Ledger}

theorem invoiceOf?_updateInvoiceStatus (ledger : Ledger) (existing : Invoice)
    (status : InvoiceStatus) (batch : Uuid) (row : StagedRow) (actor : Uuid) (now : ℤ)
    (invoiceNumber sellerTaxId : String) :
    (ledger.updateInvoiceStatus existing status batch row actor now).invoiceOf? invoiceNumber
        sellerTaxId =
      (ledger.invoiceOf? invoiceNumber sellerTaxId).map (Invoice.withStatus existing.id status) := by
  simp only [invoiceOf?, updateInvoiceStatus, recordAudit, List.find?_map, Function.comp_def,
    Invoice.withStatus_invoiceNumber, Invoice.withStatus_sellerTaxId]

/-- A status update concerns no other key. -/
theorem underKey_updateInvoiceStatus (distinct : (ledger.invoices.map (·.id)).Nodup)
    {existing : Invoice} {invoiceNumber sellerTaxId : String}
    (found : ledger.invoiceOf? invoiceNumber sellerTaxId = some existing) {status : InvoiceStatus}
    {batch : Uuid} {row : StagedRow} {actor : Uuid} {now : ℤ} {other : DuplicateKey}
    (different : other ≠ .invoice invoiceNumber sellerTaxId) :
    (ledger.updateInvoiceStatus existing status batch row actor now).underKey other =
      ledger.underKey other := by
  cases other with
  | transaction fingerprint => rfl
  | invoice otherNumber otherSeller =>
      simp only [underKey, invoiceOf?_updateInvoiceStatus, Prod.mk.injEq, and_true]
      cases isFound : ledger.invoiceOf? otherNumber otherSeller with
      | none => rfl
      | some invoice =>
          have located := invoiceOf?_eq_some found
          have otherLocated := invoiceOf?_eq_some isFound
          have otherId : invoice.id ≠ existing.id := by
            intro sameId
            have same := List.inj_on_of_nodup_map distinct otherLocated.1 located.1 sameId
            apply different
            rw [← otherLocated.2.1, ← otherLocated.2.2, ← located.2.1, ← located.2.2, same]
          rw [Option.map_some, Invoice.withStatus, if_neg otherId]

theorem invoiceOf?_addInvoice (ledger : Ledger) (invoice : Invoice)
    (invoiceNumber sellerTaxId : String) :
    (ledger.addInvoice invoice).invoiceOf? invoiceNumber sellerTaxId =
      (ledger.invoiceOf? invoiceNumber sellerTaxId).or
        (if invoice.invoiceNumber = invoiceNumber ∧ invoice.sellerTaxId = sellerTaxId then some invoice
          else none) := by
  rw [invoiceOf?, addInvoice, List.find?_append, List.find?_singleton]
  simp [invoiceOf?]

theorem invoiceOf?_addInvoice_self (invoice : Invoice)
    (fresh : ledger.invoiceOf? invoice.invoiceNumber invoice.sellerTaxId = none) :
    (ledger.addInvoice invoice).invoiceOf? invoice.invoiceNumber invoice.sellerTaxId =
      some invoice := by
  rw [invoiceOf?_addInvoice, fresh, Option.none_or, if_pos ⟨rfl, rfl⟩]

theorem underKey_addInvoice (ledger : Ledger) (invoice : Invoice) {other : DuplicateKey}
    (different : other ≠ .invoice invoice.invoiceNumber invoice.sellerTaxId) :
    (ledger.addInvoice invoice).underKey other = ledger.underKey other := by
  cases other with
  | transaction fingerprint => rfl
  | invoice invoiceNumber sellerTaxId =>
      have otherKey : ¬(invoice.invoiceNumber = invoiceNumber ∧
          invoice.sellerTaxId = sellerTaxId) := by
        rintro ⟨rfl, rfl⟩
        exact different rfl
      simp only [underKey, invoiceOf?_addInvoice, if_neg otherKey, Option.or_none]

theorem hasFingerprint_addTransaction (ledger : Ledger) (money : MoneyTransaction)
    (fingerprint : String) :
    (ledger.addTransaction money).hasFingerprint fingerprint =
      (ledger.hasFingerprint fingerprint || decide (money.fingerprint = fingerprint)) := by
  simp [hasFingerprint, addTransaction]

theorem underKey_addTransaction (ledger : Ledger) (money : MoneyTransaction) {other : DuplicateKey}
    (different : other ≠ .transaction money.fingerprint) :
    (ledger.addTransaction money).underKey other = ledger.underKey other := by
  cases other with
  | invoice invoiceNumber sellerTaxId => rfl
  | transaction fingerprint =>
      have otherKey : money.fingerprint ≠ fingerprint := by
        rintro rfl
        exact different rfl
      simp [underKey, hasFingerprint_addTransaction, otherKey]

theorem invoiceOf?_markPosted (ledger : Ledger) (row : StagedRow) (now : ℤ)
    (invoiceNumber sellerTaxId : String) :
    (ledger.markPosted row now).invoiceOf? invoiceNumber sellerTaxId =
      ledger.invoiceOf? invoiceNumber sellerTaxId := rfl

theorem hasFingerprint_markPosted (ledger : Ledger) (row : StagedRow) (now : ℤ)
    (fingerprint : String) :
    (ledger.markPosted row now).hasFingerprint fingerprint = ledger.hasFingerprint fingerprint := rfl

theorem underKey_markPosted (ledger : Ledger) (row : StagedRow) (now : ℤ) (key : DuplicateKey) :
    (ledger.markPosted row now).underKey key = ledger.underKey key := by
  cases key <;> rfl

/-- The invoice that a row posts has the fields of the row. -/
theorem businessFieldsMatch_posted {batch : Uuid} {row : StagedRow}
    {normalized : NormalizedInvoiceRow} {totalAmount : ℤ} (key counterparty : Uuid)
    (distinct : (ledger.documents.map (·.1)).Nodup)
    (placed : ((batch, row.rowNumber), row.normalizedData) ∈ ledger.documents)
    (decoded : deserializeNormalized row.normalizedData = some (.invoice normalized))
    (fits : normalized.totalAmount.places ≤ 2)
    (stored : storedCents normalized.totalAmount = .ok totalAmount) :
    ledger.BusinessFieldsMatch
      (invoiceOfRow batch row key normalized counterparty totalAmount) normalized := by
  have total : normalized.totalAmount.IsCents totalAmount := by
    simp only [storedCents] at stored
    split_ifs at stored
    cases stored
    exact Decimal.isCents_roundedCents fits
  have source : ledger.sourceData (invoiceOfRow batch row key normalized counterparty totalAmount) =
      some row.normalizedData := (sourceData_eq_some_iff distinct).mpr placed
  refine ⟨⟨rfl, rfl, rfl, rfl, rfl, total⟩, ?_⟩
  rw [source, namesMatch_iff (names?_of_deserialize decoded)]

end Ledger

/-- The amount of an invoice row fits its column without rounding. -/
def Normalized.FitsColumns (normalized : Normalized) : Prop :=
  ∀ row, normalized = .invoice row → row.totalAmount.places ≤ 2

/-- Staging has seen some rows of the file and confirming has posted the same ones. -/
structure Lockstep (base : Ledger) (state : ConfirmState)
    (seenRows : List (DuplicateKey × Normalized)) : Prop where
  mirrors : Mirrors base state.ledger seenRows
  documented : state.ledger.Documented
  sound : state.ledger.Sound

theorem RowOutcome.sound {context : ConfirmContext} {state next : ConfirmState} {row : StagedRow}
    (sound : state.ledger.Sound) (outcome : RowOutcome context state row next) :
    next.ledger.Sound := by
  have moves : ImportMoves (fun _ => True) state.ledger next.ledger :=
    outcome.moves fun _ => trivial
  exact moves_sound sound (moves.lift id fun _ _ move => .imports move)

/-- A step for a row that is new or updates a status remembers the row. -/
theorem Lockstep.accept {base : Ledger} {context : ConfirmContext} {state next : ConfirmState}
    {seenRows : List (DuplicateKey × Normalized)} {row : StagedRow} {normalized : Normalized}
    {key : DuplicateKey} {disposition : Disposition} {existing : Option Invoice}
    (lockstep : Lockstep base state seenRows) (outcome : RowOutcome context state row next)
    (clean : row.issues = [])
    (decoded : deserializeNormalized row.normalizedData = some normalized)
    (keyed : duplicateKey context.env normalized = .ok key) (fits : normalized.FitsColumns)
    (placed : AtPlace context state.ledger row)
    (found : state.ledger.formalDispositionFor context.env normalized = .ok (disposition, existing))
    (accepted : disposition = .new ∨ disposition = .statusUpdate) :
    Lockstep base next ((key, normalized) :: seenRows) ∧
      next.newDuplicates = state.newDuplicates ∧ next.newErrors = state.newErrors := by
  have documents := outcome.documents
  have documented := outcome.documented lockstep.documented placed
  have sound := outcome.sound lockstep.sound
  cases outcome with
  | skipped issues => exact absurd clean issues
  | duplicate other otherExisting _ otherDecoded otherFound =>
      rw [decoded] at otherDecoded
      cases otherDecoded
      rw [found] at otherFound
      cases otherFound
      simp at accepted
  | conflict other otherExisting _ otherDecoded otherFound =>
      rw [decoded] at otherDecoded
      cases otherDecoded
      rw [found] at otherFound
      cases otherFound
      simp at accepted
  | statusUpdate other invoice _ otherDecoded otherFound =>
      rw [decoded] at otherDecoded
      cases otherDecoded
      cases keyed
      rcases Ledger.formalDispositionFor_statusUpdate otherFound with
        ⟨_, _, sameRow, sameInvoice, isFound, fieldsMatch, -, -⟩
      cases sameRow
      cases sameInvoice
      refine ⟨⟨lockstep.mirrors.remember documents ?_ ?_, documented, sound⟩, rfl, rfl⟩
      · intro otherKey different
        rw [Ledger.underKey_markPosted]
        exact Ledger.underKey_updateInvoiceStatus lockstep.sound.invoiceIds isFound different
      · refine ⟨invoice.withStatus invoice.id other.status, ?_,
          fieldsMatch.congr documents (Invoice.withStatus_eq ..), ?_⟩
        · simp only [Ledger.invoiceOf?_markPosted, Ledger.invoiceOf?_updateInvoiceStatus, isFound,
            Option.map_some]
        · rw [Invoice.withStatus, if_pos rfl]
  | posted other ledger _ otherDecoded otherFound inserted =>
      rw [decoded] at otherDecoded
      cases otherDecoded
      cases normalized with
      | invoice normalized =>
          cases keyed
          have isNew := (Ledger.formalDispositionFor_new otherFound).2
          rcases Ledger.postInvoice_eq_ok inserted with
            ⟨counterparty, totalAmount, -, stored, insertable, rfl⟩
          refine ⟨⟨lockstep.mirrors.remember documents ?_ ?_, documented, sound⟩, rfl, rfl⟩
          · intro otherKey different
            rw [Ledger.underKey_markPosted]
            exact Ledger.underKey_addInvoice _ _ different
          · have posted := Ledger.businessFieldsMatch_posted
              (context.supply.key row.rowNumber) counterparty.id lockstep.documented.distinct placed
              decoded (fits normalized rfl) stored
            simp only at isNew
            have isFound := Ledger.invoiceOf?_addInvoice_self (Ledger.invoiceOfRow context.batch row
              (context.supply.key row.rowNumber) normalized counterparty.id totalAmount) isNew
            exact ⟨_, isFound, posted.congr documents rfl, rfl⟩
      | transaction normalized =>
          rcases Ledger.postTransaction_eq_ok inserted with ⟨account, counterparty, fingerprint,
            amount, balance, -, -, computed, -, -, -, rfl⟩
          simp only [duplicateKey, computed, Except.map, Except.ok.injEq] at keyed
          subst keyed
          refine ⟨⟨lockstep.mirrors.remember documents ?_ ?_, documented, sound⟩, rfl, rfl⟩
          · intro otherKey different
            rw [Ledger.underKey_markPosted]
            exact Ledger.underKey_addTransaction _ _ different
          · simp [Ledger.Records, Ledger.hasFingerprint_markPosted,
              Ledger.hasFingerprint_addTransaction, Ledger.transactionOfRow]

end Finrec
