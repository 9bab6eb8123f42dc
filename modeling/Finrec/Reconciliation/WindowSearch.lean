import Finrec.Reconciliation.Candidates

/-!
# The search for windows

`_contiguous_windows` takes the records of either side: open transactions for an
invoice, pairs of an invoice and its open amount for a transaction.  The amounts
are cents, so the running total is exact.
-/

namespace Finrec

/-- A record of the search; the two cases are told apart by `isinstance(..., tuple)`. -/
inductive WindowRecord where
  | transaction (record : AvailableTransaction)
  | invoice (record : Invoice × ℤ)
deriving DecidableEq

def WindowRecord.openAmount : WindowRecord → ℤ
  | .transaction record => record.openAmount
  | .invoice record => record.2

/-- `_contiguous_windows`. -/
def contiguousWindows (items : List WindowRecord) (target : ℤ) : List (List WindowRecord × ℤ) :=
  Windows.contiguous WindowRecord.openAmount target items

/-- The search of `transaction_candidates`. -/
theorem contiguousWindows_transactions (items : List AvailableTransaction) (target : ℤ) :
    contiguousWindows (items.map .transaction) target =
      (Windows.contiguous (·.openAmount) target items).map fun found =>
        (found.1.map .transaction, found.2) :=
  Windows.contiguous_map WindowRecord.transaction WindowRecord.openAmount target items

/-- The search of `invoice_candidates`. -/
theorem contiguousWindows_invoices (items : List (Invoice × ℤ)) (target : ℤ) :
    contiguousWindows (items.map .invoice) target =
      (Windows.contiguous (·.2) target items).map fun found =>
        (found.1.map .invoice, found.2) :=
  Windows.contiguous_map WindowRecord.invoice WindowRecord.openAmount target items

/-- The segments with the target as their sum, in the order of their starts. -/
structure FindsWindows (items : List WindowRecord) (target : ℤ)
    (found : List (List WindowRecord × ℤ)) (spans : List (ℕ × ℕ)) : Prop where
  yielded : found = spans.map fun span => ((items.drop span.1).take (span.2 + 1 - span.1), target)
  ordered : spans.Pairwise fun left right => left.1 < right.1
  exact : ∀ first last, (first, last) ∈ spans ↔ first ≤ last ∧ last < items.length ∧
    (((items.drop first).take (last + 1 - first)).map (·.openAmount)).sum = target

/-- The search finds every segment with the target as its sum and no other, each once, and one for
a start at most.  It is the search of `transaction_candidates` where the records are open
transactions, and that of `invoice_candidates` where they are pairs. -/
theorem window_search_exact (items : List WindowRecord) (target : ℤ)
    (positive : ∀ item ∈ items, 0 < item.openAmount) :
    (∃ spans, FindsWindows items target (contiguousWindows items target) spans) ∧
    (∀ moneys : List AvailableTransaction, items = moneys.map .transaction →
      contiguousWindows items target =
        (Windows.contiguous (·.openAmount) target moneys).map fun found =>
          (found.1.map .transaction, found.2)) ∧
    ∀ available : List (Invoice × ℤ), items = available.map .invoice →
      contiguousWindows items target =
        (Windows.contiguous (·.2) target available).map fun found =>
          (found.1.map .invoice, found.2) := by
  refine ⟨⟨Windows.spans (·.openAmount) target items, ?_, ?_, ?_⟩, ?_, ?_⟩
  · exact Windows.contiguous_eq_spans positive
  · exact Windows.pairwise_spans positive
  · intro first last
    exact Windows.mem_spans_iff
  · rintro moneys rfl
    exact contiguousWindows_transactions moneys target
  · rintro available rfl
    exact contiguousWindows_invoices available target

namespace Sample

/-- Four open transactions; two windows of them overlap in one. -/
def openMoneys : List AvailableTransaction :=
  [⟨1, 10, 300⟩, ⟨2, 20, 200⟩, ⟨3, 30, 300⟩, ⟨4, 40, 500⟩]

end Sample

open Sample in
theorem window_search_exact_overlap :
    Windows.contiguous (·.openAmount) 500 openMoneys = [(openMoneys.take 2, 500),
      ((openMoneys.drop 1).take 2, 500), (openMoneys.drop 3, 500)] ∧
    (∃ spans, FindsWindows (openMoneys.map .transaction) 500
      (contiguousWindows (openMoneys.map .transaction) 500) spans) ∧
    contiguousWindows (openMoneys.map .transaction) 500 =
      (Windows.contiguous (·.openAmount) 500 openMoneys).map fun found =>
        (found.1.map .transaction, found.2) := by
  obtain ⟨exact, ofTransactions, -⟩ :=
    window_search_exact (openMoneys.map .transaction) 500 (by decide)
  exact ⟨by decide, exact, ofTransactions openMoneys rfl⟩

end Finrec
