import Finrec.Imports.Parsers

/-!
# What the importers promise

Row numbers grow along a file, and the amount of an invoice has at most two
places, so that the ledger stores it exactly.
-/

namespace Finrec

open Checks

/-- The amount of an invoice fits its column without rounding. -/
def ParsedRow.FitsColumns (row : ParsedRow) : Prop :=
  ∀ invoice, row.normalized = some (.invoice invoice) → invoice.totalAmount.places ≤ 2

structure WellParsed (rows : List ParsedRow) : Prop where
  ordered : rows.Pairwise fun earlier later => earlier.rowNumber < later.rowNumber
  fits : ∀ row ∈ rows, row.FitsColumns

/-- A parser of single rows that keeps their numbers and reads amounts that fit. -/
def KeepsNumbers (parseRow : ℕ → RawRow → Except ServiceError ParsedRow) : Prop :=
  ∀ {rowNumber rawData parsed}, parseRow rowNumber rawData = .ok parsed →
    parsed.rowNumber = rowNumber ∧ parsed.FitsColumns

theorem le_of_mem_numbered {α : Type} {start : ℕ} {items : List α} {entry : ℕ × α}
    (member : entry ∈ numbered start items) : start ≤ entry.1 := by
  induction items generalizing start with
  | nil => simp [numbered] at member
  | cons item rest ih =>
      rcases List.mem_cons.mp member with rfl | later
      · exact le_refl start
      · exact (Nat.le_succ start).trans (ih later)

theorem numbered_ordered {α : Type} (start : ℕ) (items : List α) :
    (numbered start items).Pairwise fun earlier later => earlier.1 < later.1 := by
  induction items generalizing start with
  | nil => exact .nil
  | cons item rest ih => exact .cons (fun entry later => le_of_mem_numbered later) (ih (start + 1))

theorem exists_of_mem_parseUntil {parseRow : ℕ → RawRow → Except ServiceError ParsedRow}
    {rows : List (ℕ × RawRow)} {parsed : ParsedRow}
    (member : parsed ∈ (parseUntil parseRow rows).1) :
    ∃ row ∈ rows, parseRow row.1 row.2 = .ok parsed := by
  induction rows with
  | nil => simp [parseUntil] at member
  | cons row rest ih =>
      simp only [parseUntil] at member
      split at member
      · simp at member
      · rename_i first succeeded
        rcases List.mem_cons.mp member with rfl | later
        · exact ⟨row, List.mem_cons_self, succeeded⟩
        · rcases ih later with ⟨other, otherMem, read⟩
          exact ⟨other, List.mem_cons_of_mem _ otherMem, read⟩

theorem mem_parseUntil {parseRow : ℕ → RawRow → Except ServiceError ParsedRow}
    (keeps : KeepsNumbers parseRow) {rows : List (ℕ × RawRow)} {parsed : ParsedRow}
    (member : parsed ∈ (parseUntil parseRow rows).1) :
    parsed.FitsColumns ∧ ∃ row ∈ rows, row.1 = parsed.rowNumber := by
  rcases exists_of_mem_parseUntil member with ⟨row, rowMem, read⟩
  exact ⟨(keeps read).2, row, rowMem, (keeps read).1.symm⟩

theorem parseUntil_wellParsed {parseRow : ℕ → RawRow → Except ServiceError ParsedRow}
    (keeps : KeepsNumbers parseRow) {rows : List (ℕ × RawRow)}
    (ordered : rows.Pairwise fun earlier later => earlier.1 < later.1) :
    WellParsed (parseUntil parseRow rows).1 := by
  refine ⟨?_, fun row member => (mem_parseUntil keeps member).1⟩
  induction rows with
  | nil => exact .nil
  | cons row rest ih =>
      rw [List.pairwise_cons] at ordered
      simp only [parseUntil]
      split
      · exact .nil
      · rename_i first succeeded
        refine .cons (fun parsed later => ?_) (ih ordered.2)
        rcases mem_parseUntil keeps later with ⟨-, other, otherMem, same⟩
        rw [(keeps succeeded).1, ← same]
        exact ordered.1 other otherMem

theorem wellParsed_nil : WellParsed [] :=
  ⟨.nil, by simp⟩

theorem ParsedRow.FitsColumns.none {rowNumber : ℕ} {rawData : RawData} {issues : List RowIssue} :
    (ParsedRow.mk rowNumber rawData none issues).FitsColumns := by
  intro invoice found
  simp at found

theorem ParsedRow.FitsColumns.transaction {rowNumber : ℕ} {rawData : RawData} {issues : List RowIssue}
    {row : NormalizedTransactionRow} :
    (ParsedRow.mk rowNumber rawData (some (.transaction row)) issues).FitsColumns := by
  intro invoice found
  simp at found

theorem invalidRow_keeps (env : Env) (rowNumber : ℕ) (rawData : RawRow) (issue : RowIssue) :
    (invalidRow env rowNumber rawData issue).rowNumber = rowNumber ∧
      (invalidRow env rowNumber rawData issue).FitsColumns :=
  ⟨rfl, .none⟩

namespace TaxInvoice

theorem places_of_parseAmount {env : Env} {cell : Cell} {amount : Decimal}
    (parsed : parseAmount env cell = some amount) : amount.places ≤ 2 := by
  simp only [parseAmount] at parsed
  split at parsed
  · split_ifs at parsed with fits
    cases parsed
    exact fits.2.1
  · simp at parsed

/-- A row is an error row or an invoice. -/
theorem parseRow_eq_ok {env : Env} {companyTaxId : String} {rowNumber : ℕ} {rawData : RawRow}
    {parsed : ParsedRow} (succeeded : parseRow env companyTaxId rowNumber rawData = .ok parsed) :
    (∃ issue, parsed = invalidRow env rowNumber rawData issue) ∨
      ∃ invoice, parsed = ⟨rowNumber, .json (env.jsonText rawData), some (.invoice invoice), []⟩ ∧
        invoice.totalAmount.places ≤ 2 := by
  simp only [parseRow] at succeeded
  split at succeeded
  · cases succeeded
    exact .inl ⟨_, rfl⟩
  simp only [bind_eq_ok] at succeeded
  rcases succeeded with ⟨amountCell, -, succeeded⟩
  split at succeeded
  · cases succeeded
    exact .inl ⟨_, rfl⟩
  rename_i totalAmount amountParsed
  simp only [bind_eq_ok] at succeeded
  rcases succeeded with ⟨dateCell, -, succeeded⟩
  split at succeeded
  · cases succeeded
    exact .inl ⟨_, rfl⟩
  split at succeeded
  · cases succeeded
    exact .inl ⟨_, rfl⟩
  split at succeeded
  · cases succeeded
    exact .inl ⟨_, rfl⟩
  · cases succeeded
    exact .inr ⟨_, rfl, places_of_parseAmount amountParsed⟩

theorem parseRow_keeps (env : Env) (companyTaxId : String) :
    KeepsNumbers (parseRow env companyTaxId) := by
  intro rowNumber rawData parsed succeeded
  rcases parseRow_eq_ok succeeded with ⟨issue, rfl⟩ | ⟨invoice, rfl, places⟩
  · exact invalidRow_keeps ..
  · refine ⟨rfl, fun other found => ?_⟩
    simp only [Option.some.injEq, Normalized.invoice.injEq] at found
    subst found
    exact places

theorem parse_wellParsed (env : Env) (content : List UInt8) : WellParsed (parse env content).1 := by
  simp only [parse]
  split
  · exact wellParsed_nil
  · rename_i rows read
    refine parseUntil_wellParsed (parseRow_keeps env _) ?_
    simp only [iterSheetRows, bind_eq_ok] at read
    rcases read with ⟨workbook, -, sheet, -, same⟩
    cases same
    exact numbered_ordered ..

end TaxInvoice

theorem CsvUtils.fitsMoney_of_parseDecimal {env : Env} {blankAsZero : Bool} {cell : Cell}
    {number : Decimal} (parsed : parseDecimal env blankAsZero cell = .ok number) :
    FitsMoney number := by
  simp only [parseDecimal] at parsed
  split at parsed
  · cases parsed
    decide
  · split at parsed
    · split_ifs at parsed with overflows fits
      cases parsed
      exact fits
    · cases parsed

namespace AgriculturalBank

theorem fitsMoney_of_parseBankAmount {env : Env} {income expense : Cell}
    {direction : MoneyDirection} {amount : Decimal}
    (parsed : parseBankAmount env income expense = .ok (direction, amount)) : FitsMoney amount := by
  simp only [parseBankAmount, bind_eq_ok] at parsed
  rcases parsed with ⟨incomeAmount, incomeParsed, expenseAmount, expenseParsed, parsed⟩
  split_ifs at parsed
  · cases parsed
    exact CsvUtils.fitsMoney_of_parseDecimal incomeParsed
  · cases parsed
    exact CsvUtils.fitsMoney_of_parseDecimal expenseParsed

/-- A row is an error row, or a transaction of the account with a balance. -/
theorem parseRow_eq_ok {env : Env} {accountIdentifier : String} {rowNumber : ℕ} {rawData : RawRow}
    {parsed : ParsedRow} (succeeded : parseRow env accountIdentifier rowNumber rawData = .ok parsed) :
    (∃ issue, parsed = invalidRow env rowNumber rawData issue) ∨
      ∃ money balance, parsed = ⟨rowNumber, .json (env.jsonText rawData),
          some (.transaction money), []⟩ ∧
        money.channel = .bank ∧ FitsMoney money.amount ∧ money.balanceAfter = some balance ∧
        FitsMoney balance := by
  simp only [parseRow, bind_eq_ok, exceptInvalid_eq_ok, Except.ok.injEq] at succeeded
  rcases succeeded with ⟨income, -, expense, -, ⟨⟨direction, amount⟩, amountParsed, time, -, rest⟩ |
    ⟨message, -, same⟩⟩
  · rcases rest with ⟨occurredAt, -, balanceCell, -, rest⟩ | ⟨message, -, same⟩
    · rcases rest with ⟨balance, balanceParsed, name, -, account, -, summary, -, same⟩ |
        ⟨message, -, same⟩
      · exact .inr ⟨_, balance, same.symm, rfl, fitsMoney_of_parseBankAmount amountParsed, rfl,
          CsvUtils.fitsMoney_of_parseDecimal balanceParsed⟩
      · exact .inl ⟨_, same.symm⟩
    · exact .inl ⟨_, same.symm⟩
  · exact .inl ⟨_, same.symm⟩

theorem parseRow_keeps (env : Env) (accountIdentifier : String) :
    KeepsNumbers (parseRow env accountIdentifier) := by
  intro rowNumber rawData parsed succeeded
  rcases parseRow_eq_ok succeeded with ⟨issue, rfl⟩ | ⟨money, balance, rfl, -⟩
  · exact invalidRow_keeps ..
  · exact ⟨rfl, .transaction⟩

theorem parse_wellParsed (env : Env) (content : List UInt8) : WellParsed (parse env content).1 := by
  simp only [parse]
  split
  · exact wellParsed_nil
  · refine parseUntil_wellParsed (parseRow_keeps env _) ?_
    rw [List.pairwise_map]
    exact (numbered_ordered ..).filter _

end AgriculturalBank

namespace Wechat

/-- A row is an error row or a transaction without a balance. -/
theorem parseRow_eq_ok {env : Env} {rowNumber : ℕ} {rawData : RawRow} {parsed : ParsedRow}
    (succeeded : parseRow env rowNumber rawData = .ok parsed) :
    (∃ issue, parsed = invalidRow env rowNumber rawData issue) ∨
      ∃ money, parsed = ⟨rowNumber, .json (env.jsonText rawData), some (.transaction money), []⟩ ∧
        money.channel = .wechat ∧ FitsMoney money.amount := by
  simp only [parseRow] at succeeded
  split at succeeded
  · cases succeeded
    exact .inl ⟨_, rfl⟩
  split at succeeded
  · cases succeeded
    exact .inl ⟨_, rfl⟩
  simp only [exceptInvalid_eq_ok, parseAmounts, bind_eq_ok, Except.ok.injEq] at succeeded
  rcases succeeded with ⟨moment, ⟨occurredAt, -, amount, amountParsed, -, -, paired⟩, same⟩ |
    ⟨message, -, same⟩
  · cases paired
    exact .inr ⟨_, same.symm, rfl, CsvUtils.fitsMoney_of_parseDecimal amountParsed⟩
  · exact .inl ⟨_, same.symm⟩

theorem parseRow_keeps (env : Env) : KeepsNumbers (parseRow env) := by
  intro rowNumber rawData parsed succeeded
  rcases parseRow_eq_ok succeeded with ⟨issue, rfl⟩ | ⟨money, rfl, -⟩
  · exact invalidRow_keeps ..
  · exact ⟨rfl, .transaction⟩

theorem parse_wellParsed (env : Env) (content : List UInt8) : WellParsed (parse env content).1 := by
  simp only [parse]
  split
  · exact wellParsed_nil
  split
  · exact wellParsed_nil
  · refine parseUntil_wellParsed (parseRow_keeps env) ?_
    rw [List.pairwise_map]
    exact (numbered_ordered ..).filter _

end Wechat

/-- Every importer of the registry parses into well-parsed rows. -/
theorem defaultParsers_wellParsed {env : Env} {parser : Importer}
    (registered : parser ∈ defaultParsers env) (content : List UInt8) :
    WellParsed (parser.parse content).1 := by
  simp only [defaultParsers, List.mem_cons, List.not_mem_nil, or_false] at registered
  rcases registered with rfl | rfl | rfl
  · exact TaxInvoice.parse_wellParsed env content
  · exact AgriculturalBank.parse_wellParsed env content
  · exact Wechat.parse_wellParsed env content

theorem FitsMoney.roundedCents_le {number : Decimal} (fits : FitsMoney number) :
    |number.roundedCents| ≤ maxMoneyCents := by
  have exactly := Decimal.isCents_roundedCents fits.1
  unfold Decimal.IsCents at exactly
  have scaled : |number.roundedCents| * 10 ^ number.places = |number.coefficient| * 100 := by
    have absolute := congrArg abs exactly
    rw [abs_mul, abs_mul, abs_of_pos (by positivity : (0 : ℤ) < 10 ^ number.places)] at absolute
    exact absolute.symm
  apply le_of_mul_le_mul_right _ (by positivity : (0 : ℤ) < 10 ^ number.places)
  rw [scaled]
  exact fits.2

/-- A bank transaction comes with a balance that its column holds. -/
def NormalizedTransactionRow.Balanced (row : NormalizedTransactionRow) : Prop :=
  row.channel = .bank → ∃ balance, row.balanceAfter = some balance ∧ FitsMoney balance

/-- Every importer of the registry reads the balances of bank transactions. -/
theorem defaultParsers_balanced {env : Env} {parser : Importer}
    (registered : parser ∈ defaultParsers env) {content : List UInt8} {parsed : ParsedRow}
    (member : parsed ∈ (parser.parse content).1) {money : NormalizedTransactionRow}
    (isMoney : parsed.normalized = some (.transaction money)) : money.Balanced := by
  simp only [defaultParsers, List.mem_cons, List.not_mem_nil, or_false] at registered
  rcases registered with rfl | rfl | rfl
  · change parsed ∈ (TaxInvoice.parse env content).1 at member
    simp only [TaxInvoice.parse] at member
    split at member
    · cases member
    · rcases exists_of_mem_parseUntil member with ⟨row, -, read⟩
      rcases TaxInvoice.parseRow_eq_ok read with ⟨issue, rfl⟩ | ⟨invoice, rfl, -⟩
      · cases isMoney
      · cases isMoney
  · change parsed ∈ (AgriculturalBank.parse env content).1 at member
    simp only [AgriculturalBank.parse] at member
    split at member
    · cases member
    · rcases exists_of_mem_parseUntil member with ⟨row, -, read⟩
      rcases AgriculturalBank.parseRow_eq_ok read with ⟨issue, rfl⟩ |
        ⟨other, balance, rfl, -, -, found, fits⟩
      · cases isMoney
      · cases isMoney
        exact fun _ => ⟨balance, found, fits⟩
  · change parsed ∈ (Wechat.parse env content).1 at member
    simp only [Wechat.parse] at member
    split at member
    · cases member
    split at member
    · cases member
    · rcases exists_of_mem_parseUntil member with ⟨row, -, read⟩
      rcases Wechat.parseRow_eq_ok read with ⟨issue, rfl⟩ | ⟨other, rfl, channel, -⟩
      · cases isMoney
      · cases isMoney
        rw [NormalizedTransactionRow.Balanced, channel]
        intro impossible
        cases impossible

end Finrec
