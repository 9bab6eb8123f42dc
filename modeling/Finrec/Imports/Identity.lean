import Finrec.Imports.Types
import Finrec.Ledger.Operations
import Finrec.Lib.Joined
import Finrec.Lib.Ordinals

/-!
# The identity of a transaction

A fingerprint hashes fields that are joined with a control character.  None of the
fields can contain it, because white space is collapsed, so the fields can be
read off the joined text: two fingerprints are equal exactly for rows that have
the same identity.
-/

namespace Finrec

open Calendar Checks

/-- What the import relies on in Unicode: case folding makes no control character, and it leaves
lowercase words of ASCII alone, as the normal form does. -/
structure Env.FollowsUnicode (env : Env) : Prop where
  separator : ∀ text, '\x1f' ∈ (env.casefold text).toList → '\x1f' ∈ text.toList
  lowercase : ∀ text : String, (∀ character ∈ text.toList, 'a' ≤ character ∧ character ≤ 'z') →
    env.nfkc text = text ∧ env.casefold text = text

/-- The identity of a transaction: its id in an account, or its particulars. -/
def SameIdentity (env : Env) (left right : NormalizedTransactionRow) : Prop :=
  canonicalText env left.channel.value = canonicalText env right.channel.value ∧
    canonicalText env left.accountIdentifier = canonicalText env right.accountIdentifier ∧
    ((canonicalText env left.transactionId ≠ "" ∧ canonicalText env right.transactionId ≠ "" ∧
        canonicalText env left.transactionId = canonicalText env right.transactionId) ∨
      (canonicalText env left.transactionId = "" ∧ canonicalText env right.transactionId = "" ∧
        left.occurredAt.instant = right.occurredAt.instant ∧ left.direction = right.direction ∧
        left.amount.roundedCents = right.amount.roundedCents ∧
        canonicalText env left.counterpartyName = canonicalText env right.counterpartyName ∧
        canonicalText env left.counterpartyAccount = canonicalText env right.counterpartyAccount))

instance (env : Env) (left right : NormalizedTransactionRow) :
    Decidable (SameIdentity env left right) :=
  inferInstanceAs (Decidable (_ ∧ _))

/-! ## Canonical texts -/

/-- The pieces of a split are free of separators, if the part that was read before is. -/
theorem separatorFree_splitOnPPrepend {separates : Char → Bool} {text read : List Char}
    (free : ∀ character ∈ read, separates character = false) :
    ∀ piece ∈ text.splitOnPPrepend separates read, ∀ character ∈ piece,
      separates character = false := by
  induction text generalizing read with
  | nil => simpa [List.splitOnPPrepend_nil] using free
  | cons head rest ih =>
      rw [List.splitOnPPrepend_cons_eq_if]
      split_ifs with isSeparator
      · intro piece member
        rcases List.mem_cons.mp member with rfl | later
        · simpa using free
        · exact ih (by simp) piece later
      · apply ih
        rw [List.forall_mem_cons]
        exact ⟨Bool.eq_false_of_not_eq_true isSeparator, free⟩

theorem mem_intercalate {separator : List Char} {texts : List (List Char)} {character : Char}
    (member : character ∈ separator.intercalate texts) :
    character ∈ separator ∨ ∃ text ∈ texts, character ∈ text := by
  induction texts with
  | nil => cases member
  | cons first rest ih =>
      cases rest with
      | nil =>
          rw [List.intercalate_singleton] at member
          exact .inr ⟨first, List.mem_singleton_self first, member⟩
      | cons second others =>
          rw [List.intercalate_cons_cons, List.append_assoc, List.mem_append, List.mem_append]
            at member
          rcases member with inFirst | inSeparator | inRest
          · exact .inr ⟨first, List.mem_cons_self, inFirst⟩
          · exact .inl inSeparator
          · rcases ih inRest with inSeparator | ⟨text, textMem, inText⟩
            · exact .inl inSeparator
            · exact .inr ⟨text, List.mem_cons_of_mem _ textMem, inText⟩

/-- The only white space in a collapsed text is the blank. -/
theorem separator_not_mem_collapseSpace (text : String) :
    '\x1f' ∉ (collapseSpace text).toList := by
  intro member
  unfold collapseSpace at member
  rw [String.toList_intercalate] at member
  rcases mem_intercalate member with blank | ⟨piece, pieceMem, inPiece⟩
  · exact absurd blank (by decide)
  · rw [List.map_map] at pieceMem
    rcases List.mem_map.mp pieceMem with ⟨word, wordMem, rfl⟩
    rw [Function.comp_apply, String.toList_ofList] at inPiece
    have noSpace : isPythonSpace '\x1f' = false :=
      separatorFree_splitOnPPrepend (by simp) _ (List.mem_filter.mp wordMem).1 _ inPiece
    exact absurd noSpace (by decide)

section Canonical

variable {env : Env}

theorem Env.FollowsUnicode.separator_not_mem (unicode : env.FollowsUnicode) (text : String) :
    '\x1f' ∉ (canonicalText env text).toList := by
  intro member
  exact separator_not_mem_collapseSpace _ (unicode.separator _ member)

/-- The two directions stay different. -/
theorem Env.FollowsUnicode.direction_inj (unicode : env.FollowsUnicode)
    {left right : MoneyDirection} :
    canonicalText env left.value = canonicalText env right.value ↔ left = right := by
  have own (direction : MoneyDirection) : canonicalText env direction.value = direction.value := by
    have lowercase : ∀ character ∈ direction.value.toList, 'a' ≤ character ∧ character ≤ 'z' := by
      cases direction <;> simp [MoneyDirection.value]
    have collapsed : collapseSpace direction.value = direction.value := by
      cases direction <;> decide
    unfold canonicalText
    rw [(unicode.lowercase _ lowercase).1, collapsed, (unicode.lowercase _ lowercase).2]
  rw [own, own]
  constructor
  · cases left <;> cases right <;> decide
  · rintro rfl
    rfl

end Canonical

/-! ## The fields of a fingerprint -/

theorem separator_not_iso : ¬DateTime.IsIsoCharacter '\x1f' := by
  decide

theorem isIsoCharacter_of_mem_plain (number : Decimal) :
    ∀ character ∈ number.plain, DateTime.IsIsoCharacter character := by
  intro character member
  simp only [Decimal.plain, List.mem_append] at member
  rcases member with (sign | whole) | fraction
  · split at sign
    · rw [List.mem_singleton.mp sign]
      decide
    · cases sign
  · exact .inl (Digits.isDigit_of_mem_natural whole)
  · split at fraction
    · cases fraction
    · rcases List.mem_cons.mp fraction with rfl | digits
      · decide
      · exact .inl (Digits.isDigit_of_mem_padded digits)

theorem plain_ofCents_inj {left right : ℤ} :
    (Decimal.ofCents left).plain = (Decimal.ofCents right).plain ↔ left = right := by
  constructor
  · intro same
    have read := congrArg Decimal.ofPlain? same
    rw [Decimal.ofPlain?_plain, Decimal.ofPlain?_plain, Option.some.injEq] at read
    exact congrArg Decimal.coefficient read
  · rintro rfl
    rfl

theorem separator_not_mem_quantizedText (amount : Decimal) (cents : ℤ) :
    '\x1f' ∉ (quantizedText amount cents).toList := by
  unfold quantizedText
  split_ifs
  · decide
  · rw [String.toList_ofList]
    intro member
    exact separator_not_iso (isIsoCharacter_of_mem_plain _ _ member)

/-- The text of an amount above zero is that of its hundredths. -/
theorem quantizedText_of_pos {amount : Decimal} (positive : 0 < amount.coefficient) (cents : ℤ) :
    quantizedText amount cents = String.ofList (Decimal.ofCents cents).plain := by
  unfold quantizedText
  rw [if_neg]
  rintro ⟨negative, -⟩
  exact absurd negative positive.not_gt

/-- A row that validation accepts has an amount above zero. -/
theorem positive_of_rowIssues {env : Env} {directory : Directory} {sourceKind : SourceKind}
    {row : ParsedRow} {money : NormalizedTransactionRow}
    (clean : rowIssues env directory sourceKind row = [])
    (isMoney : row.normalized = some (.transaction money)) : 0 < money.amount.coefficient := by
  simp only [rowIssues, validateParsedRow, isMoney] at clean
  split_ifs at clean
  · simp only [validateTransaction, List.append_eq_nil_iff] at clean
    have passed := clean.2.2.1.1.2
    unfold issueUnless positiveDecimal at passed
    split_ifs at passed with positive
    exact of_decide_eq_true positive
  · simp at clean

section Fields

variable {env : Env} {left right : NormalizedTransactionRow} {fields leftFields rightFields : List String}

/-- The fields of a row with an id, or of one without. -/
theorem fingerprintFields_eq_ok {row : NormalizedTransactionRow}
    (succeeded : fingerprintFields env row = .ok fields) :
    (canonicalText env row.transactionId ≠ "" ∧
        fields = ["transaction-id", canonicalText env row.channel.value,
          canonicalText env row.accountIdentifier, canonicalText env row.transactionId]) ∨
      (canonicalText env row.transactionId = "" ∧ ∃ occurredAt,
        DateTime.utcText? row.occurredAt.instant = some occurredAt ∧
        fields = ["fallback", canonicalText env row.channel.value,
          canonicalText env row.accountIdentifier, String.ofList occurredAt,
          canonicalText env row.direction.value,
          quantizedText row.amount row.amount.roundedCents,
          canonicalText env row.counterpartyName, canonicalText env row.counterpartyAccount]) := by
  simp only [fingerprintFields, quantizedCents, bind_eq_ok] at succeeded
  rcases succeeded with ⟨cents, quantized, rest⟩
  split_ifs at quantized
  cases quantized
  by_cases identified : canonicalText env row.transactionId = ""
  · rw [if_neg (not_not.mpr identified)] at rest
    simp only [bind_eq_ok, present_eq_ok, pure, Except.pure, Except.ok.injEq] at rest
    rcases rest with ⟨occurredAt, found, same⟩
    exact .inr ⟨identified, occurredAt, found, same.symm⟩
  · rw [if_pos identified] at rest
    cases rest
    exact .inl ⟨identified, rfl⟩

/-- No field contains the separator. -/
theorem separator_not_mem_fields (unicode : env.FollowsUnicode) {row : NormalizedTransactionRow}
    (succeeded : fingerprintFields env row = .ok fields) :
    fields ≠ [] ∧ ∀ field ∈ fields, '\x1f' ∉ field.toList := by
  have canonical := unicode.separator_not_mem
  rcases fingerprintFields_eq_ok succeeded with ⟨-, rfl⟩ | ⟨-, occurredAt, found, rfl⟩
  · refine ⟨by simp, ?_⟩
    simp only [List.forall_mem_cons, canonical, not_false_eq_true, true_and]
    exact ⟨by decide, by simp⟩
  · have time : '\x1f' ∉ (String.ofList occurredAt).toList := by
      rw [String.toList_ofList]
      intro member
      exact separator_not_iso (DateTime.isIsoCharacter_of_mem_utcText found _ member)
    have amount := separator_not_mem_quantizedText row.amount row.amount.roundedCents
    refine ⟨by simp, ?_⟩
    simp only [List.forall_mem_cons, canonical, time, amount, not_false_eq_true, true_and]
    exact ⟨by decide, by simp⟩

/-- The joined text determines the fields. -/
theorem preimage_inj (unicode : env.FollowsUnicode)
    (ofLeft : fingerprintFields env left = .ok leftFields)
    (ofRight : fingerprintFields env right = .ok rightFields) :
    String.intercalate "\x1f" leftFields = String.intercalate "\x1f" rightFields ↔
      leftFields = rightFields := by
  rcases separator_not_mem_fields unicode ofLeft with ⟨leftNonempty, leftFree⟩
  rcases separator_not_mem_fields unicode ofRight with ⟨rightNonempty, rightFree⟩
  exact Joined.intercalate_inj leftFree rightFree leftNonempty rightNonempty

/-- The fields determine the identity, and the identity the fields. -/
theorem fields_eq_iff (unicode : env.FollowsUnicode) (leftPositive : 0 < left.amount.coefficient)
    (rightPositive : 0 < right.amount.coefficient)
    (ofLeft : fingerprintFields env left = .ok leftFields)
    (ofRight : fingerprintFields env right = .ok rightFields) :
    leftFields = rightFields ↔ SameIdentity env left right := by
  unfold SameIdentity
  rcases fingerprintFields_eq_ok ofLeft with ⟨leftId, rfl⟩ | ⟨leftId, leftTime, leftFound, rfl⟩
  · rcases fingerprintFields_eq_ok ofRight with ⟨rightId, rfl⟩ | ⟨rightId, rightTime, rightFound, rfl⟩
    · simp [leftId, rightId]
    · simp [leftId, rightId]
  · rcases fingerprintFields_eq_ok ofRight with ⟨rightId, rfl⟩ | ⟨rightId, rightTime, rightFound, rfl⟩
    · simp [leftId, rightId]
    · have times : leftTime = rightTime ↔ left.occurredAt.instant = right.occurredAt.instant := by
        constructor
        · rintro rfl
          exact DateTime.utcText?_inj leftFound rightFound
        · intro same
          rw [same, rightFound, Option.some.injEq] at leftFound
          exact leftFound.symm
      simp only [List.cons.injEq, true_and, and_true, String.ofList_inj, times,
        unicode.direction_inj, quantizedText_of_pos leftPositive, quantizedText_of_pos rightPositive,
        plain_ofCents_inj, leftId, rightId, ne_eq, not_true_eq_false,
        false_and, false_or]

end Fields

/-- Fingerprints of amounts above zero, which validation asks for, are equal exactly for rows with
the same identity; different fields never join to the same text, and the JSON document of a row
keeps its fingerprint. -/
theorem fingerprint_identity (env : Env) (injective : Function.Injective env.sha256)
    (unicode : env.FollowsUnicode) (left right : NormalizedTransactionRow)
    {leftFields rightFields : List String} (ofLeft : fingerprintFields env left = .ok leftFields)
    (ofRight : fingerprintFields env right = .ok rightFields) :
    (0 < left.amount.coefficient → 0 < right.amount.coefficient →
        (transactionFingerprint env left = transactionFingerprint env right ↔
          SameIdentity env left right)) ∧
      (∀ directory sourceKind row, rowIssues env directory sourceKind row = [] →
        row.normalized = some (.transaction left) → 0 < left.amount.coefficient) ∧
      (String.intercalate "\x1f" leftFields = String.intercalate "\x1f" rightFields ↔
        leftFields = rightFields) ∧
      ∃ row, deserializeNormalized (serializeNormalized (.transaction left)) =
          some (.transaction row) ∧
        transactionFingerprint env row = transactionFingerprint env left := by
  refine ⟨?_, fun _ _ _ clean isMoney => positive_of_rowIssues clean isMoney,
    preimage_inj unicode ofLeft ofRight, left, ?_, rfl⟩
  · intro leftPositive rightPositive
    unfold transactionFingerprint
    simp only [ofLeft, ofRight, bind, Except.bind, pure, Except.pure, Except.ok.injEq]
    rw [injective.eq_iff, Joined.toUTF8_toList_inj, preimage_inj unicode ofLeft ofRight,
      fields_eq_iff unicode leftPositive rightPositive ofLeft ofRight]
  · exact deserializeNormalized_serializeNormalized _

namespace Sample

theorem sha256_injective (books : List Workbook) (statements : List (List Sheet)) :
    Function.Injective (env books statements).sha256 := by
  intro left right same
  have lists := String.ofList_inj.mp same
  refine List.map_injective_iff.mpr (fun byte other sameByte => ?_) lists
  have numbers := congrArg Char.toNat sameByte
  have small (byte : UInt8) : byte.toNat.isValidChar := .inl (by have := byte.toNat_lt; omega)
  unfold Char.ofNat at numbers
  rw [dif_pos (small byte), dif_pos (small other)] at numbers
  exact UInt8.toNat_inj.mp numbers

theorem followsUnicode (books : List Workbook) (statements : List (List Sheet)) :
    (env books statements).FollowsUnicode :=
  ⟨fun _ member => member, fun _ _ => ⟨rfl, rfl⟩⟩

def identityDay : Date := ⟨2026, 7, 1, by decide, by decide, by decide, by decide⟩

/-- A payment at 17:00 eight hours east of UTC. -/
def transfer (amount : Decimal) (name : String) : NormalizedTransactionRow :=
  ⟨.bank, .outflow, ⟨identityDay, 61200000000, 28800, valid_east (by decide)⟩, amount, none, "A1",
    name, "", "", ""⟩

end Sample

theorem fingerprint_identity_transfer :
    transactionFingerprint (Sample.env [] []) (Sample.transfer ⟨123, 1⟩ " Mill  A") =
      transactionFingerprint (Sample.env [] []) (Sample.transfer ⟨1230, 2⟩ "Mill A") := by
  have left : (fingerprintFields (Sample.env [] [])
      (Sample.transfer ⟨123, 1⟩ " Mill  A")).toOption.isSome := by decide +kernel
  have right : (fingerprintFields (Sample.env [] [])
      (Sample.transfer ⟨1230, 2⟩ "Mill A")).toOption.isSome := by decide +kernel
  rcases Option.isSome_iff_exists.mp left with ⟨leftFields, ofLeft⟩
  rcases Option.isSome_iff_exists.mp right with ⟨rightFields, ofRight⟩
  apply (fingerprint_identity (Sample.env [] []) (Sample.sha256_injective [] [])
    (Sample.followsUnicode [] []) _ _ (toOption_eq_some.mp ofLeft)
    (toOption_eq_some.mp ofRight)).1 (by decide) (by decide) |>.mpr
  decide +kernel

/-- Four thousandths below zero and four above are both nothing to the cent, but one has a sign. -/
theorem fingerprint_keeps_negative_zero :
    SameIdentity (Sample.env [] []) (Sample.transfer ⟨-4, 3⟩ "Mill A")
        (Sample.transfer ⟨4, 3⟩ "Mill A") ∧
      transactionFingerprint (Sample.env [] []) (Sample.transfer ⟨-4, 3⟩ "Mill A") ≠
        transactionFingerprint (Sample.env [] []) (Sample.transfer ⟨4, 3⟩ "Mill A") := by
  decide +kernel

end Finrec
