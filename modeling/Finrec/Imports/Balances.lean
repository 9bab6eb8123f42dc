import Finrec.Imports.Confirmation
import Finrec.Lib.Champions

/-!
# The balances of a confirmation

Of the rows that a bank batch posts, the latest one of each account gives a
balance; these balances are written, unless the ledger already has one at that
time, and then the two have to be equal.
-/

namespace Finrec

open Checks

def SnapshotCandidate.snapshot (batch : Uuid) (candidate : SnapshotCandidate) :
    AccountBalanceSnapshot :=
  ⟨candidate.account, candidate.occurredAt, candidate.balance.roundedCents, batch⟩

namespace Ledger

def snapshotAt? (ledger : Ledger) (account : Uuid) (asOf : ℤ) : Option AccountBalanceSnapshot :=
  ledger.snapshots.find? fun snapshot =>
    decide (snapshot.account = account ∧ snapshot.asOf = asOf)

/-- The ledger has no other balance of the account at the time of the candidate. -/
def Accepts (ledger : Ledger) (candidate : SnapshotCandidate) : Prop :=
  ∀ existing ∈ ledger.snapshotAt? candidate.account candidate.occurredAt,
    candidate.balance.IsCents existing.balance

instance (ledger : Ledger) (candidate : SnapshotCandidate) : Decidable (ledger.Accepts candidate) :=
  inferInstanceAs (Decidable (∀ existing ∈ ledger.snapshotAt? candidate.account candidate.occurredAt,
    candidate.balance.IsCents existing.balance))

/-- The ledger with the balance of a candidate, unless there is one at its time. -/
def addBalance (batch : Uuid) (ledger : Ledger) (candidate : SnapshotCandidate) : Ledger :=
  if (ledger.snapshotAt? candidate.account candidate.occurredAt).isSome then ledger
  else { ledger with snapshots := ledger.snapshots ++ [candidate.snapshot batch] }

end Ledger

section Balances

variable {ledger after : Ledger} {batch : Uuid} {candidate : SnapshotCandidate}
  {candidates : List SnapshotCandidate}

theorem offerCandidate_eq (candidates : List SnapshotCandidate) (candidate : SnapshotCandidate) :
    offerCandidate candidates candidate =
      Champions.enter (·.account) SnapshotCandidate.Replaces candidates candidate := by
  induction candidates with
  | nil => rfl
  | cons previous rest ih => simp only [offerCandidate, Champions.enter, ih]

/-- The chosen candidates are those that no other candidate of their account replaces. -/
theorem crowned_offerCandidate (offers : List SnapshotCandidate) :
    Champions.Crowned (·.account) SnapshotCandidate.Replaces offers
      (offers.foldl offerCandidate []) := by
  have same : offerCandidate = Champions.enter (·.account) SnapshotCandidate.Replaces := by
    funext candidates candidate
    exact offerCandidate_eq candidates candidate
  rw [same]
  apply Champions.crowned_foldl
  · intro candidate
    simp [SnapshotCandidate.Replaces]
  · intro candidate champion other
    unfold SnapshotCandidate.Replaces
    omega

theorem createBalanceSnapshot_eq_ok (small : |candidate.balance.roundedCents| < 10 ^ 18) :
    ledger.createBalanceSnapshot batch candidate = .ok after ↔
      ledger.Accepts candidate ∧ after = ledger.addBalance batch candidate := by
  have stored : storedCents candidate.balance = .ok candidate.balance.roundedCents :=
    if_neg (not_le.mpr small)
  unfold Ledger.createBalanceSnapshot Ledger.Accepts Ledger.addBalance Ledger.snapshotAt?
  cases found : ledger.snapshots.find? (fun snapshot =>
      decide (snapshot.account = candidate.account ∧ snapshot.asOf = candidate.occurredAt)) with
  | none =>
      simp only [stored, bind, Except.bind, pure, Except.pure, Except.ok.injEq]
      simp [eq_comm, SnapshotCandidate.snapshot]
  | some existing =>
      by_cases same : candidate.balance.IsCents existing.balance
      · simp [same, eq_comm]
      · simp [same]

/-- A balance that the ledger does not accept is a conflict. -/
theorem createBalanceSnapshot_of_not_accepts (rejected : ¬ledger.Accepts candidate) :
    ledger.createBalanceSnapshot batch candidate = .error (.rowValidation "账户余额快照冲突") := by
  simp only [Ledger.Accepts, Ledger.snapshotAt?, Option.mem_def, not_forall] at rejected
  rcases rejected with ⟨existing, found, differs⟩
  simp only [Ledger.createBalanceSnapshot, found, if_neg differs]

/-- What stands at a place after a balance was added. -/
theorem snapshotAt?_addBalance (account : Uuid) (asOf : ℤ) :
    (ledger.addBalance batch candidate).snapshotAt? account asOf =
      (ledger.snapshotAt? account asOf).or
        (if candidate.account = account ∧ candidate.occurredAt = asOf then
          some (candidate.snapshot batch) else none) := by
  by_cases here : candidate.account = account ∧ candidate.occurredAt = asOf
  · rcases here with ⟨rfl, rfl⟩
    cases found : ledger.snapshotAt? candidate.account candidate.occurredAt with
    | none =>
        rw [Ledger.addBalance, found]
        unfold Ledger.snapshotAt? at found ⊢
        simp only [Option.isSome_none, Bool.false_eq_true, if_false, List.find?_append, found]
        simp [SnapshotCandidate.snapshot]
    | some existing => simp [Ledger.addBalance, found]
  · rw [Ledger.addBalance, if_neg here, Option.or_none]
    split_ifs
    · rfl
    · have elsewhere : [candidate.snapshot batch].find? (fun snapshot =>
          decide (snapshot.account = account ∧ snapshot.asOf = asOf)) = none := by
        apply List.find?_eq_none.mpr
        intro snapshot member
        rw [List.mem_singleton.mp member, decide_eq_true_eq]
        exact here
      unfold Ledger.snapshotAt?
      simp only [List.find?_append, elsewhere, Option.or_none]

theorem snapshotAt?_foldl (account : Uuid) (asOf : ℤ) :
    (candidates.foldl (Ledger.addBalance batch) ledger).snapshotAt? account asOf =
      (ledger.snapshotAt? account asOf).or
        ((candidates.find? fun candidate =>
          decide (candidate.account = account ∧ candidate.occurredAt = asOf)).map
            (·.snapshot batch)) := by
  induction candidates generalizing ledger with
  | nil => simp
  | cons candidate rest ih =>
      rw [List.foldl_cons, ih, snapshotAt?_addBalance, Option.or_assoc]
      congr 1
      by_cases here : candidate.account = account ∧ candidate.occurredAt = asOf
      · rw [List.find?_cons_of_pos (by simpa using here), if_pos here]
        rfl
      · rw [List.find?_cons_of_neg (by simpa using here), if_neg here]
        rfl

/-- Adding a balance does not matter to the balances of other accounts. -/
theorem accepts_addBalance_of_unlisted (unlisted : candidate.account ∉ candidates.map (·.account))
    {other : SnapshotCandidate} (member : other ∈ candidates) :
    (ledger.addBalance batch candidate).Accepts other ↔ ledger.Accepts other := by
  have differs : candidate.account ≠ other.account := by
    intro same
    apply unlisted
    rw [same]
    exact List.mem_map_of_mem member
  rw [Ledger.Accepts, snapshotAt?_addBalance, if_neg (fun here => differs here.1), Option.or_none]
  rfl

/-- Balances of different accounts are written when the ledger accepts each of them. -/
theorem createBalances_eq_ok (small : ∀ candidate ∈ candidates,
      |candidate.balance.roundedCents| < 10 ^ 18)
    (distinct : (candidates.map (·.account)).Nodup) :
    candidates.foldlM (Ledger.createBalanceSnapshot batch) ledger = .ok after ↔
      (∀ candidate ∈ candidates, ledger.Accepts candidate) ∧
        after = candidates.foldl (Ledger.addBalance batch) ledger := by
  induction candidates generalizing ledger with
  | nil => simp [pure, Except.pure, eq_comm]
  | cons candidate rest ih =>
      rw [List.map_cons, List.nodup_cons] at distinct
      have others : ∀ other ∈ rest, (ledger.addBalance batch candidate).Accepts other ↔
          ledger.Accepts other := fun other member =>
        accepts_addBalance_of_unlisted distinct.1 member
      have rest := @ih (ledger.addBalance batch candidate)
        (fun other member => small other (List.mem_cons_of_mem _ member)) distinct.2
      simp only [List.foldlM_cons, bind_eq_ok,
        createBalanceSnapshot_eq_ok (small candidate List.mem_cons_self), List.forall_mem_cons,
        List.foldl_cons]
      constructor
      · rintro ⟨next, ⟨accepted, rfl⟩, later⟩
        rcases rest.mp later with ⟨acceptedRest, same⟩
        exact ⟨⟨accepted, fun other member => (others other member).mp (acceptedRest other member)⟩,
          same⟩
      · rintro ⟨⟨accepted, acceptedRest⟩, same⟩
        refine ⟨_, ⟨accepted, rfl⟩, rest.mpr ⟨?_, same⟩⟩
        exact fun other member => (others other member).mpr (acceptedRest other member)

/-- Balances of different accounts can fail only for a conflict. -/
theorem createBalances_of_not_accepts (small : ∀ candidate ∈ candidates,
      |candidate.balance.roundedCents| < 10 ^ 18)
    (distinct : (candidates.map (·.account)).Nodup)
    (rejected : ¬∀ candidate ∈ candidates, ledger.Accepts candidate) :
    candidates.foldlM (Ledger.createBalanceSnapshot batch) ledger =
      .error (.rowValidation "账户余额快照冲突") := by
  induction candidates generalizing ledger with
  | nil => exact absurd (by simp) rejected
  | cons candidate rest ih =>
      rw [List.map_cons, List.nodup_cons] at distinct
      rw [List.foldlM_cons]
      by_cases accepted : ledger.Accepts candidate
      · rw [(createBalanceSnapshot_eq_ok (small candidate List.mem_cons_self)).mpr ⟨accepted, rfl⟩]
        apply ih (fun other member => small other (List.mem_cons_of_mem _ member)) distinct.2
        intro acceptedRest
        apply rejected
        rw [List.forall_mem_cons]
        refine ⟨accepted, fun other member => ?_⟩
        exact (accepts_addBalance_of_unlisted distinct.1 member).mp (acceptedRest other member)
      · rw [createBalanceSnapshot_of_not_accepts accepted]
        rfl

/-- After the balances of a statement, a ledger accepts what it accepted before and what agrees with
them. -/
theorem accepts_foldl_addBalance (distinct : (candidates.map (·.account)).Nodup)
    (accepted : ∀ candidate ∈ candidates, ledger.Accepts candidate) {later : SnapshotCandidate} :
    (candidates.foldl (Ledger.addBalance batch) ledger).Accepts later ↔
      ledger.Accepts later ∧ ∀ candidate ∈ candidates, candidate.account = later.account →
        candidate.occurredAt = later.occurredAt →
          later.balance.IsCents candidate.balance.roundedCents := by
  unfold Ledger.Accepts at accepted ⊢
  rw [snapshotAt?_foldl]
  cases found : ledger.snapshotAt? later.account later.occurredAt with
  | some existing =>
      simp only [Option.some_or, Option.mem_def, Option.some.injEq, forall_eq']
      refine ⟨fun agrees => ⟨agrees, ?_⟩, And.left⟩
      intro candidate member sameAccount sameTime
      have known := accepted candidate member existing (by rw [sameAccount, sameTime]; exact found)
      rw [Decimal.roundedCents_eq known]
      exact agrees
  | none =>
      simp only [Option.none_or, Option.mem_def, reduceCtorEq, IsEmpty.forall_iff, implies_true,
        true_and]
      constructor
      · intro agrees candidate member sameAccount sameTime
        cases chosen : candidates.find? fun candidate =>
            decide (candidate.account = later.account ∧ candidate.occurredAt = later.occurredAt) with
        | none =>
            have missed := List.find?_eq_none.mp chosen candidate member
            simp [sameAccount, sameTime] at missed
        | some other =>
            have place := List.find?_some chosen
            simp only [decide_eq_true_eq] at place
            have same := List.inj_on_of_nodup_map distinct (List.mem_of_find?_eq_some chosen) member
              (place.1.trans sameAccount.symm)
            subst same
            exact agrees (other.snapshot batch) (by rw [chosen]; rfl)
      · intro agrees snapshot isChosen
        rcases Option.map_eq_some_iff.mp isChosen with ⟨candidate, chosen, rfl⟩
        have place := List.find?_some chosen
        simp only [decide_eq_true_eq] at place
        exact agrees candidate (List.mem_of_find?_eq_some chosen) place.1 place.2

/-- Only balances of the candidates are added. -/
theorem exists_foldl_addBalance (batch : Uuid) (ledger : Ledger)
    (candidates : List SnapshotCandidate) :
    ∃ added, (candidates.foldl (Ledger.addBalance batch) ledger).snapshots =
        ledger.snapshots ++ added ∧
      ∀ snapshot ∈ added, ∃ candidate ∈ candidates, snapshot = candidate.snapshot batch := by
  induction candidates generalizing ledger with
  | nil => exact ⟨[], (List.append_nil _).symm, by simp⟩
  | cons candidate rest ih =>
      rcases ih (ledger.addBalance batch candidate) with ⟨added, same, ofRest⟩
      have later : ∀ snapshot ∈ added, ∃ other ∈ candidate :: rest,
          snapshot = other.snapshot batch := by
        intro snapshot member
        rcases ofRest snapshot member with ⟨other, otherMem, isOf⟩
        exact ⟨other, List.mem_cons_of_mem _ otherMem, isOf⟩
      rw [List.foldl_cons, same, Ledger.addBalance]
      split_ifs
      · exact ⟨added, rfl, later⟩
      · refine ⟨candidate.snapshot batch :: added, by simp, ?_⟩
        rw [List.forall_mem_cons]
        exact ⟨⟨candidate, List.mem_cons_self, rfl⟩, later⟩

/-- The balance of every candidate stands at its place afterwards. -/
theorem exists_snapshot_foldl (distinct : (candidates.map (·.account)).Nodup)
    (accepted : ∀ candidate ∈ candidates, ledger.Accepts candidate)
    (member : candidate ∈ candidates) :
    ∃ snapshot ∈ (candidates.foldl (Ledger.addBalance batch) ledger).snapshots,
      snapshot.account = candidate.account ∧ snapshot.asOf = candidate.occurredAt ∧
        snapshot.balance = candidate.balance.roundedCents := by
  have place := @snapshotAt?_foldl ledger batch candidates candidate.account candidate.occurredAt
  cases found : ledger.snapshotAt? candidate.account candidate.occurredAt with
  | some existing =>
      rw [found, Option.some_or] at place
      have here := List.find?_some place
      rw [decide_eq_true_eq] at here
      have agrees := accepted candidate member existing found
      exact ⟨existing, List.mem_of_find?_eq_some place, here.1, here.2,
        (Decimal.roundedCents_eq agrees).symm⟩
  | none =>
      have chosen : candidates.find? (fun other => decide (other.account = candidate.account ∧
          other.occurredAt = candidate.occurredAt)) = some candidate := by
        cases first : candidates.find? fun other => decide (other.account = candidate.account ∧
            other.occurredAt = candidate.occurredAt) with
        | none =>
            have missed := List.find?_eq_none.mp first candidate member
            simp at missed
        | some other =>
            have here := List.find?_some first
            rw [decide_eq_true_eq] at here
            rw [List.inj_on_of_nodup_map distinct (List.mem_of_find?_eq_some first) member here.1]
      rw [found, chosen] at place
      exact ⟨candidate.snapshot batch, List.mem_of_find?_eq_some place, rfl, rfl, rfl⟩

/-- The places of the balances of a ledger are distinct. -/
def Ledger.Placed (ledger : Ledger) : Prop :=
  (ledger.snapshots.map fun snapshot => (snapshot.account, snapshot.asOf)).Nodup

theorem Ledger.Placed.snapshotAt?_eq_some_iff (placed : ledger.Placed) {account : Uuid} {asOf : ℤ}
    {snapshot : AccountBalanceSnapshot} :
    ledger.snapshotAt? account asOf = some snapshot ↔
      snapshot ∈ ledger.snapshots ∧ snapshot.account = account ∧ snapshot.asOf = asOf := by
  rw [← Prod.mk.injEq, ← Totals.find?_eq_some_iff placed]
  simp only [snapshotAt?, Prod.mk.injEq]

theorem Ledger.Placed.addBalance (placed : ledger.Placed) (batch : Uuid)
    (candidate : SnapshotCandidate) : (ledger.addBalance batch candidate).Placed := by
  unfold Ledger.addBalance
  split_ifs with known
  · exact placed
  · unfold Placed
    rw [List.map_append, List.nodup_append]
    refine ⟨placed, List.nodup_singleton _, ?_⟩
    rintro place member other otherMem rfl
    rcases List.mem_map.mp member with ⟨snapshot, snapshotMem, here⟩
    apply known
    rw [Option.isSome_iff_exists]
    refine ⟨snapshot, placed.snapshotAt?_eq_some_iff.mpr ⟨snapshotMem, ?_⟩⟩
    rw [List.map_singleton, List.mem_singleton] at otherMem
    rw [← Prod.mk.injEq, here, otherMem]
    rfl

theorem Ledger.Placed.foldl (placed : ledger.Placed) (batch : Uuid)
    (candidates : List SnapshotCandidate) :
    (candidates.foldl (Ledger.addBalance batch) ledger).Placed := by
  induction candidates generalizing ledger with
  | nil => exact placed
  | cons candidate rest ih => exact ih (placed.addBalance batch candidate)

theorem Ledger.accepts_congr {ledger after : Ledger} (same : after.snapshots = ledger.snapshots)
    (candidate : SnapshotCandidate) : after.Accepts candidate ↔ ledger.Accepts candidate := by
  unfold Ledger.Accepts Ledger.snapshotAt?
  rw [same]

end Balances

end Finrec
