import Finrec.Lib.Totals

/-!
# The north-west corner rule

Supplies and demands are lists of keys with amounts.  The rule walks along both
lists, moves as much as it can from the first supply to the first demand, and
leaves behind what is used up.  It never moves anything from or to a record
without an amount, and when both sides add up to the same total it uses up
every record.

The proofs are inductions on the rounds.  What is left of the first records is
part of the lists, so the statements speak about arbitrary lists and the
induction hypothesis applies to the lists after a round.
-/

namespace Transport

open Totals

variable {ι κ : Type}

/-- An amount moved from a supply to a demand. -/
structure Flow (ι κ : Type) where
  supply : ι
  demand : κ
  amount : ℤ
deriving DecidableEq, Repr

/-- The cells of the rule; `fuel` bounds the number of rounds. -/
def fill : ℕ → List (ι × ℤ) → List (κ × ℤ) → List (Flow ι κ)
  | fuel + 1, (supply, supplyLeft) :: supplies, (demand, demandLeft) :: demands =>
      if supplyLeft = 0 then fill fuel supplies ((demand, demandLeft) :: demands)
      else if demandLeft = 0 then fill fuel ((supply, supplyLeft) :: supplies) demands
      else
        let amount := min supplyLeft demandLeft
        ⟨supply, demand, amount⟩ ::
          fill fuel ((supply, supplyLeft - amount) :: supplies)
            ((demand, demandLeft - amount) :: demands)
  | _, _, _ => []

/-- No record has a negative amount. -/
def Nonneg (entries : List (ι × ℤ)) : Prop :=
  ∀ entry ∈ entries, 0 ≤ entry.2

/-- The sum of the amounts of the records. -/
def sum (entries : List (ι × ℤ)) : ℤ :=
  (entries.map (·.2)).sum

theorem Nonneg.tail {entry : ι × ℤ} {entries : List (ι × ℤ)} (nonneg : Nonneg (entry :: entries)) :
    Nonneg entries :=
  fun other member => nonneg other (List.mem_cons_of_mem _ member)

theorem Nonneg.head {key : ι} {left : ℤ} {entries : List (ι × ℤ)}
    (nonneg : Nonneg ((key, left) :: entries)) : 0 ≤ left :=
  nonneg (key, left) (List.mem_cons_self ..)

theorem Nonneg.use {key : ι} {left amount : ℤ} {entries : List (ι × ℤ)}
    (nonneg : Nonneg ((key, left) :: entries)) (le : amount ≤ left) :
    Nonneg ((key, left - amount) :: entries) := by
  intro entry member
  rcases List.mem_cons.mp member with rfl | later
  · simpa using le
  · exact nonneg entry (List.mem_cons_of_mem _ later)

theorem sum_nonneg {entries : List (ι × ℤ)} (nonneg : Nonneg entries) : 0 ≤ sum entries := by
  apply List.sum_nonneg
  intro value member
  rcases List.mem_map.mp member with ⟨entry, entryMem, rfl⟩
  exact nonneg entry entryMem

/-- The record of a key after something was taken from the first record. -/
theorem exists_of_mem_use {key other : ι} {left amount otherLeft : ℤ} {entries : List (ι × ℤ)}
    (positive : 0 ≤ amount) (member : (other, otherLeft) ∈ (key, left - amount) :: entries)
    (otherPositive : 0 < otherLeft) :
    ∃ value, (other, value) ∈ (key, left) :: entries ∧ 0 < value := by
  rcases List.mem_cons.mp member with same | later
  · cases same
    exact ⟨left, List.mem_cons_self .., by omega⟩
  · exact ⟨otherLeft, List.mem_cons_of_mem _ later, otherPositive⟩

/-- Every cell moves a positive amount between records that have something left. -/
theorem of_mem_fill {fuel : ℕ} {supplies : List (ι × ℤ)} {demands : List (κ × ℤ)}
    (suppliesNonneg : Nonneg supplies) (demandsNonneg : Nonneg demands) {cell : Flow ι κ}
    (member : cell ∈ fill fuel supplies demands) :
    0 < cell.amount ∧ (∃ left, (cell.supply, left) ∈ supplies ∧ 0 < left) ∧
      ∃ left, (cell.demand, left) ∈ demands ∧ 0 < left := by
  induction fuel, supplies, demands using fill.induct with
  | case1 fuel supply supplies demand demandLeft demands ih =>
      simp only [fill, ↓reduceIte] at member
      rcases ih suppliesNonneg.tail demandsNonneg member with ⟨positive, ⟨left, leftMem, leftPos⟩, rest⟩
      exact ⟨positive, ⟨left, List.mem_cons_of_mem _ leftMem, leftPos⟩, rest⟩
  | case2 fuel supply supplyLeft supplies demand demands supplyLeftNe ih =>
      simp only [fill, supplyLeftNe, ↓reduceIte] at member
      rcases ih suppliesNonneg demandsNonneg.tail member with ⟨positive, rest, left, leftMem, leftPos⟩
      exact ⟨positive, rest, left, List.mem_cons_of_mem _ leftMem, leftPos⟩
  | case3 fuel supply supplyLeft supplies demand demandLeft demands supplyNe demandNe amount ih =>
      have supplyPos : 0 < supplyLeft := lt_of_le_of_ne suppliesNonneg.head (Ne.symm supplyNe)
      have demandPos : 0 < demandLeft := lt_of_le_of_ne demandsNonneg.head (Ne.symm demandNe)
      have amountPos : 0 < amount := lt_min supplyPos demandPos
      simp only [fill, supplyNe, demandNe, ↓reduceIte, List.mem_cons] at member
      rcases member with rfl | later
      · exact ⟨amountPos, ⟨supplyLeft, by simp, supplyPos⟩, demandLeft, by simp, demandPos⟩
      · rcases ih (suppliesNonneg.use (min_le_left _ _)) (demandsNonneg.use (min_le_right _ _)) later
          with ⟨positive, ⟨left, leftMem, leftPos⟩, left', leftMem', leftPos'⟩
        exact ⟨positive, exists_of_mem_use amountPos.le leftMem leftPos,
          exists_of_mem_use amountPos.le leftMem' leftPos'⟩
  | case4 fuel supplies demands noMatch => simp [fill] at member

/-- The keys of the records are distinct. -/
def Distinct (entries : List (ι × ℤ)) : Prop :=
  (entries.map (·.1)).Nodup

theorem Distinct.tail {entry : ι × ℤ} {entries : List (ι × ℤ)}
    (distinct : Distinct (entry :: entries)) : Distinct entries :=
  (List.nodup_cons.mp distinct).2

theorem Distinct.head {key : ι} {left : ℤ} {entries : List (ι × ℤ)}
    (distinct : Distinct ((key, left) :: entries)) : ∀ entry ∈ entries, entry.1 ≠ key := by
  intro entry member same
  apply (List.nodup_cons.mp distinct).1
  exact List.mem_map.mpr ⟨entry, member, same⟩

theorem Distinct.use {key : ι} {left other : ℤ} {entries : List (ι × ℤ)}
    (distinct : Distinct ((key, left) :: entries)) : Distinct ((key, other) :: entries) :=
  distinct

/-- A key whose record is used up takes part in no cell. -/
theorem not_mem_of_used {key : ι} {entries : List (ι × ℤ)}
    (distinct : Distinct ((key, 0) :: entries)) :
    ¬∃ left, (key, left) ∈ (key, 0) :: entries ∧ 0 < left := by
  rintro ⟨left, member, positive⟩
  rcases List.mem_cons.mp member with same | later
  · cases same
    omega
  · exact distinct.head _ later rfl

/-- No pair of records gets two cells. -/
theorem nodup_fill (fuel : ℕ) {supplies : List (ι × ℤ)} {demands : List (κ × ℤ)}
    (suppliesNonneg : Nonneg supplies) (demandsNonneg : Nonneg demands)
    (suppliesDistinct : Distinct supplies) (demandsDistinct : Distinct demands) :
    ((fill fuel supplies demands).map fun cell => (cell.supply, cell.demand)).Nodup := by
  induction fuel, supplies, demands using fill.induct with
  | case1 fuel supply supplies demand demandLeft demands ih =>
      simp only [fill, ↓reduceIte]
      exact ih suppliesNonneg.tail demandsNonneg suppliesDistinct.tail demandsDistinct
  | case2 fuel supply supplyLeft supplies demand demands supplyNe ih =>
      simp only [fill, supplyNe, ↓reduceIte]
      exact ih suppliesNonneg demandsNonneg.tail suppliesDistinct demandsDistinct.tail
  | case3 fuel supply supplyLeft supplies demand demandLeft demands supplyNe demandNe amount ih =>
      have suppliesUsed := suppliesNonneg.use (min_le_left supplyLeft demandLeft)
      have demandsUsed := demandsNonneg.use (min_le_right supplyLeft demandLeft)
      simp only [fill, supplyNe, demandNe, ↓reduceIte, List.map_cons, List.nodup_cons]
      refine ⟨?_, ih suppliesUsed demandsUsed suppliesDistinct.use demandsDistinct.use⟩
      -- The smaller of the two records is used up, so the pair cannot come again.
      intro again
      rcases List.mem_map.mp again with ⟨cell, cellMem, samePair⟩
      rcases of_mem_fill suppliesUsed demandsUsed cellMem with ⟨-, fromSupply, fromDemand⟩
      simp only [Prod.mk.injEq] at samePair
      rw [samePair.1] at fromSupply
      rw [samePair.2] at fromDemand
      rcases min_choice supplyLeft demandLeft with supplySmaller | demandSmaller
      · rw [supplySmaller, sub_self] at fromSupply
        exact not_mem_of_used suppliesDistinct.use fromSupply
      · rw [demandSmaller, sub_self] at fromDemand
        exact not_mem_of_used demandsDistinct.use fromDemand
  | case4 fuel supplies demands noMatch => simp [fill]

/-- The first record is used up. -/
def headUsed : List (ι × ℤ) → ℕ
  | (_, left) :: _ => if left = 0 then 1 else 0
  | [] => 0

/-- There are enough rounds: two for each record, and one less for each first record used up. -/
def Enough (fuel : ℕ) (supplies : List (ι × ℤ)) (demands : List (κ × ℤ)) : Prop :=
  2 * (supplies.length + demands.length) ≤ fuel + headUsed supplies + headUsed demands

theorem headUsed_le (entries : List (ι × ℤ)) : headUsed entries ≤ entries.length := by
  cases entries with
  | nil => simp [headUsed]
  | cons entry rest =>
      simp only [headUsed, List.length_cons]
      split_ifs <;> omega

/-- The amount that the cells take from a supply. -/
def supplied [DecidableEq ι] (cells : List (Flow ι κ)) (key : ι) : ℤ :=
  total (fun cell => decide (cell.supply = key)) (·.amount) cells

/-- The amount that the cells bring to a demand. -/
def demanded [DecidableEq κ] (cells : List (Flow ι κ)) (key : κ) : ℤ :=
  total (fun cell => decide (cell.demand = key)) (·.amount) cells

theorem supplied_fill_eq_zero [DecidableEq ι] {fuel : ℕ} {supplies : List (ι × ℤ)} {demands : List (κ × ℤ)}
    (suppliesNonneg : Nonneg supplies) (demandsNonneg : Nonneg demands) {key : ι}
    (absent : ∀ entry ∈ supplies, entry.1 ≠ key) :
    supplied (fill fuel supplies demands) key = 0 := by
  apply total_eq_zero
  intro cell member
  rcases of_mem_fill suppliesNonneg demandsNonneg member with ⟨-, ⟨left, leftMem, -⟩, -⟩
  exact decide_eq_false (absent _ leftMem)

theorem demanded_fill_eq_zero [DecidableEq κ] {fuel : ℕ} {supplies : List (ι × ℤ)} {demands : List (κ × ℤ)}
    (suppliesNonneg : Nonneg supplies) (demandsNonneg : Nonneg demands) {key : κ}
    (absent : ∀ entry ∈ demands, entry.1 ≠ key) :
    demanded (fill fuel supplies demands) key = 0 := by
  apply total_eq_zero
  intro cell member
  rcases of_mem_fill suppliesNonneg demandsNonneg member with ⟨-, -, left, leftMem, -⟩
  exact decide_eq_false (absent _ leftMem)

/-- The rule takes from no supply and brings to no demand more than there is. -/
theorem fill_within [DecidableEq ι] [DecidableEq κ] (fuel : ℕ) {supplies : List (ι × ℤ)}
    {demands : List (κ × ℤ)} (suppliesNonneg : Nonneg supplies) (demandsNonneg : Nonneg demands)
    (suppliesDistinct : Distinct supplies) (demandsDistinct : Distinct demands) :
    (∀ entry ∈ supplies, supplied (fill fuel supplies demands) entry.1 ≤ entry.2) ∧
      ∀ entry ∈ demands, demanded (fill fuel supplies demands) entry.1 ≤ entry.2 := by
  induction fuel, supplies, demands using fill.induct with
  | case1 fuel supply supplies demand demandLeft demands ih =>
      have tail := ih suppliesNonneg.tail demandsNonneg suppliesDistinct.tail demandsDistinct
      simp only [fill, ↓reduceIte]
      refine ⟨?_, tail.2⟩
      intro entry member
      rcases List.mem_cons.mp member with rfl | later
      · apply le_of_eq
        exact supplied_fill_eq_zero suppliesNonneg.tail demandsNonneg suppliesDistinct.head
      · exact tail.1 entry later
  | case2 fuel supply supplyLeft supplies demand demands supplyNe ih =>
      have tail := ih suppliesNonneg demandsNonneg.tail suppliesDistinct demandsDistinct.tail
      simp only [fill, supplyNe, ↓reduceIte]
      refine ⟨tail.1, ?_⟩
      intro entry member
      rcases List.mem_cons.mp member with rfl | later
      · apply le_of_eq
        exact demanded_fill_eq_zero suppliesNonneg demandsNonneg.tail demandsDistinct.head
      · exact tail.2 entry later
  | case3 fuel supply supplyLeft supplies demand demandLeft demands supplyNe demandNe amount ih =>
      have rest := ih (suppliesNonneg.use (min_le_left _ _)) (demandsNonneg.use (min_le_right _ _))
        suppliesDistinct.use demandsDistinct.use
      simp only [fill, supplyNe, demandNe, ↓reduceIte]
      constructor
      · intro entry member
        simp only [supplied, total_cons, decide_eq_true_eq]
        rcases List.mem_cons.mp member with rfl | later
        · have headRest := rest.1 (supply, supplyLeft - amount) (List.mem_cons_self ..)
          simp only [supplied] at headRest
          simp only [↓reduceIte]
          apply (add_le_add_right headRest _).trans
          omega
        · have tailRest := rest.1 entry (List.mem_cons_of_mem _ later)
          simp only [supplied] at tailRest
          rw [if_neg (Ne.symm (suppliesDistinct.head entry later)), zero_add]
          exact tailRest
      · intro entry member
        simp only [demanded, total_cons, decide_eq_true_eq]
        rcases List.mem_cons.mp member with rfl | later
        · have headRest := rest.2 (demand, demandLeft - amount) (List.mem_cons_self ..)
          simp only [demanded] at headRest
          simp only [↓reduceIte]
          apply (add_le_add_right headRest _).trans
          omega
        · have tailRest := rest.2 entry (List.mem_cons_of_mem _ later)
          simp only [demanded] at tailRest
          rw [if_neg (Ne.symm (demandsDistinct.head entry later)), zero_add]
          exact tailRest
  | case4 fuel supplies demands noMatch =>
      have nothing : fill fuel supplies demands = [] := by
        simp [fill]
      rw [nothing]
      exact ⟨fun entry member => suppliesNonneg entry member,
        fun entry member => demandsNonneg entry member⟩

/-- The rounds of the rule, until one side has no record left. -/
inductive Filling : List (ι × ℤ) → List (κ × ℤ) → List (Flow ι κ) → Prop where
  | noSupply (demands : List (κ × ℤ)) : Filling [] demands []
  | noDemand (supplies : List (ι × ℤ)) : Filling supplies [] []
  | supplyUsed {supply : ι} {supplies : List (ι × ℤ)} {demand : κ × ℤ} {demands : List (κ × ℤ)}
      {cells : List (Flow ι κ)} (rest : Filling supplies (demand :: demands) cells) :
      Filling ((supply, 0) :: supplies) (demand :: demands) cells
  | demandUsed {supply : ι} {left : ℤ} {supplies : List (ι × ℤ)} {demand : κ}
      {demands : List (κ × ℤ)} {cells : List (Flow ι κ)} (remains : left ≠ 0)
      (rest : Filling ((supply, left) :: supplies) demands cells) :
      Filling ((supply, left) :: supplies) ((demand, 0) :: demands) cells
  | move {supply : ι} {supplyLeft : ℤ} {supplies : List (ι × ℤ)} {demand : κ} {demandLeft : ℤ}
      {demands : List (κ × ℤ)} {cells : List (Flow ι κ)} (supplyRemains : supplyLeft ≠ 0)
      (demandRemains : demandLeft ≠ 0)
      (rest : Filling ((supply, supplyLeft - min supplyLeft demandLeft) :: supplies)
        ((demand, demandLeft - min supplyLeft demandLeft) :: demands) cells) :
      Filling ((supply, supplyLeft) :: supplies) ((demand, demandLeft) :: demands)
        (⟨supply, demand, min supplyLeft demandLeft⟩ :: cells)

/-- With enough rounds one side has no record left at the end. -/
theorem filling_fill {fuel : ℕ} {supplies : List (ι × ℤ)} {demands : List (κ × ℤ)}
    (enough : Enough fuel supplies demands) :
    Filling supplies demands (fill fuel supplies demands) := by
  induction fuel, supplies, demands using fill.induct with
  | case1 fuel supply supplies demand demandLeft demands ih =>
      have tailEnough : Enough fuel supplies ((demand, demandLeft) :: demands) := by
        simp only [Enough, headUsed, List.length_cons, ↓reduceIte] at enough ⊢
        omega
      simp only [fill, ↓reduceIte]
      exact .supplyUsed (ih tailEnough)
  | case2 fuel supply supplyLeft supplies demand demands supplyNe ih =>
      have tailEnough : Enough fuel ((supply, supplyLeft) :: supplies) demands := by
        simp only [Enough, headUsed, List.length_cons, ↓reduceIte] at enough ⊢
        omega
      simp only [fill, supplyNe, ↓reduceIte]
      exact .demandUsed supplyNe (ih tailEnough)
  | case3 fuel supply supplyLeft supplies demand demandLeft demands supplyNe demandNe amount ih =>
      have restEnough : Enough fuel ((supply, supplyLeft - amount) :: supplies)
          ((demand, demandLeft - amount) :: demands) := by
        simp only [Enough, headUsed, List.length_cons, supplyNe, demandNe, ↓reduceIte] at enough ⊢
        rcases min_choice supplyLeft demandLeft with smaller | smaller
        · have used : supplyLeft - amount = 0 := by omega
          rw [if_pos used]
          omega
        · have used : demandLeft - amount = 0 := by omega
          rw [if_pos used]
          omega
      simp only [fill, supplyNe, demandNe, ↓reduceIte]
      exact .move supplyNe demandNe (ih restEnough)
  | case4 fuel supplies demands noMatch =>
      have nothing : fill fuel supplies demands = [] := by
        simp [fill]
      rw [nothing]
      cases supplies with
      | nil => exact .noSupply demands
      | cons supply supplies =>
          cases demands with
          | nil => exact .noDemand _
          | cons demand demands =>
              exfalso
              cases fuel with
              | zero =>
                  have supplyUsed := headUsed_le (supply :: supplies)
                  have demandUsed := headUsed_le (demand :: demands)
                  simp only [Enough, List.length_cons] at enough supplyUsed demandUsed
                  omega
              | succ fuel => exact noMatch fuel _ _ supplies _ _ demands rfl rfl rfl

/-- At the end the smaller side is used up. -/
theorem Filling.sum_amounts {supplies : List (ι × ℤ)} {demands : List (κ × ℤ)}
    {cells : List (Flow ι κ)} (filling : Filling supplies demands cells)
    (suppliesNonneg : Nonneg supplies) (demandsNonneg : Nonneg demands) :
    (cells.map (·.amount)).sum = min (sum supplies) (sum demands) := by
  induction filling with
  | noSupply demands =>
      have nonneg := sum_nonneg demandsNonneg
      simpa [sum] using nonneg
  | noDemand supplies =>
      have nonneg := sum_nonneg suppliesNonneg
      simpa [sum] using nonneg
  | supplyUsed rest ih =>
      rw [ih suppliesNonneg.tail demandsNonneg]
      simp [sum]
  | demandUsed remains rest ih =>
      rw [ih suppliesNonneg demandsNonneg.tail]
      simp [sum]
  | move supplyRemains demandRemains rest ih =>
      have later := ih (suppliesNonneg.use (min_le_left _ _)) (demandsNonneg.use (min_le_right _ _))
      simp only [sum, List.map_cons, List.sum_cons] at later ⊢
      omega

/-- The cells of the rule take from its supplies only. -/
theorem sum_supplied [DecidableEq ι] {supplies : List (ι × ℤ)} {cells : List (Flow ι κ)}
    (distinct : Distinct supplies) (within : ∀ cell ∈ cells, cell.supply ∈ supplies.map (·.1)) :
    (supplies.map fun entry => supplied cells entry.1).sum = (cells.map (·.amount)).sum := by
  have counted := sum_totals_eq_total Flow.supply (fun _ => true) (·.amount) cells distinct
  have every : cells.filter (fun cell => decide (cell.supply ∈ supplies.map (·.1)) && true) =
      cells := by
    rw [List.filter_eq_self]
    intro cell member
    simpa using within cell member
  simp only [List.map_map, Bool.and_true] at counted
  rw [total] at counted
  simp only [Bool.and_true] at every
  rw [every] at counted
  exact counted

/-- The cells of the rule bring to its demands only. -/
theorem sum_demanded [DecidableEq κ] {demands : List (κ × ℤ)} {cells : List (Flow ι κ)}
    (distinct : Distinct demands) (within : ∀ cell ∈ cells, cell.demand ∈ demands.map (·.1)) :
    (demands.map fun entry => demanded cells entry.1).sum = (cells.map (·.amount)).sum := by
  have counted := sum_totals_eq_total Flow.demand (fun _ => true) (·.amount) cells distinct
  have every : cells.filter (fun cell => decide (cell.demand ∈ demands.map (·.1)) && true) =
      cells := by
    rw [List.filter_eq_self]
    intro cell member
    simpa using within cell member
  simp only [List.map_map, Bool.and_true] at counted
  rw [total] at counted
  simp only [Bool.and_true] at every
  rw [every] at counted
  exact counted

/-- Smaller amounts with the same sum are the same amounts. -/
theorem eq_of_sum_eq {entries : List (ι × ℤ)} {used : ι × ℤ → ℤ}
    (within : ∀ entry ∈ entries, used entry ≤ entry.2)
    (whole : (entries.map used).sum = sum entries) : ∀ entry ∈ entries, used entry = entry.2 := by
  intro entry member
  apply le_antisymm (within entry member)
  by_contra less
  have smaller := List.sum_lt_sum used (·.2) within ⟨entry, member, not_le.mp less⟩
  simp only [sum] at whole
  omega

/-- When both sides have the same total, the rule uses up every record. -/
theorem fill_balanced [DecidableEq ι] [DecidableEq κ] {fuel : ℕ} {supplies : List (ι × ℤ)}
    {demands : List (κ × ℤ)} (suppliesNonneg : Nonneg supplies) (demandsNonneg : Nonneg demands)
    (suppliesDistinct : Distinct supplies) (demandsDistinct : Distinct demands)
    (enough : Enough fuel supplies demands) (balanced : sum supplies = sum demands) :
    (∀ entry ∈ supplies, supplied (fill fuel supplies demands) entry.1 = entry.2) ∧
      ∀ entry ∈ demands, demanded (fill fuel supplies demands) entry.1 = entry.2 := by
  have within := fill_within fuel suppliesNonneg demandsNonneg suppliesDistinct
    demandsDistinct
  have moved := (filling_fill enough).sum_amounts suppliesNonneg demandsNonneg
  constructor
  · apply eq_of_sum_eq within.1
    rw [sum_supplied suppliesDistinct, moved, ← balanced, min_self]
    intro cell member
    rcases of_mem_fill suppliesNonneg demandsNonneg member with ⟨-, ⟨left, leftMem, -⟩, -⟩
    exact List.mem_map_of_mem leftMem
  · apply eq_of_sum_eq within.2
    rw [sum_demanded demandsDistinct, moved, balanced, min_self]
    intro cell member
    rcases of_mem_fill suppliesNonneg demandsNonneg member with ⟨-, -, left, leftMem, -⟩
    exact List.mem_map_of_mem leftMem

/-- The rule does not look at the keys. -/
theorem fill_map {ι' κ' : Type} (supplyKey : ι → ι') (demandKey : κ → κ') (fuel : ℕ)
    (supplies : List (ι × ℤ)) (demands : List (κ × ℤ)) :
    fill fuel (supplies.map fun entry => (supplyKey entry.1, entry.2))
        (demands.map fun entry => (demandKey entry.1, entry.2)) =
      (fill fuel supplies demands).map fun cell =>
        ⟨supplyKey cell.supply, demandKey cell.demand, cell.amount⟩ := by
  induction fuel, supplies, demands using fill.induct with
  | case1 fuel supply supplies demand demandLeft demands ih =>
      simpa [fill] using ih
  | case2 fuel supply supplyLeft supplies demand demands supplyNe ih =>
      simpa [fill, supplyNe] using ih
  | case3 fuel supply supplyLeft supplies demand demandLeft demands supplyNe demandNe amount ih =>
      simpa [fill, supplyNe, demandNe] using ih
  | case4 fuel supplies demands noMatch =>
      cases fuel with
      | zero => simp [fill]
      | succ fuel =>
          cases supplies with
          | nil => simp [fill]
          | cons supply supplies =>
              cases demands with
              | nil => simp [fill]
              | cons demand demands => exact (noMatch fuel _ _ supplies _ _ demands rfl rfl rfl).elim

/-! ## One supply -/

/-- Serve the demands from one supply, in order. -/
def serve : ℤ → List (κ × ℤ) → List (κ × ℤ)
  | _, [] => []
  | supply, (demand, left) :: rest =>
      (demand, min supply left) :: serve (supply - min supply left) rest

theorem keys_serve (supply : ℤ) (demands : List (κ × ℤ)) :
    (serve supply demands).map (·.1) = demands.map (·.1) := by
  induction demands generalizing supply with
  | nil => rfl
  | cons demand rest ih => simp [serve, ih]

/-- Everything is used up, or every demand is met. -/
theorem sum_serve {supply : ℤ} {demands : List (κ × ℤ)} (supplyNonneg : 0 ≤ supply)
    (demandsNonneg : Nonneg demands) : sum (serve supply demands) = min supply (sum demands) := by
  induction demands generalizing supply with
  | nil => simpa [serve, sum] using supplyNonneg
  | cons demand rest ih =>
      have tail := ih (Int.sub_nonneg_of_le (min_le_left supply demand.2)) demandsNonneg.tail
      have restNonneg := sum_nonneg demandsNonneg.tail
      have headNonneg := demandsNonneg demand (List.mem_cons_self ..)
      simp only [sum, serve, List.map_cons, List.sum_cons] at tail restNonneg ⊢
      omega

/-- No demand is served more than it asks for. -/
theorem of_mem_serve {supply : ℤ} {demands : List (κ × ℤ)} (supplyNonneg : 0 ≤ supply)
    (demandsNonneg : Nonneg demands) {served : κ × ℤ} (member : served ∈ serve supply demands) :
    0 ≤ served.2 ∧ ∃ left, (served.1, left) ∈ demands ∧ served.2 ≤ left := by
  induction demands generalizing supply with
  | nil => simp [serve] at member
  | cons demand rest ih =>
      rcases List.mem_cons.mp member with rfl | later
      · exact ⟨le_min supplyNonneg (demandsNonneg demand (List.mem_cons_self ..)), demand.2,
          List.mem_cons_self .., min_le_right _ _⟩
      · rcases ih (Int.sub_nonneg_of_le (min_le_left supply demand.2)) demandsNonneg.tail later with
          ⟨nonneg, left, leftMem, within⟩
        exact ⟨nonneg, left, List.mem_cons_of_mem _ leftMem, within⟩

/-- Demands that are served nothing do not count. -/
theorem sum_filter_positive {entries : List (κ × ℤ)} (nonneg : Nonneg entries) :
    sum (entries.filter fun entry => decide (0 < entry.2)) = sum entries := by
  induction entries with
  | nil => rfl
  | cons entry rest ih =>
      have tail := ih nonneg.tail
      have headNonneg := nonneg entry (List.mem_cons_self ..)
      simp only [sum] at tail ⊢
      by_cases positive : 0 < entry.2
      · simp [positive, tail]
      · simp only [positive, decide_false, Bool.false_eq_true, not_false_eq_true,
          List.filter_cons_of_neg, tail, List.map_cons, List.sum_cons]
        omega

end Transport
