import Mathlib.Data.List.Basic
import Mathlib.Data.List.Forall2

/-!
# Validation steps in `Except`

Code that validates its input is a sequence of steps that either go on with a
value or stop with an error.  This file names the usual steps and says, for
each of them, when it succeeds.  With these facts a hypothesis that a whole
validation succeeded opens into the conditions it checked.
-/

namespace Checks

variable {ε α β : Type}

/-- Go on only if a condition holds. -/
def require (condition : Prop) [Decidable condition] (error : ε) : Except ε Unit :=
  if condition then .ok () else .error error

/-- Go on with a value that must be present. -/
def present (value : Option α) (error : ε) : Except ε α :=
  match value with
  | some value => .ok value
  | none => .error error

/-- Process a list in order and stop at the first error. -/
def collect (process : α → Except ε β) : List α → Except ε (List β)
  | [] => .ok []
  | item :: rest =>
      match process item with
      | .error error => .error error
      | .ok value => (collect process rest).map (value :: ·)

/-- Go on only if a condition holds of every item. -/
def requireAll (condition : α → Prop) [DecidablePred condition] (error : α → ε) :
    List α → Except ε Unit
  | [] => .ok ()
  | item :: rest =>
      if condition item then requireAll condition error rest else .error (error item)

/-- The error of a computation that failed. -/
def error? : Except ε α → Option ε
  | .ok _ => none
  | .error error => some error

theorem toOption_eq_some {computation : Except ε α} {result : α} :
    computation.toOption = some result ↔ computation = .ok result := by
  cases computation <;> simp [Except.toOption]

theorem error?_eq_some {computation : Except ε α} {error : ε} :
    error? computation = some error ↔ computation = .error error := by
  cases computation <;> simp [error?]

@[simp]
theorem bind_eq_ok {step : Except ε α} {next : α → Except ε β} {result : β} :
    (step >>= next) = .ok result ↔ ∃ value, step = .ok value ∧ next value = .ok result := by
  cases step with
  | error error => simp [bind, Except.bind]
  | ok value => simp [bind, Except.bind]

theorem bind_eq_error {step : Except ε α} {next : α → Except ε β} {error : ε} :
    (step >>= next) = .error error ↔
      step = .error error ∨ ∃ value, step = .ok value ∧ next value = .error error := by
  cases step with
  | error other => simp [bind, Except.bind]
  | ok value => simp [bind, Except.bind]

theorem require_eq_error {condition : Prop} [Decidable condition] {error other : ε} :
    require condition error = .error other ↔ ¬condition ∧ error = other := by
  simp only [require]
  split
  · simp_all
  · simp_all

theorem present_eq_error {value : Option α} {error other : ε} :
    present value error = .error other ↔ value = none ∧ error = other := by
  cases value with
  | none => simp [present]
  | some value => simp [present]

@[simp]
theorem require_eq_ok {condition : Prop} [Decidable condition] {error : ε} {result : Unit} :
    require condition error = .ok result ↔ condition := by
  simp only [require]
  split
  · simp_all
  · simp_all

@[simp]
theorem present_eq_ok {value : Option α} {error : ε} {result : α} :
    present value error = .ok result ↔ value = some result := by
  cases value with
  | none => simp [present]
  | some value => simp [present]

@[simp]
theorem requireAll_eq_ok {condition : α → Prop} [DecidablePred condition] {error : α → ε}
    {items : List α} {result : Unit} :
    requireAll condition error items = .ok result ↔ ∀ item ∈ items, condition item := by
  induction items with
  | nil => simp [requireAll]
  | cons item rest ih =>
      by_cases holds : condition item
      · simp [requireAll, holds, ih]
      · simp [requireAll, holds]

theorem collect_eq_ok {process : α → Except ε β} {items : List α} {results : List β} :
    collect process items = .ok results ↔
      List.Forall₂ (fun item result => process item = .ok result) items results := by
  induction items generalizing results with
  | nil =>
      simp only [collect, Except.ok.injEq, List.forall₂_nil_left_iff]
      exact eq_comm
  | cons item rest ih =>
      cases outcome : process item with
      | error error =>
          simp only [collect, outcome, List.forall₂_cons_left_iff, reduceCtorEq, false_iff]
          rintro ⟨result, tail, impossible, -⟩
          simp at impossible
      | ok value =>
          simp only [collect, outcome, List.forall₂_cons_left_iff]
          cases tailOutcome : collect process rest with
          | error error =>
              simp only [Except.map, reduceCtorEq, false_iff]
              rintro ⟨result, tail, -, tailHolds, -⟩
              have := ih.mpr tailHolds
              simp [tailOutcome] at this
          | ok tail =>
              have tailHolds := ih.mp tailOutcome
              simp only [Except.map, Except.ok.injEq]
              constructor
              · rintro rfl
                exact ⟨value, tail, rfl, tailHolds, rfl⟩
              · rintro ⟨result, other, sameValue, otherHolds, rfl⟩
                have sameTail := ih.mpr otherHolds
                simp_all

/-- Every result of a successful traversal comes from an item that was processed to it. -/
theorem exists_of_mem_collect {process : α → Except ε β} {items : List α} {results : List β}
    (succeeded : collect process items = .ok results) {result : β} (member : result ∈ results) :
    ∃ item ∈ items, process item = .ok result := by
  rw [collect_eq_ok] at succeeded
  induction succeeded with
  | nil => simp at member
  | cons head tail ih =>
      rcases List.mem_cons.mp member with rfl | later
      · exact ⟨_, by simp, head⟩
      · rcases ih later with ⟨item, itemMem, processed⟩
        exact ⟨item, by simp [itemMem], processed⟩

/-- A traversal succeeds when every item can be processed. -/
theorem exists_collect_eq_ok {process : α → Except ε β} {items : List α} :
    (∃ results, collect process items = .ok results) ↔
      ∀ item ∈ items, ∃ result, process item = .ok result := by
  simp only [collect_eq_ok]
  constructor
  · rintro ⟨results, each⟩ item member
    induction each with
    | nil => simp at member
    | cons head tail ih =>
        rcases List.mem_cons.mp member with rfl | later
        · exact ⟨_, head⟩
        · exact ih later
  · intro each
    induction items with
    | nil => exact ⟨[], .nil⟩
    | cons item rest ih =>
        rcases each item (List.mem_cons_self ..) with ⟨result, head⟩
        rcases ih fun other member => each other (List.mem_cons_of_mem _ member) with ⟨results, tail⟩
        exact ⟨result :: results, .cons head tail⟩

/-- What every step preserves, for the items that are left, holds when none is left. -/
theorem foldlM_induction {step : β → α → Except ε β} (holds : β → List α → Prop)
    (preserved : ∀ {state item rest next}, holds state (item :: rest) →
      step state item = .ok next → holds next rest)
    {items : List α} {start last : β} (initially : holds start items)
    (succeeded : items.foldlM step start = .ok last) : holds last [] := by
  induction items generalizing start with
  | nil =>
      cases succeeded
      exact initially
  | cons item rest ih =>
      simp only [List.foldlM_cons, bind_eq_ok] at succeeded
      rcases succeeded with ⟨middle, head, tail⟩
      exact ih (preserved initially head) tail

end Checks
