import Mathlib

/-!
# Transactions that lock rows

A transaction is a program of statements on a stored state.  Many transactions
run at a time and their statements interleave.  A query reads the last committed
state and the writes of its own transaction.  A lock waits until no other
transaction has it, and is kept to the end.  A claim is the insert of a unique
key: it waits in the same way, is refused where the key is taken by then, and
else keeps the key.  A transaction may end at any moment without effect.

A discipline says what others may do to the state while a transaction has its
locks.  When every transaction obeys the discipline, the committed ones have
done what they do alone, one after another in the order of their commits.
-/

namespace RowLocks

/-- A transaction with locks `κ`, states `σ` and result `α`. -/
inductive Transaction (κ σ α : Type) : Type 1 where
  | done (result : α)
  | rollback
  | lock (key : κ) (next : Transaction κ σ α)
  | query {ρ : Type} (read : σ → ρ) (next : ρ → Transaction κ σ α)
  | claim (key : κ) (taken : σ → Bool) (refused accepted : Transaction κ σ α)
  | write (change : σ → σ) (next : Transaction κ σ α)

namespace Transaction

variable {κ σ α β γ : Type}

def bind : Transaction κ σ α → (α → Transaction κ σ β) → Transaction κ σ β
  | done result, next => next result
  | rollback, _ => rollback
  | lock key rest, next => lock key (rest.bind next)
  | query read rest, next => query read fun result => (rest result).bind next
  | claim key taken refused accepted, next =>
      claim key taken (refused.bind next) (accepted.bind next)
  | write change rest, next => write change (rest.bind next)

instance : Monad (Transaction κ σ) where
  pure := done
  bind := bind

/-- Wait for a lock. -/
def lockRow (key : κ) : Transaction κ σ Unit := lock key (done ())

def ask {ρ : Type} (read : σ → ρ) : Transaction κ σ ρ := query read done

def save (change : σ → σ) : Transaction κ σ Unit := write change (done ())

/-- A value, or the error that rolls the transaction back. -/
def orRollback {ε : Type} : Except ε α → Transaction κ σ α
  | .ok value => done value
  | .error _ => rollback

/-- What the transaction does when no other one is under way. -/
def alone : Transaction κ σ α → σ → Option (α × σ)
  | done result, state => some (result, state)
  | rollback, _ => none
  | lock _ next, state => next.alone state
  | query read next, state => (next (read state)).alone state
  | claim _ taken refused accepted, state =>
      if taken state then refused.alone state else accepted.alone state
  | write change next, state => next.alone (change state)

@[simp]
theorem pure_eq (result : α) : (pure result : Transaction κ σ α) = done result := rfl

@[simp]
theorem done_bind (result : α) (next : α → Transaction κ σ β) :
    (done result >>= next) = next result := rfl

@[simp]
theorem rollback_bind (next : α → Transaction κ σ β) :
    ((rollback : Transaction κ σ α) >>= next) = rollback := rfl

@[simp]
theorem lock_bind (key : κ) (rest : Transaction κ σ α) (next : α → Transaction κ σ β) :
    (lock key rest >>= next) = lock key (rest >>= next) := rfl

@[simp]
theorem query_bind {ρ : Type} (read : σ → ρ) (rest : ρ → Transaction κ σ α)
    (next : α → Transaction κ σ β) :
    (query read rest >>= next) = query read fun result => rest result >>= next := rfl

@[simp]
theorem claim_bind (key : κ) (taken : σ → Bool) (refused accepted : Transaction κ σ α)
    (next : α → Transaction κ σ β) :
    (claim key taken refused accepted >>= next) =
      claim key taken (refused >>= next) (accepted >>= next) := rfl

@[simp]
theorem write_bind (change : σ → σ) (rest : Transaction κ σ α) (next : α → Transaction κ σ β) :
    (write change rest >>= next) = write change (rest >>= next) := rfl

@[simp]
theorem lockRow_bind (key : κ) (next : Unit → Transaction κ σ β) :
    (lockRow key >>= next) = lock key (next ()) := rfl

@[simp]
theorem ask_bind {ρ : Type} (read : σ → ρ) (next : ρ → Transaction κ σ β) :
    (ask read >>= next) = query read next := rfl

@[simp]
theorem save_bind (change : σ → σ) (next : Unit → Transaction κ σ β) :
    (save change >>= next) = write change (next ()) := rfl

@[simp]
theorem orRollback_ok {ε : Type} (value : α) :
    (orRollback (.ok value : Except ε α) : Transaction κ σ α) = done value := rfl

@[simp]
theorem orRollback_error {ε : Type} (error : ε) :
    (orRollback (.error error : Except ε α) : Transaction κ σ α) = rollback := rfl

@[simp]
theorem bind_assoc (first : Transaction κ σ α) (second : α → Transaction κ σ β)
    (third : β → Transaction κ σ γ) :
    (first >>= second >>= third) = first >>= fun result => second result >>= third := by
  induction first with
  | done result => rfl
  | rollback => rfl
  | lock key next ih => exact congrArg _ ih
  | query read next ih => exact congrArg _ (funext ih)
  | claim key taken refused accepted refusedIh acceptedIh =>
      exact congr (congrArg _ refusedIh) acceptedIh
  | write change next ih => exact congrArg _ ih

@[simp]
theorem bind_done (transaction : Transaction κ σ α) : (transaction >>= done) = transaction := by
  induction transaction with
  | done result => rfl
  | rollback => rfl
  | lock key next ih => exact congrArg _ ih
  | query read next ih => exact congrArg _ (funext ih)
  | claim key taken refused accepted refusedIh acceptedIh =>
      exact congr (congrArg _ refusedIh) acceptedIh
  | write change next ih => exact congrArg _ ih

@[simp]
theorem alone_done (result : α) (state : σ) :
    (done result : Transaction κ σ α).alone state = some (result, state) := rfl

@[simp]
theorem alone_rollback (state : σ) : (rollback : Transaction κ σ α).alone state = none := rfl

@[simp]
theorem alone_lock (key : κ) (next : Transaction κ σ α) (state : σ) :
    (lock key next).alone state = next.alone state := rfl

@[simp]
theorem alone_query {ρ : Type} (read : σ → ρ) (next : ρ → Transaction κ σ α) (state : σ) :
    (query read next).alone state = (next (read state)).alone state := rfl

@[simp]
theorem alone_claim (key : κ) (taken : σ → Bool) (refused accepted : Transaction κ σ α)
    (state : σ) : (claim key taken refused accepted).alone state =
      if taken state then refused.alone state else accepted.alone state := rfl

@[simp]
theorem alone_write (change : σ → σ) (next : Transaction κ σ α) (state : σ) :
    (write change next).alone state = next.alone (change state) := rfl

theorem alone_bind (first : Transaction κ σ α) (next : α → Transaction κ σ β) (state : σ) :
    (first >>= next).alone state =
      (first.alone state).bind fun result => (next result.1).alone result.2 := by
  induction first generalizing state with
  | done result => rfl
  | rollback => rfl
  | lock key rest ih => exact ih state
  | query read rest ih => exact ih (read state) state
  | claim key taken refused accepted refusedIh acceptedIh =>
      simp only [claim_bind, alone_claim]
      by_cases isTaken : taken state
      · simp only [isTaken, if_true]
        exact refusedIh state
      · simp only [isTaken, if_false, Bool.false_eq_true]
        exact acceptedIh state
  | write change rest ih => exact ih (change state)

theorem alone_orRollback_bind {ε : Type} {value : Except ε α} {next : α → Transaction κ σ β}
    {state : σ} {result : β × σ} :
    ((orRollback value : Transaction κ σ α) >>= next).alone state = some result ↔
      ∃ passed, value = .ok passed ∧ (next passed).alone state = some result := by
  cases value with
  | error error => simp
  | ok passed => simp

theorem alone_orRollback_bind_eq_none {ε : Type} {value : Except ε α}
    {next : α → Transaction κ σ β} {state : σ} (fails : ∀ passed, value ≠ .ok passed) :
    ((orRollback value : Transaction κ σ α) >>= next).alone state = none := by
  cases value with
  | error error => rfl
  | ok passed => exact absurd rfl (fails passed)

/-- Where the first transaction succeeds, the second one does the same. -/
def Below (first second : Transaction κ σ α) (state : σ) : Prop :=
  ∀ result, first.alone state = some result → second.alone state = some result

theorem Below.of_eq {first second : Transaction κ σ α} {state : σ}
    (same : first.alone state = second.alone state) : Below first second state := by
  intro result succeeded
  rw [← same]
  exact succeeded

theorem Below.bind {first second : Transaction κ σ α} {state : σ}
    (below : Below first second state) (next : α → Transaction κ σ β) :
    Below (first >>= next) (second >>= next) state := by
  intro result succeeded
  rw [alone_bind] at succeeded ⊢
  rcases Option.bind_eq_some_iff.mp succeeded with ⟨middle, ran, rest⟩
  exact Option.bind_eq_some_iff.mpr ⟨middle, below middle ran, rest⟩

/-! ### Rows for an update -/

variable {ι ρ : Type}

/-- Lock rows one after another, and read each one once its lock is granted. -/
def lockRows (key : ι → κ) (row : ι → σ → Option ρ) : List ι → Transaction κ σ (List ρ)
  | [] => done []
  | id :: ids => do
      lockRow (key id)
      let found ← ask (row id)
      let rest ← lockRows key row ids
      return found.toList ++ rest

/-- `SELECT ... FOR UPDATE` of the rows that are visible when it starts. -/
def selectForUpdate (visible : σ → List ι) (key : ι → κ) (row : ι → σ → Option ρ) :
    Transaction κ σ (List ρ) := do
  let ids ← ask visible
  lockRows key row ids

/-- `SELECT ... FOR UPDATE LIMIT 1`. -/
def firstForUpdate (visible : σ → Option ι) (key : ι → κ) (row : ι → σ → Option ρ) :
    Transaction κ σ (Option ρ) := do
  match ← ask visible with
  | none => return none
  | some id =>
      lockRow (key id)
      ask (row id)

/-- `SELECT ... FOR UPDATE` of one row with a given key. -/
def getForUpdate (key : κ) (row : σ → Option ρ) : Transaction κ σ (Option ρ) :=
  firstForUpdate (fun state => (row state).map fun _ => ()) (fun _ => key) fun _ => row

/-- Do the same for each item, in order. -/
def each {δ : Type} (step : δ → Transaction κ σ α) : List δ → Transaction κ σ (List α)
  | [] => done []
  | item :: items => do
      let result ← step item
      let rest ← each step items
      return result :: rest

@[simp]
theorem alone_lockRows (key : ι → κ) (row : ι → σ → Option ρ) (ids : List ι) (state : σ) :
    (lockRows key row ids).alone state = some (ids.filterMap fun id => row id state, state) := by
  induction ids with
  | nil => rfl
  | cons id ids ih =>
      simp only [lockRows, lockRow_bind, ask_bind, alone_lock, alone_query, alone_bind, ih,
        Option.bind_some, pure_eq, alone_done]
      cases found : row id state with
      | none => simp [found]
      | some value => simp [found]

@[simp]
theorem alone_selectForUpdate (visible : σ → List ι) (key : ι → κ) (row : ι → σ → Option ρ)
    (state : σ) : (selectForUpdate visible key row).alone state =
      some ((visible state).filterMap fun id => row id state, state) := by
  simp only [selectForUpdate, ask_bind, alone_query, alone_lockRows]

theorem alone_firstForUpdate {visible : σ → Option ι} {key : ι → κ} {row : ι → σ → Option ρ}
    {state : σ} : (firstForUpdate visible key row).alone state =
      some ((visible state).bind fun id => row id state, state) := by
  simp only [firstForUpdate, ask_bind, alone_query]
  cases visible state with
  | none => rfl
  | some id => rfl

@[simp]
theorem alone_getForUpdate (key : κ) (row : σ → Option ρ) (state : σ) :
    (getForUpdate key row).alone state = some (row state, state) := by
  rw [getForUpdate, alone_firstForUpdate]
  cases row state with
  | none => rfl
  | some value => rfl

/-- A locking query is a look at the rows for a transaction that is alone. -/
theorem alone_selectForUpdate_bind (visible : σ → List ι) (key : ι → κ) (row : ι → σ → Option ρ)
    (next : List ρ → Transaction κ σ β) (state : σ) :
    (selectForUpdate visible key row >>= next).alone state =
      (next ((visible state).filterMap fun id => row id state)).alone state := by
  rw [alone_bind, alone_selectForUpdate, Option.bind_some]

theorem alone_getForUpdate_bind (key : κ) (row : σ → Option ρ)
    (next : Option ρ → Transaction κ σ β) (state : σ) :
    (getForUpdate key row >>= next).alone state = (next (row state)).alone state := by
  rw [alone_bind, alone_getForUpdate, Option.bind_some]

/-- Looks at each of some items. -/
theorem alone_each_bind {δ : Type} {step : δ → Transaction κ σ α} {state : σ}
    (looks : ∀ item result after, (step item).alone state = some (result, after) → after = state)
    {items : List δ} {next : List α → Transaction κ σ β} {result : β × σ} :
    (each step items >>= next).alone state = some result ↔
      ∃ results, List.Forall₂ (fun item found => (step item).alone state = some (found, state))
          items results ∧ (next results).alone state = some result := by
  induction items generalizing next with
  | nil => simp [each]
  | cons item items ih =>
      simp only [each, bind_assoc, pure_eq, done_bind]
      rw [alone_bind]
      constructor
      · intro succeeds
        rcases Option.bind_eq_some_iff.mp succeeds with ⟨⟨first, after⟩, ran, rest⟩
        have same := looks item first after ran
        subst same
        rcases ih.mp rest with ⟨results, others, last⟩
        exact ⟨first :: results, .cons ran others, last⟩
      · rintro ⟨results, found, last⟩
        cases found with
        | cons ran others =>
            rw [ran, Option.bind_some]
            exact ih.mpr ⟨_, others, last⟩

end Transaction

/-! ## The system -/

/-- A transaction under way: the rest of it, what it has written, and its locks. -/
structure Session (κ σ α : Type) where
  rest : Transaction κ σ α
  own : σ → σ
  held : Set κ

/-- The committed state, the transactions under way, and the commits with their results. -/
structure System (ι κ σ α : Type) where
  stored : σ
  sessions : ι → Option (Session κ σ α)
  history : List (ι × α)

section System

variable {ι κ σ α : Type} [DecidableEq ι]

/-- Nothing has happened yet. -/
def System.start (programs : ι → Transaction κ σ α) (stored : σ) : System ι κ σ α :=
  ⟨stored, fun i => some ⟨programs i, id, ∅⟩, []⟩

def System.goOn (system : System ι κ σ α) (i : ι) (session : Option (Session κ σ α)) :
    System ι κ σ α :=
  { system with sessions := Function.update system.sessions i session }

@[simp]
theorem System.sessions_goOn_self (system : System ι κ σ α) (i : ι)
    (session : Option (Session κ σ α)) : (system.goOn i session).sessions i = session :=
  Function.update_self ..

theorem System.sessions_goOn (system : System ι κ σ α) {i j : ι} (distinct : j ≠ i)
    (session : Option (Session κ σ α)) :
    (system.goOn i session).sessions j = system.sessions j :=
  Function.update_of_ne distinct ..

/-- No other transaction has the lock. -/
def System.Free (system : System ι κ σ α) (i : ι) (key : κ) : Prop :=
  ∀ j, j ≠ i → ∀ session ∈ system.sessions j, key ∉ session.held

inductive Step (system : System ι κ σ α) : System ι κ σ α → Prop where
  | lock {i : ι} {key : κ} {next : Transaction κ σ α} {own : σ → σ} {held : Set κ}
      (running : system.sessions i = some ⟨.lock key next, own, held⟩)
      (free : system.Free i key) :
      Step system (system.goOn i (some ⟨next, own, insert key held⟩))
  | query {i : ι} {ρ : Type} {read : σ → ρ} {next : ρ → Transaction κ σ α} {own : σ → σ}
      {held : Set κ} (running : system.sessions i = some ⟨.query read next, own, held⟩) :
      Step system (system.goOn i (some ⟨next (read (own system.stored)), own, held⟩))
  | refuse {i : ι} {key : κ} {taken : σ → Bool} {refused accepted : Transaction κ σ α}
      {own : σ → σ} {held : Set κ}
      (running : system.sessions i = some ⟨.claim key taken refused accepted, own, held⟩)
      (free : system.Free i key) (isTaken : taken (own system.stored) = true) :
      Step system (system.goOn i (some ⟨refused, own, held⟩))
  | accept {i : ι} {key : κ} {taken : σ → Bool} {refused accepted : Transaction κ σ α}
      {own : σ → σ} {held : Set κ}
      (running : system.sessions i = some ⟨.claim key taken refused accepted, own, held⟩)
      (free : system.Free i key) (unused : taken (own system.stored) = false) :
      Step system (system.goOn i (some ⟨accepted, own, insert key held⟩))
  | write {i : ι} {change : σ → σ} {next : Transaction κ σ α} {own : σ → σ} {held : Set κ}
      (running : system.sessions i = some ⟨.write change next, own, held⟩) :
      Step system (system.goOn i (some ⟨next, change ∘ own, held⟩))
  | commit {i : ι} {result : α} {own : σ → σ} {held : Set κ}
      (running : system.sessions i = some ⟨.done result, own, held⟩) :
      Step system
        { stored := own system.stored
          sessions := Function.update system.sessions i none
          history := system.history ++ [(i, result)] }
  /-- A rollback, the victim of a deadlock or a lost connection. -/
  | abort {i : ι} {session : Session κ σ α} (running : system.sessions i = some session) :
      Step system (system.goOn i none)

/-- What happens in any number of steps, in any order. -/
abbrev Reachable (programs : ι → Transaction κ σ α) (stored : σ) : System ι κ σ α → Prop :=
  Relation.ReflTransGen Step (System.start programs stored)

/-- The transactions of a history, each alone on what the ones before it left. -/
inductive Serial (programs : ι → Transaction κ σ α) (start : σ) : List (ι × α) → σ → Prop where
  | nil : Serial programs start [] start
  | snoc {history : List (ι × α)} {i : ι} {result : α} {before after : σ}
      (earlier : Serial programs start history before)
      (succeeds : (programs i).alone before = some (result, after)) :
      Serial programs start (history ++ [(i, result)]) after

/-! ### Histories -/

section Histories

variable {programs : ι → Transaction κ σ α} {stored after : σ} {system : System ι κ σ α}
  {history : List (ι × α)}

/-- The transactions that have committed do not run any more. -/
def System.Ended (system : System ι κ σ α) : Prop :=
  (system.history.map (·.1)).Nodup ∧ ∀ entry ∈ system.history, system.sessions entry.1 = none

omit [DecidableEq ι] in
theorem System.Ended.ne_of_running (ended : system.Ended) {i : ι} {session : Session κ σ α}
    (running : system.sessions i = some session) : ∀ entry ∈ system.history, entry.1 ≠ i := by
  rintro entry member rfl
  rw [ended.2 entry member] at running
  cases running

theorem System.Ended.goOn (ended : system.Ended) {i : ι} {before : Session κ σ α}
    (running : system.sessions i = some before) (session : Option (Session κ σ α)) :
    (system.goOn i session).Ended := by
  refine ⟨ended.1, fun entry member => ?_⟩
  rw [System.sessions_goOn _ (ended.ne_of_running running entry member)]
  exact ended.2 entry member

/-- Each transaction commits at most once. -/
theorem ended_of_reachable (reachable : Reachable programs stored system) : system.Ended := by
  induction reachable with
  | refl => exact ⟨List.nodup_nil, fun _ none => absurd none List.not_mem_nil⟩
  | tail _ step ih =>
      cases step with
      | lock running free => exact ih.goOn running _
      | query running => exact ih.goOn running _
      | refuse running free isTaken => exact ih.goOn running _
      | accept running free unused => exact ih.goOn running _
      | write running => exact ih.goOn running _
      | abort running => exact ih.goOn running _
      | commit running =>
          have others := ih.ne_of_running running
          constructor
          · rw [List.map_append, List.nodup_append]
            refine ⟨ih.1, List.nodup_singleton _, ?_⟩
            rintro j member other otherMem rfl
            rcases List.mem_map.mp member with ⟨entry, entryMem, same⟩
            exact others entry entryMem (same.trans (List.mem_singleton.mp otherMem))
          · intro entry member
            rcases List.mem_append.mp member with old | new
            · exact (Function.update_of_ne (others entry old) ..).trans (ih.2 entry old)
            · rw [List.mem_singleton.mp new]
              exact Function.update_self ..

theorem free_goOn {i : ι} (free : ∀ key, system.Free i key) (session : Option (Session κ σ α)) :
    ∀ key, (system.goOn i session).Free i key := by
  intro key j distinct other isOther
  rw [System.sessions_goOn _ distinct] at isOther
  exact free key j distinct other isOther

theorem ends_of_step {i : ι} {session : Session κ σ α} {result : α}
    (step : Step system (system.goOn i (some session)))
    (rest : Relation.ReflTransGen Step (system.goOn i (some session))
      ⟨after, Function.update (system.goOn i (some session)).sessions i none,
        system.history ++ [(i, result)]⟩) :
    Relation.ReflTransGen Step system
      ⟨after, Function.update system.sessions i none, system.history ++ [(i, result)]⟩ := by
  have last : Function.update (system.goOn i (some session)).sessions i none =
      Function.update system.sessions i none := Function.update_idem ..
  rw [last] at rest
  exact .head step rest

/-- A transaction can run to its end while no other one has a lock. -/
theorem runs_alone {transaction : Transaction κ σ α} {own : σ → σ} {held : Set κ} {i : ι}
    {result : α} (running : system.sessions i = some ⟨transaction, own, held⟩)
    (free : ∀ key, system.Free i key)
    (succeeds : transaction.alone (own system.stored) = some (result, after)) :
    Relation.ReflTransGen Step system
      ⟨after, Function.update system.sessions i none, system.history ++ [(i, result)]⟩ := by
  induction transaction generalizing system own held with
  | done value =>
      cases succeeds
      exact .single (.commit running)
  | rollback => cases succeeds
  | lock key next ih =>
      exact ends_of_step (.lock running (free key))
        (ih (System.sessions_goOn_self ..) (free_goOn free _) succeeds)
  | query read next ih =>
      exact ends_of_step (.query running)
        (ih _ (System.sessions_goOn_self ..) (free_goOn free _) succeeds)
  | claim key taken refused accepted refusedIh acceptedIh =>
      rw [Transaction.alone_claim] at succeeds
      by_cases isTaken : taken (own system.stored) = true
      · rw [if_pos isTaken] at succeeds
        exact ends_of_step (.refuse running (free key) isTaken)
          (refusedIh (System.sessions_goOn_self ..) (free_goOn free _) succeeds)
      · rw [if_neg isTaken] at succeeds
        exact ends_of_step (.accept running (free key) (Bool.eq_false_iff.mpr isTaken))
          (acceptedIh (System.sessions_goOn_self ..) (free_goOn free _) succeeds)
  | write change next ih =>
      exact ends_of_step (.write running)
        (ih (System.sessions_goOn_self ..) (free_goOn free _) succeeds)

/-- Two transactions that hold no locks, each after some of its statements, can end one after the
other. -/
theorem runs_both {first second : ι} (distinct : second ≠ first) {rest rest' : Transaction κ σ α}
    {result result' : α} {middle : σ} (unlocked : ∀ i key, system.Free i key)
    (running : system.sessions first = some ⟨rest, id, ∅⟩)
    (waiting : system.sessions second = some ⟨rest', id, ∅⟩)
    (succeeds : rest.alone system.stored = some (result, middle))
    (succeeds' : rest'.alone middle = some (result', after)) :
    ∃ last, Relation.ReflTransGen Step system last ∧
      last.history = system.history ++ [(first, result), (second, result')] := by
  have ends := runs_alone running (unlocked first) succeeds
  have still : Function.update system.sessions first none second = some ⟨rest', id, ∅⟩ :=
    (Function.update_of_ne distinct ..).trans waiting
  refine ⟨_, ends.trans (runs_alone still ?_ succeeds'), List.append_assoc ..⟩
  intro key j apart session isSession
  change session ∈ Function.update system.sessions first none j at isSession
  by_cases ended : j = first
  · rw [ended, Function.update_self] at isSession
    cases isSession
  · rw [Function.update_of_ne ended] at isSession
    exact unlocked second key j apart session isSession

/-- The transactions can also run one after another, in any order in which they succeed. -/
theorem reachable_of_serial (serial : Serial programs stored history after)
    (once : (history.map (·.1)).Nodup) :
    ∃ sessions, Reachable programs stored ⟨after, sessions, history⟩ ∧
      ∀ i, sessions i =
        if i ∈ history.map (·.1) then none else some ⟨programs i, id, ∅⟩ := by
  induction serial with
  | nil => exact ⟨_, .refl, fun i => (if_neg List.not_mem_nil).symm⟩
  | @snoc history i result before after earlier succeeds ih =>
      rw [List.map_append, List.nodup_append] at once
      rcases ih once.1 with ⟨sessions, reaches, left⟩
      have fresh : i ∉ history.map (·.1) := fun member => once.2.2 i member i (by simp) rfl
      refine ⟨Function.update sessions i none,
        reaches.trans (runs_alone ((left i).trans (if_neg fresh)) ?_ succeeds), ?_⟩
      · intro key j _ session isSession
        have known : some session = _ := (Option.mem_def.mp isSession).symm.trans (left j)
        split at known
        · cases known
        · cases known
          exact Set.notMem_empty key
      · intro j
        by_cases same : j = i
        · subst same
          rw [Function.update_self, if_pos (by simp)]
        · have listed : j ∈ (history ++ [(i, result)]).map (·.1) ↔ j ∈ history.map (·.1) := by
            simp [same]
          rw [Function.update_of_ne same, left j]
          exact if_congr listed.symm rfl rfl

end Histories

end System

/-! ## The discipline -/

/-- What other transactions may do to a state while some locks are held. -/
structure Discipline (κ σ : Type) where
  Evolves : Set κ → σ → σ → Prop
  refl : ∀ held state, Evolves held state state
  trans : ∀ {held first second third}, Evolves held first second → Evolves held second third →
    Evolves held first third
  antitone : ∀ {held held' first second}, held ⊆ held' → Evolves held' first second →
    Evolves held first second

namespace Discipline

variable {ι κ σ α : Type} (discipline : Discipline κ σ)

/--
The transaction keeps the discipline, from a state as it sees it with its own
writes, of which it knows `known` whatever the others do.
-/
def Obeys : Transaction κ σ α → Set κ → (σ → Prop) → Prop
  | .done _, _, _ => True
  | .rollback, _, _ => True
  | .lock key next, held, known => Obeys next (insert key held) known
  | @Transaction.query _ _ _ ρ read next, held, known =>
      ∃ learned : ρ → σ → Prop,
        (∀ state later, known state → known later → discipline.Evolves held state later →
          learned (read state) later ∧
            Transaction.Below (next (read state)) (next (read later)) later) ∧
        ∀ state, known state → Obeys (next (read state)) held (learned (read state))
  | .claim key taken refused accepted, held, known =>
      (∀ state later, known state → known later → discipline.Evolves held state later →
        taken state = true → taken later = true) ∧
      (∀ state later, known state → known later →
        discipline.Evolves (insert key held) state later → taken state = false →
          taken later = false) ∧
      Obeys refused held (fun state => known state ∧ taken state = true) ∧
      Obeys accepted (insert key held) (fun state => known state ∧ taken state = false)
  | .write change next, held, known =>
      ∃ after : σ → Prop,
        (∀ state, known state → after (change state)) ∧
        (∀ state, known state → ∀ others, Disjoint others held →
          discipline.Evolves others state (change state)) ∧
        (∀ locks, held ⊆ locks → ∀ state later, known state → known later →
          discipline.Evolves locks state later →
            discipline.Evolves locks (change state) (change later)) ∧
        Obeys next held after

variable {discipline}

theorem obeys_lock {key : κ} {next : Transaction κ σ α} {held : Set κ} {known : σ → Prop} :
    discipline.Obeys (.lock key next) held known ↔
      discipline.Obeys next (insert key held) known :=
  Iff.rfl

theorem Obeys.mono {transaction : Transaction κ σ α} {held : Set κ} {known weaker : σ → Prop}
    (obeys : discipline.Obeys transaction held weaker) (implies : ∀ state, known state → weaker state) :
    discipline.Obeys transaction held known := by
  induction transaction generalizing held known weaker with
  | done result => trivial
  | rollback => trivial
  | lock key next ih => exact ih obeys implies
  | query read next ih =>
      rcases obeys with ⟨learned, stable, rest⟩
      refine ⟨learned, ?_, fun state knows => rest state (implies state knows)⟩
      intro state later knows knowsLater
      exact stable state later (implies state knows) (implies later knowsLater)
  | claim key taken refused accepted refusedIh acceptedIh =>
      rcases obeys with ⟨staysTaken, staysFree, ofRefused, ofAccepted⟩
      refine ⟨?_, ?_, ?_, ?_⟩
      · intro state later knows knowsLater
        exact staysTaken state later (implies state knows) (implies later knowsLater)
      · intro state later knows knowsLater
        exact staysFree state later (implies state knows) (implies later knowsLater)
      · exact refusedIh ofRefused fun state both => ⟨implies state both.1, both.2⟩
      · exact acceptedIh ofAccepted fun state both => ⟨implies state both.1, both.2⟩
  | write change next ih =>
      rcases obeys with ⟨after, leads, guaranteed, commutes, rest⟩
      refine ⟨after, fun state knows => leads state (implies state knows),
        fun state knows => guaranteed state (implies state knows), ?_, rest⟩
      intro locks includes state later knows knowsLater
      exact commutes locks includes state later (implies state knows) (implies later knowsLater)

/-- A write that the held locks allow, and what is known after it. -/
structure Allows (discipline : Discipline κ σ) (held : Set κ) (known : σ → Prop) (change : σ → σ)
    (after : σ → Prop) : Prop where
  leads : ∀ state, known state → after (change state)
  guaranteed : ∀ state, known state → ∀ others, Disjoint others held →
    discipline.Evolves others state (change state)
  commutes : ∀ locks, held ⊆ locks → ∀ state later, known state → known later →
    discipline.Evolves locks state later → discipline.Evolves locks (change state) (change later)

theorem Allows.comp {held : Set κ} {known middle after : σ → Prop} {first second : σ → σ}
    (earlier : discipline.Allows held known first middle)
    (later : discipline.Allows held middle second after) :
    discipline.Allows held known (fun state => second (first state)) after where
  leads state knows := later.leads _ (earlier.leads state knows)
  guaranteed state knows others disjoint :=
    discipline.trans (earlier.guaranteed state knows others disjoint)
      (later.guaranteed _ (earlier.leads state knows) others disjoint)
  commutes locks includes state next knows knowsNext evolves :=
    later.commutes locks includes _ _ (earlier.leads state knows) (earlier.leads next knowsNext)
      (earlier.commutes locks includes state next knows knowsNext evolves)

theorem Obeys.done {result : α} {held : Set κ} {known : σ → Prop} :
    discipline.Obeys (.done result) held known :=
  trivial

theorem Obeys.write {change : σ → σ} {next : Transaction κ σ α} {held : Set κ}
    {known after : σ → Prop} (allows : discipline.Allows held known change after)
    (rest : discipline.Obeys next held after) : discipline.Obeys (.write change next) held known :=
  ⟨after, allows.leads, allows.guaranteed, allows.commutes, rest⟩

/-- A key that stays taken, and that nobody takes while it is claimed. -/
structure Index (discipline : Discipline κ σ) (known : σ → Prop) (key : κ) (taken : σ → Bool) :
    Prop where
  staysTaken : ∀ held state later, known state → known later → discipline.Evolves held state later →
    taken state = true → taken later = true
  staysFree : ∀ held state later, key ∈ held → known state → known later →
    discipline.Evolves held state later → taken state = false → taken later = false

theorem Index.mono {known weaker : σ → Prop} {key : κ} {taken : σ → Bool}
    (index : discipline.Index weaker key taken) (implies : ∀ state, known state → weaker state) :
    discipline.Index known key taken where
  staysTaken held state later knows knowsLater :=
    index.staysTaken held state later (implies state knows) (implies later knowsLater)
  staysFree held state later claimed knows knowsLater :=
    index.staysFree held state later claimed (implies state knows) (implies later knowsLater)

theorem Obeys.claim {key : κ} {taken : σ → Bool} {refused accepted : Transaction κ σ α}
    {held : Set κ} {known : σ → Prop} (index : discipline.Index known key taken)
    (ofRefused : discipline.Obeys refused held known)
    (ofAccepted : discipline.Obeys accepted (insert key held)
      fun state => known state ∧ taken state = false) :
    discipline.Obeys (.claim key taken refused accepted) held known := by
  refine ⟨index.staysTaken held, ?_, ofRefused.mono fun _ both => both.1, ofAccepted⟩
  intro state later knows knowsLater evolves
  exact index.staysFree _ state later (Set.mem_insert ..) knows knowsLater evolves

/-- What a transaction returns does not matter to the discipline. -/
theorem Obeys.map {β : Type} {transaction : Transaction κ σ β} {result : β → α} {held : Set κ}
    {known : σ → Prop} (obeys : discipline.Obeys transaction held known) :
    discipline.Obeys (transaction >>= fun value => .done (result value)) held known := by
  induction transaction generalizing held known with
  | done value => trivial
  | rollback => trivial
  | lock key next ih => exact ih obeys
  | query read next ih =>
      rcases obeys with ⟨learned, stable, rest⟩
      refine ⟨learned, ?_, fun state knows => ih _ (rest state knows)⟩
      intro state later knows knowsLater evolves
      rcases stable state later knows knowsLater evolves with ⟨learns, below⟩
      exact ⟨learns, below.bind _⟩
  | claim key taken refused accepted refusedIh acceptedIh =>
      rcases obeys with ⟨staysTaken, staysFree, ofRefused, ofAccepted⟩
      exact ⟨staysTaken, staysFree, refusedIh ofRefused, acceptedIh ofAccepted⟩
  | write change next ih =>
      rcases obeys with ⟨after, leads, guaranteed, commutes, rest⟩
      exact ⟨after, leads, guaranteed, commutes, ih rest⟩

/-- Nothing has to be shown of what never happens. -/
theorem Obeys.never (transaction : Transaction κ σ α) (held : Set κ) :
    discipline.Obeys transaction held fun _ => False := by
  induction transaction generalizing held with
  | done result => trivial
  | rollback => trivial
  | lock key next ih => exact ih _
  | query read next ih =>
      exact ⟨fun _ _ => False, fun _ _ never => never.elim, fun _ never => never.elim⟩
  | claim key taken refused accepted refusedIh acceptedIh =>
      refine ⟨fun _ _ never => never.elim, fun _ _ never => never.elim, ?_, ?_⟩
      · exact (refusedIh held).mono fun _ both => both.1
      · exact (acceptedIh _).mono fun _ both => both.1
  | write change next ih =>
      exact ⟨fun _ => False, fun _ never => never.elim, fun _ never => never.elim,
        fun _ _ _ _ never => never.elim, ih held⟩

/-- What follows from the knowledge can be used outside of it. -/
theorem Obeys.of_fact {transaction : Transaction κ σ α} {held : Set κ} {known : σ → Prop}
    (fact : Prop) (implies : ∀ state, known state → fact)
    (rest : fact → discipline.Obeys transaction held known) :
    discipline.Obeys transaction held known := by
  by_cases happens : ∃ state, known state
  · rcases happens with ⟨state, knows⟩
    exact rest (implies state knows)
  · exact (Obeys.never transaction held).mono fun state knows => happens ⟨state, knows⟩

/-- A query whose answer the held locks protect. -/
theorem Obeys.stableQuery {ρ : Type} {read : σ → ρ} {next : ρ → Transaction κ σ α} {held : Set κ}
    {known : σ → Prop}
    (stable : ∀ state later, known state → known later → discipline.Evolves held state later →
      read later = read state)
    (rest : ∀ answer, discipline.Obeys (next answer) held fun state =>
      known state ∧ read state = answer) :
    discipline.Obeys (.query read next) held known := by
  refine ⟨fun answer state => known state ∧ read state = answer, ?_, fun state _ => rest _⟩
  intro state later knows knowsLater evolves
  have same := stable state later knows knowsLater evolves
  exact ⟨⟨knowsLater, same⟩, .of_eq (by rw [same])⟩

/-- A query whose answer does not matter to what the transaction does alone. -/
theorem Obeys.freeQuery {ρ : Type} {read : σ → ρ} {next : ρ → Transaction κ σ α} {held : Set κ}
    {known : σ → Prop}
    (idle : ∀ answer other state, known state →
      (next answer).alone state = (next other).alone state)
    (rest : ∀ answer, discipline.Obeys (next answer) held known) :
    discipline.Obeys (.query read next) held known :=
  ⟨fun _ => known, fun _ later _ knowsLater _ => ⟨knowsLater, .of_eq (idle _ _ later knowsLater)⟩,
    fun _ _ => rest _⟩

/-- The locks of some rows. -/
def locksOf {ι : Type} (key : ι → κ) (ids : List ι) : Set κ :=
  {lock | ∃ id ∈ ids, key id = lock}

theorem mem_locksOf {ι : Type} {key : ι → κ} {ids : List ι} {lock : κ} :
    lock ∈ locksOf key ids ↔ ∃ id ∈ ids, key id = lock :=
  Iff.rfl

@[simp]
theorem locksOf_nil {ι : Type} (key : ι → κ) (held : Set κ) : held ∪ locksOf key [] = held := by
  ext lock
  simp [mem_locksOf]

theorem locksOf_cons {ι : Type} (key : ι → κ) (id : ι) (ids : List ι) (held : Set κ) :
    insert (key id) held ∪ locksOf key ids = held ∪ locksOf key (id :: ids) := by
  ext lock
  simp only [Set.mem_union, Set.mem_insert_iff, mem_locksOf, List.mem_cons, exists_eq_or_imp,
    eq_comm (b := lock)]
  tauto

/-- Rows that are read under their locks. -/
theorem Obeys.lockRows {ι ρ β : Type} {key : ι → κ} {row : ι → σ → Option ρ} {ids : List ι}
    {next : List ρ → Transaction κ σ β} {held : Set κ} {known : σ → Prop}
    (stable : ∀ id ∈ ids, ∀ locks, insert (key id) held ⊆ locks → ∀ state later, known state →
      known later → discipline.Evolves locks state later → row id later = row id state)
    (rest : ∀ rows, discipline.Obeys (next rows) (held ∪ locksOf key ids)
      fun state => known state ∧ (ids.filterMap fun id => row id state) = rows) :
    discipline.Obeys (Transaction.lockRows key row ids >>= next) held known := by
  induction ids generalizing held known next with
  | nil =>
      have obeys := rest []
      rw [locksOf_nil] at obeys
      exact obeys.mono fun state knows => ⟨knows, rfl⟩
  | cons id ids ih =>
      simp only [Transaction.lockRows, Transaction.lockRow_bind, Transaction.ask_bind,
        Transaction.lock_bind, Transaction.query_bind, Transaction.bind_assoc]
      refine obeys_lock.mpr (Obeys.stableQuery ?_ ?_)
      · intro state later knows knowsLater evolves
        exact stable id (List.mem_cons_self ..) _ (Set.Subset.refl _) state later knows knowsLater
          evolves
      · intro found
        apply ih
        · intro other member locks includes state later knows knowsLater evolves
          have more := (Set.insert_subset_insert (Set.subset_insert (key id) held)).trans includes
          exact stable other (List.mem_cons_of_mem _ member) locks more state later knows.1
            knowsLater.1 evolves
        · intro rows
          rw [locksOf_cons]
          refine (rest (found.toList ++ rows)).mono ?_
          rintro state ⟨⟨knows, read⟩, others⟩
          refine ⟨knows, ?_⟩
          subst read others
          cases here : row id state with
          | none => simp [here]
          | some value => simp [here]

/-- Rows that are only locked. -/
theorem Obeys.onlyLockRows {ι ρ β : Type} {key : ι → κ} {row : ι → σ → Option ρ} {ids : List ι}
    {next : Transaction κ σ β} {held : Set κ} {known : σ → Prop}
    (rest : discipline.Obeys next (held ∪ locksOf key ids) known) :
    discipline.Obeys (Transaction.lockRows key row ids >>= fun _ => next) held known := by
  induction ids generalizing held with
  | nil =>
      rw [locksOf_nil] at rest
      exact rest
  | cons id ids ih =>
      simp only [Transaction.lockRows, Transaction.lockRow_bind, Transaction.ask_bind,
        Transaction.lock_bind, Transaction.query_bind, Transaction.bind_assoc]
      refine obeys_lock.mpr (Obeys.freeQuery ?_ fun found => ?_)
      · intro found other state _
        simp only [Transaction.alone_bind, Transaction.alone_lockRows, Option.bind_some,
          Transaction.pure_eq, Transaction.alone_done]
      · rw [← locksOf_cons] at rest
        exact ih rest

/-- A check may end the transaction. -/
theorem Obeys.orRollback {ε β γ : Type} {value : Except ε β} {next : β → Transaction κ σ γ}
    {held : Set κ} {known : σ → Prop}
    (rest : ∀ passed, value = .ok passed → discipline.Obeys (next passed) held known) :
    discipline.Obeys (Transaction.orRollback value >>= next) held known := by
  cases value with
  | error error => trivial
  | ok passed => exact rest passed rfl

/--
A locking query.  What was visible at its start may be out of date when the last
lock is granted, so the rest may do less with the rows it gets than with those
that a later query would give.
-/
theorem Obeys.selectForUpdate {ι ρ β : Type} {visible : σ → List ι} {key : ι → κ}
    {row : ι → σ → Option ρ} {next : List ρ → Transaction κ σ β} {held : Set κ} {known : σ → Prop}
    (seen : List ι → σ → Prop)
    (learns : ∀ state later, known state → known later → discipline.Evolves held state later →
      seen (visible state) later ∧
        Transaction.Below (next ((visible state).filterMap fun id => row id later))
          (next ((visible later).filterMap fun id => row id later)) later)
    (stable : ∀ ids id, id ∈ ids → ∀ locks, insert (key id) held ⊆ locks → ∀ state later,
      known state ∧ seen ids state → known later ∧ seen ids later →
        discipline.Evolves locks state later → row id later = row id state)
    (rest : ∀ state, known state → ∀ rows,
      discipline.Obeys (next rows) (held ∪ locksOf key (visible state)) fun later =>
        (known later ∧ seen (visible state) later) ∧
          ((visible state).filterMap fun id => row id later) = rows) :
    discipline.Obeys (Transaction.selectForUpdate visible key row >>= next) held known := by
  simp only [Transaction.selectForUpdate, Transaction.ask_bind, Transaction.query_bind]
  refine ⟨fun ids state => known state ∧ seen ids state, ?_, ?_⟩
  · intro state later knows knowsLater evolves
    rcases learns state later knows knowsLater evolves with ⟨sees, below⟩
    refine ⟨⟨knowsLater, sees⟩, ?_⟩
    intro result succeeded
    rw [Transaction.alone_bind, Transaction.alone_lockRows, Option.bind_some] at succeeded ⊢
    exact below result succeeded
  · intro state knows
    exact Obeys.lockRows (stable (visible state)) (rest state knows)

/-- A locking query whose rows are not used. -/
theorem Obeys.onlySelectForUpdate {ι ρ β : Type} {visible : σ → List ι} {key : ι → κ}
    {row : ι → σ → Option ρ} {next : Transaction κ σ β} {held : Set κ} {known : σ → Prop}
    (seen : List ι → σ → Prop)
    (learns : ∀ state later, known state → known later → discipline.Evolves held state later →
      seen (visible state) later)
    (rest : ∀ ids, discipline.Obeys next (held ∪ locksOf key ids) fun state =>
      known state ∧ seen ids state) :
    discipline.Obeys (Transaction.selectForUpdate visible key row >>= fun _ => next) held known := by
  simp only [Transaction.selectForUpdate, Transaction.ask_bind, Transaction.query_bind]
  refine ⟨fun ids state => known state ∧ seen ids state, ?_, ?_⟩
  · intro state later knows knowsLater evolves
    refine ⟨⟨knowsLater, learns state later knows knowsLater evolves⟩, .of_eq ?_⟩
    rw [Transaction.alone_bind, Transaction.alone_bind, Transaction.alone_lockRows,
      Transaction.alone_lockRows, Option.bind_some, Option.bind_some]
  · intro state _
    exact Obeys.onlyLockRows (rest (visible state))

/-- A locking query for one row.  A row may come after it was looked for in vain. -/
theorem Obeys.firstForUpdate {ι ρ β : Type} {visible : σ → Option ι} {key : ι → κ}
    {row : ι → σ → Option ρ} {next : Option ρ → Transaction κ σ β} {held : Set κ} {known : σ → Prop}
    (settles : ∀ state later, known state → known later → discipline.Evolves held state later →
      ∀ id, visible state = some id → visible later = some id)
    (below : ∀ later, known later → ∀ id, visible later = some id →
      Transaction.Below (next none) (next (row id later)) later)
    (stable : ∀ id locks state later, key id ∈ locks → known state ∧ visible state = some id →
      known later ∧ visible later = some id → discipline.Evolves locks state later →
        row id later = row id state)
    (restNone : discipline.Obeys (next none) held known)
    (rest : ∀ id found, discipline.Obeys (next found) (insert (key id) held) fun state =>
      (known state ∧ visible state = some id) ∧ row id state = found) :
    discipline.Obeys (Transaction.firstForUpdate visible key row >>= next) held known := by
  simp only [Transaction.firstForUpdate, Transaction.ask_bind, Transaction.query_bind]
  refine ⟨fun answer state => known state ∧ ∀ id, answer = some id → visible state = some id, ?_, ?_⟩
  · intro state later knows knowsLater evolves
    have still := settles state later knows knowsLater evolves
    refine ⟨⟨knowsLater, still⟩, ?_⟩
    cases seen : visible state with
    | none =>
        cases seenLater : visible later with
        | none => exact .of_eq rfl
        | some id => exact below later knowsLater id seenLater
    | some id =>
        rw [still id seen]
        exact .of_eq rfl
  · intro state _
    cases visible state with
    | none => exact restNone.mono fun later both => both.1
    | some id =>
        have locked : discipline.Obeys (.lock (key id) (.query (row id) next)) held fun later =>
            known later ∧ visible later = some id := by
          refine obeys_lock.mpr (Obeys.stableQuery ?_ fun found => rest id found)
          intro state later both bothLater evolves
          exact stable id _ state later (Set.mem_insert ..) both bothLater evolves
        exact locked.mono fun later both => ⟨both.1, both.2 id rfl⟩

/-- A locking query for one row that must be there. -/
theorem Obeys.getForUpdate {ρ β : Type} {key : κ} {row : σ → Option ρ}
    {next : Option ρ → Transaction κ σ β} {held : Set κ} {known : σ → Prop}
    (absent : next none = .rollback)
    (persists : ∀ state later, known state → known later → discipline.Evolves held state later →
      (row state).isSome = true → (row later).isSome = true)
    (stable : ∀ locks state later, key ∈ locks → known state → known later →
      discipline.Evolves locks state later → (row state).isSome = true → row later = row state)
    (rest : ∀ found, discipline.Obeys (next (some found)) (insert key held) fun state =>
      known state ∧ row state = some found) :
    discipline.Obeys (Transaction.getForUpdate key row >>= next) held known := by
  have isThere {state : σ} {id : Unit} :
      ((row state).map fun _ => ()) = some id ↔ (row state).isSome = true := by
    cases row state with
    | none => simp
    | some found => simp
  refine Obeys.firstForUpdate ?_ ?_ ?_ ?_ fun _ found => ?_
  · intro state later knows knowsLater evolves id seen
    exact isThere.mpr (persists state later knows knowsLater evolves (isThere.mp seen))
  · intro later _ _ _ result succeeded
    rw [absent] at succeeded
    cases succeeded
  · intro _ locks state later locked both bothLater evolves
    exact stable locks state later locked both.1 bothLater.1 evolves (isThere.mp both.2)
  · rw [absent]
    trivial
  · cases found with
    | none =>
        rw [absent]
        trivial
    | some found => exact (rest found).mono fun state all => ⟨all.1.1, all.2⟩

/-- A step for each item that takes further locks and keeps what is known. -/
theorem Obeys.foldlM {δ β γ : Type} {step : β → δ → Transaction κ σ β} {items : List δ}
    {start : β} {next : β → Transaction κ σ γ} {held : Set κ} {known : σ → Prop}
    (steps : ∀ item ∈ items, ∀ total locks, held ⊆ locks → ∀ others : β → Transaction κ σ γ,
      (∀ result locks', locks ⊆ locks' → discipline.Obeys (others result) locks' known) →
        discipline.Obeys (step total item >>= others) locks known)
    (rest : ∀ result locks, held ⊆ locks → discipline.Obeys (next result) locks known) :
    discipline.Obeys (items.foldlM step start >>= next) held known := by
  induction items generalizing start held with
  | nil => exact rest start held (Set.Subset.refl held)
  | cons item items ih =>
      simp only [List.foldlM_cons, Transaction.bind_assoc]
      refine steps item (List.mem_cons_self ..) start held (Set.Subset.refl held) _
        fun result locks more => ih ?_ ?_
      · intro other member total locks' more'
        exact steps other (List.mem_cons_of_mem _ member) total locks' (more.trans more')
      · intro result locks' more'
        exact rest result locks' (more.trans more')

/-- The same for each of some items. -/
theorem Obeys.each {δ β γ : Type} {step : δ → Transaction κ σ β} {items : List δ}
    {next : List β → Transaction κ σ γ} {held : Set κ} {known : σ → Prop}
    (steps : ∀ item ∈ items, ∀ others : β → Transaction κ σ γ,
      (∀ result, discipline.Obeys (others result) held known) →
        discipline.Obeys (step item >>= others) held known)
    (rest : ∀ results, discipline.Obeys (next results) held known) :
    discipline.Obeys (Transaction.each step items >>= next) held known := by
  induction items generalizing next with
  | nil => exact rest []
  | cons item items ih =>
      simp only [Transaction.each, Transaction.bind_assoc, Transaction.pure_eq,
        Transaction.done_bind]
      refine steps item (List.mem_cons_self ..) _ fun result => ih ?_ fun results => rest _
      intro other member
      exact steps other (List.mem_cons_of_mem _ member)

/-! ## Every history is serial -/

section Serializability

variable {programs : ι → Transaction κ σ α} {good : σ → Prop}

/-- What a session has done and what it knows, in a state that may still come before it commits. -/
structure Fits (discipline : Discipline κ σ) (good : σ → Prop) (original : Transaction κ σ α)
    (session : Session κ σ α) (known : σ → Prop) (state : σ) : Prop where
  knows : known (session.own state)
  serial : ∀ result, session.rest.alone (session.own state) = some result →
    original.alone state = some result
  guaranteed : ∀ others, Disjoint others session.held →
    discipline.Evolves others state (session.own state)
  commutes : ∀ locks, session.held ⊆ locks → ∀ later, good later →
    discipline.Evolves locks state later →
      discipline.Evolves locks (session.own state) (session.own later)

/-- The session fits all states to which the others may still bring the stored one. -/
def Tracks (discipline : Discipline κ σ) (good : σ → Prop) (original : Transaction κ σ α)
    (stored : σ) (session : Session κ σ α) : Prop :=
  ∃ known, discipline.Obeys session.rest session.held known ∧
    ∀ state, good state → discipline.Evolves session.held stored state →
      discipline.Fits good original session known state

theorem Tracks.start {original : Transaction κ σ α} (obeys : discipline.Obeys original ∅ good)
    (stored : σ) : discipline.Tracks good original stored ⟨original, id, ∅⟩ := by
  refine ⟨good, obeys, fun state isGood _ => ⟨isGood, fun _ succeeds => succeeds, ?_, ?_⟩⟩
  · intro others _
    exact discipline.refl others state
  · intro locks _ later _ evolves
    exact evolves

/-- The commits of others leave a session on its track. -/
theorem Tracks.evolve {original : Transaction κ σ α} {stored after : σ} {session : Session κ σ α}
    (tracks : discipline.Tracks good original stored session)
    (evolves : discipline.Evolves session.held stored after) :
    discipline.Tracks good original after session := by
  rcases tracks with ⟨known, obeys, fits⟩
  exact ⟨known, obeys, fun state isGood later => fits state isGood (discipline.trans evolves later)⟩

theorem Tracks.lock {original : Transaction κ σ α} {stored : σ} {key : κ}
    {next : Transaction κ σ α} {own : σ → σ} {held : Set κ}
    (tracks : discipline.Tracks good original stored ⟨.lock key next, own, held⟩) :
    discipline.Tracks good original stored ⟨next, own, insert key held⟩ := by
  rcases tracks with ⟨known, obeys, fits⟩
  refine ⟨known, obeys, fun state isGood evolves => ?_⟩
  have fit := fits state isGood (discipline.antitone (Set.subset_insert ..) evolves)
  refine ⟨fit.knows, fit.serial, ?_, ?_⟩
  · intro others disjoint
    exact fit.guaranteed others (disjoint.mono_right (Set.subset_insert ..))
  · intro locks includes
    exact fit.commutes locks ((Set.subset_insert ..).trans includes)

theorem Tracks.query {original : Transaction κ σ α} {stored : σ} {ρ : Type} {read : σ → ρ}
    {next : ρ → Transaction κ σ α} {own : σ → σ} {held : Set κ} (isGood : good stored)
    (tracks : discipline.Tracks good original stored ⟨.query read next, own, held⟩) :
    discipline.Tracks good original stored ⟨next (read (own stored)), own, held⟩ := by
  rcases tracks with ⟨known, ⟨learned, stable, rest⟩, fits⟩
  have now := fits stored isGood (discipline.refl held stored)
  refine ⟨learned (read (own stored)), rest _ now.knows, fun state isGood' evolves => ?_⟩
  have fit := fits state isGood' evolves
  rcases stable _ _ now.knows fit.knows (now.commutes held subset_rfl state isGood' evolves) with
    ⟨learns, below⟩
  exact ⟨learns, fun result succeeds => fit.serial result (below result succeeds),
    fit.guaranteed, fit.commutes⟩

theorem Tracks.refuse {original : Transaction κ σ α} {stored : σ} {key : κ} {taken : σ → Bool}
    {refused accepted : Transaction κ σ α} {own : σ → σ} {held : Set κ} (isGood : good stored)
    (tracks : discipline.Tracks good original stored
      ⟨.claim key taken refused accepted, own, held⟩)
    (isTaken : taken (own stored) = true) :
    discipline.Tracks good original stored ⟨refused, own, held⟩ := by
  rcases tracks with ⟨known, ⟨staysTaken, -, rest, -⟩, fits⟩
  have now := fits stored isGood (discipline.refl held stored)
  refine ⟨_, rest, fun state isGood' evolves => ?_⟩
  have fit := fits state isGood' evolves
  have still := staysTaken _ _ now.knows fit.knows
    (now.commutes held subset_rfl state isGood' evolves) isTaken
  refine ⟨⟨fit.knows, still⟩, fun result succeeds => fit.serial result ?_, fit.guaranteed,
    fit.commutes⟩
  rw [Transaction.alone_claim, if_pos still]
  exact succeeds

theorem Tracks.accept {original : Transaction κ σ α} {stored : σ} {key : κ} {taken : σ → Bool}
    {refused accepted : Transaction κ σ α} {own : σ → σ} {held : Set κ} (isGood : good stored)
    (tracks : discipline.Tracks good original stored
      ⟨.claim key taken refused accepted, own, held⟩)
    (unused : taken (own stored) = false) :
    discipline.Tracks good original stored ⟨accepted, own, insert key held⟩ := by
  rcases tracks with ⟨known, ⟨-, staysFree, -, rest⟩, fits⟩
  have now := fits stored isGood (discipline.refl held stored)
  refine ⟨_, rest, fun state isGood' evolves => ?_⟩
  have fit := fits state isGood' (discipline.antitone (Set.subset_insert ..) evolves)
  have still := staysFree _ _ now.knows fit.knows
    (now.commutes _ (Set.subset_insert ..) state isGood' evolves) unused
  refine ⟨⟨fit.knows, still⟩, fun result succeeds => fit.serial result ?_, ?_, ?_⟩
  · rw [Transaction.alone_claim, if_neg (Bool.eq_false_iff.mp still)]
    exact succeeds
  · intro others disjoint
    exact fit.guaranteed others (disjoint.mono_right (Set.subset_insert ..))
  · intro locks includes
    exact fit.commutes locks ((Set.subset_insert ..).trans includes)

theorem Tracks.write {original : Transaction κ σ α} {stored : σ} {change : σ → σ}
    {next : Transaction κ σ α} {own : σ → σ} {held : Set κ}
    (tracks : discipline.Tracks good original stored ⟨.write change next, own, held⟩) :
    discipline.Tracks good original stored ⟨next, change ∘ own, held⟩ := by
  rcases tracks with ⟨known, ⟨after, leads, guaranteed, commutes, rest⟩, fits⟩
  refine ⟨after, rest, fun state isGood evolves => ?_⟩
  have fit := fits state isGood evolves
  refine ⟨leads _ fit.knows, fit.serial, ?_, ?_⟩
  · intro others disjoint
    exact discipline.trans (fit.guaranteed others disjoint) (guaranteed _ fit.knows others disjoint)
  · intro locks includes later isGood' evolves'
    have fit' := fits later isGood' (discipline.trans evolves (discipline.antitone includes evolves'))
    exact commutes locks includes _ _ fit.knows fit'.knows
      (fit.commutes locks includes later isGood' evolves')

/-- What holds of the system after every step. -/
structure Consistent (discipline : Discipline κ σ) (programs : ι → Transaction κ σ α)
    (good : σ → Prop) (start : σ) (system : System ι κ σ α) : Prop where
  isGood : good system.stored
  serial : Serial programs start system.history system.stored
  exclusive : ∀ i j, i ≠ j → ∀ session ∈ system.sessions i, ∀ other ∈ system.sessions j,
    Disjoint session.held other.held
  tracks : ∀ i, ∀ session ∈ system.sessions i,
    discipline.Tracks good (programs i) system.stored session

variable [DecidableEq ι] {start : σ} {system after : System ι κ σ α}

/-- A session goes on with the same locks, or with one more that was free. -/
theorem Consistent.goOn (consistent : discipline.Consistent programs good start system) {i : ι}
    {before session : Session κ σ α} (running : system.sessions i = some before)
    (locks : ∀ lock ∈ session.held, lock ∈ before.held ∨ system.Free i lock)
    (tracks : discipline.Tracks good (programs i) system.stored session) :
    discipline.Consistent programs good start (system.goOn i (some session)) := by
  have apart : ∀ j, j ≠ i → ∀ other ∈ system.sessions j, Disjoint session.held other.held := by
    intro j distinct other isOther
    refine Set.disjoint_left.mpr fun lock locked => ?_
    rcases locks lock locked with old | free
    · exact Set.disjoint_left.mp
        (consistent.exclusive i j distinct.symm before running other isOther) old
    · exact free j distinct other isOther
  refine ⟨consistent.isGood, consistent.serial, ?_, ?_⟩
  · intro j k distinct first isFirst second isSecond
    by_cases ofJ : j = i
    · subst ofJ
      rw [System.sessions_goOn_self, Option.mem_some_iff] at isFirst
      rw [System.sessions_goOn _ distinct.symm] at isSecond
      subst isFirst
      exact apart k distinct.symm second isSecond
    · rw [System.sessions_goOn _ ofJ] at isFirst
      by_cases ofK : k = i
      · subst ofK
        rw [System.sessions_goOn_self, Option.mem_some_iff] at isSecond
        subst isSecond
        exact (apart j ofJ first isFirst).symm
      · rw [System.sessions_goOn _ ofK] at isSecond
        exact consistent.exclusive j k distinct first isFirst second isSecond
  · intro j other isOther
    by_cases ofJ : j = i
    · subst ofJ
      rw [System.sessions_goOn_self, Option.mem_some_iff] at isOther
      subst isOther
      exact tracks
    · rw [System.sessions_goOn _ ofJ] at isOther
      exact consistent.tracks j other isOther

/-- The sessions that are left when one has ended. -/
theorem mem_ended {sessions : ι → Option (Session κ σ α)} {i j : ι} {session : Session κ σ α}
    (left : session ∈ Function.update sessions i none j) : j ≠ i ∧ session ∈ sessions j := by
  by_cases ofJ : j = i
  · subst ofJ
    rw [Function.update_self] at left
    exact absurd left (Option.not_mem_none _)
  · rw [Function.update_of_ne ofJ] at left
    exact ⟨ofJ, left⟩

theorem Consistent.exclusive_ended
    (consistent : discipline.Consistent programs good start system) (i j k : ι) (distinct : j ≠ k) :
    ∀ session ∈ Function.update system.sessions i none j,
      ∀ other ∈ Function.update system.sessions i none k, Disjoint session.held other.held :=
  fun session left other otherLeft =>
    consistent.exclusive j k distinct session (mem_ended left).2 other (mem_ended otherLeft).2

theorem Consistent.step
    (keepsGood : ∀ i state result, good state → (programs i).alone state = some result →
      good result.2)
    (consistent : discipline.Consistent programs good start system) (step : Step system after) :
    discipline.Consistent programs good start after := by
  cases step with
  | lock running free =>
      refine consistent.goOn running ?_ (consistent.tracks _ _ running).lock
      rintro lock (rfl | old)
      · exact .inr free
      · exact .inl old
  | query running =>
      exact consistent.goOn running (fun _ => .inl)
        ((consistent.tracks _ _ running).query consistent.isGood)
  | refuse running free isTaken =>
      exact consistent.goOn running (fun _ => .inl)
        ((consistent.tracks _ _ running).refuse consistent.isGood isTaken)
  | accept running free unused =>
      refine consistent.goOn running ?_
        ((consistent.tracks _ _ running).accept consistent.isGood unused)
      rintro lock (rfl | old)
      · exact .inr free
      · exact .inl old
  | write running =>
      exact consistent.goOn running (fun _ => .inl) (consistent.tracks _ _ running).write
  | @commit i result own held running =>
      rcases consistent.tracks _ _ running with ⟨known, -, fits⟩
      have fit := fits _ consistent.isGood (discipline.refl held _)
      have succeeds := fit.serial _ rfl
      refine ⟨keepsGood i _ _ consistent.isGood succeeds, consistent.serial.snoc succeeds,
        consistent.exclusive_ended i, ?_⟩
      intro j other isOther
      rcases mem_ended isOther with ⟨distinct, wasOther⟩
      exact (consistent.tracks j other wasOther).evolve
        (fit.guaranteed _ (consistent.exclusive j i distinct other wasOther _ running))
  | @abort i session running =>
      refine ⟨consistent.isGood, consistent.serial, consistent.exclusive_ended i, ?_⟩
      intro j other isOther
      exact consistent.tracks j other (mem_ended isOther).2

/--
Transactions that obey a discipline are serializable: in every state that any
order of their statements leads to, the committed ones have done what they do
alone, in the order of their commits.
-/
theorem serial_of_reachable (obeys : ∀ i, discipline.Obeys (programs i) ∅ good)
    (keepsGood : ∀ i state result, good state → (programs i).alone state = some result →
      good result.2)
    (startsGood : good start) (reachable : Reachable programs start system) :
    Serial programs start system.history system.stored := by
  have consistent : discipline.Consistent programs good start system := by
    induction reachable with
    | refl =>
        refine ⟨startsGood, .nil, ?_, ?_⟩
        · rintro i j - session isSession other isOther
          cases isSession
          cases isOther
          exact disjoint_bot_left
        · intro i session isSession
          cases isSession
          exact .start (obeys i) start
    | tail _ step ih => exact ih.step keepsGood step
  exact consistent.serial

end Serializability

end Discipline

end RowLocks
