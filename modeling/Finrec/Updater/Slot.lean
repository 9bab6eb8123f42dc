import Finrec.Updater.Executions
import Finrec.Updater.LastCheck

/-!
# One slot, many threads

The requests, the worker and the recovery of one process share the state file.
All of them hold the operation lock while they read, work and save; a status only
reads, and another process completes a pending cleanup only while the updater is
stopped.  A thread goes on from where it is as long as it finds the world as it
left it, and does anything at all where it does not, so that nothing but the lock
keeps the threads apart.
-/

namespace Finrec.Updater

open CrashLogic UpdateManager Relation

section Starts

variable {world : World}

theorem looks_loadState : Looks loadState :=
  Looks.bind Looks.read fun _ => Looks.pure

theorem looks_now : Looks now := by
  refine Looks.act fun choice world => ?_
  split
  · rfl
  · rfl

theorem looks_rejectActiveTask (state : PersistentState) : Looks (rejectActiveTask state) := by
  unfold rejectActiveTask
  split
  · exact Looks.pure
  · exact Looks.raise

theorem looks_versionKeyOf (version : String) : Looks (versionKeyOf version) := by
  unfold versionKeyOf
  split
  · exact Looks.pure
  · exact Looks.raise

theorem looks_requireMatchingRepositories (current target : ImageIdentity) :
    Looks (requireMatchingRepositories current target) := by
  unfold requireMatchingRepositories
  split
  · exact Looks.pure
  · exact Looks.raise

theorem looks_requireFreshCheck (checked : Option CheckResult) (targetVersion : String) :
    Looks (requireFreshCheck checked targetVersion) := by
  refine Looks.bind (looks_versionKeyOf targetVersion) fun _ => ?_
  cases checked with
  | none => exact Looks.raise
  | some checked =>
      dsimp only
      split
      · exact Looks.raise
      split
      · exact Looks.raise
      refine Looks.bind looks_now fun instant => ?_
      split
      · exact Looks.raise
      · exact Looks.bind (looks_requireMatchingRepositories _ _) fun _ => Looks.pure

/-- A start saves once, as the last thing it does. -/
theorem atomic_start (targetVersion taskId : String) :
    Atomic (UpdateManager.start targetVersion taskId) := by
  have opens : ∀ state, Atomic (startNew state targetVersion taskId) := by
    intro state
    refine Atomic.bind (looks_rejectActiveTask state) fun _ => ?_
    refine Atomic.bind (looks_requireFreshCheck state.lastCheck targetVersion) fun checked => ?_
    refine Atomic.bind looks_observe fun resolved => ?_
    split
    · exact Atomic.raise
    · exact Atomic.bind looks_now fun createdAt => Atomic.map Atomic.act
  refine Atomic.bind looks_loadState fun state => ?_
  cases state.task with
  | none => exact opens state
  | some existing =>
      dsimp only
      split
      · unfold repeatStart
        split
        · exact Atomic.raise
        · exact Atomic.pure
      · exact opens state

end Starts

/-- How far a thread is in its operation: before the lock, or inside with what it found and has
been through since. -/
inductive Phase where
  | waiting
  | inside (found : World) (choices : List Choice)
  | finished

structure Thread where
  operation : Operation
  phase : Phase

/-- What an operation leaves after some of its steps. -/
def Operation.left (operation : Operation) (found : World) : List Choice → World
  | [] => found
  | choices => operation.leaves found choices

/-- The process of the updater, with the world it shares with the process after it. -/
structure Server where
  world : World
  threads : List Thread := []
  /-- The thread that holds the operation lock. -/
  holder : Option ℕ := none
  running : Bool := false

/-- The thread is inside its operation, with what it found and what it has been through since. -/
def Server.Inside (server : Server) (thread : ℕ) (operation : Operation) (found : World)
    (choices : List Choice) : Prop :=
  server.threads[thread]? = some ⟨operation, .inside found choices⟩

inductive Happening where
  | begins (operation : Operation)
  | acquires (thread : ℕ)
  | acts (thread : ℕ) (choice : Choice)
  | releases (thread : ℕ)
  | readsStatus
  | dies
  | completesCleanup (choices : List Choice)
  | boots

/-- One step of one thread, or of the machine around them. -/
inductive Server.Step : Happening → Server → Server → Prop where
  | begins {server : Server} {operation : Operation} (running : server.running = true)
      (served : operation ≠ .completePendingCleanup) :
      Step (.begins operation) server
        { server with threads := server.threads ++ [⟨operation, .waiting⟩] }
  | acquires {server : Server} {thread : ℕ} {operation : Operation}
      (free : server.holder = none)
      (waits : server.threads[thread]? = some ⟨operation, .waiting⟩) :
      Step (.acquires thread) server
        { server with
          holder := some thread,
          threads := server.threads.set thread ⟨operation, .inside server.world []⟩ }
  | acts {server : Server} {thread : ℕ} {operation : Operation} {found : World}
      {choices : List Choice} {choice : Choice} {world : World}
      (inside : server.Inside thread operation found choices)
      (goesOn : server.world = operation.left found choices →
        world = operation.left found (choices ++ [choice])) :
      Step (.acts thread choice) server
        { server with
          world := world,
          threads := server.threads.set thread ⟨operation, .inside found (choices ++ [choice])⟩ }
  | releases {server : Server} {thread : ℕ} {operation : Operation} {found : World}
      {choices : List Choice} (inside : server.Inside thread operation found choices) :
      Step (.releases thread) server
        { server with
          holder := none, threads := server.threads.set thread ⟨operation, .finished⟩ }
  | readsStatus {server : Server} : Step .readsStatus server server
  | dies {server : Server} : Step .dies server { world := server.world }
  | completesCleanup {server : Server} {choices : List Choice} (stopped : server.running = false) :
      Step (.completesCleanup choices) server
        { server with world := Operation.completePendingCleanup.leaves server.world choices }
  | boots {server : Server} (stopped : server.running = false) :
      Step .boots server { server with threads := [⟨.recover, .waiting⟩], running := true }

/-- The states that the threads can reach in any order of their steps. -/
def Server.Reachable (start : World) : Server → Prop :=
  ReflTransGen (fun before after => ∃ happening, Server.Step happening before after)
    { world := start }

/-- What the lock gives: the thread inside holds it, and the world is what that thread left of what
it found. -/
structure Locked (start : World) (server : Server) : Prop where
  inside : ∀ thread operation found choices, server.Inside thread operation found choices →
    server.holder = some thread ∧ server.world = operation.left found choices
  held : ∀ thread, server.holder = some thread →
    ∃ operation found choices, server.Inside thread operation found choices
  stopped : server.running = false → server.threads = []
  /-- Whoever is inside found what the operations before it left, one after another. -/
  serial : ∃ history, (server.holder = none → server.world = run start history) ∧
    ∀ thread operation found choices, server.Inside thread operation found choices →
      found = run start history

section Lock

variable {server after : Server} {happening : Happening} {start world : World} {thread : ℕ}
  {operation : Operation} {found : World} {choices : List Choice}

/-- A thread after a change is the changed one or one that was there before. -/
theorem threads_set {threads : List Thread} {other : ℕ} {changed looked : Thread}
    (present : (threads.set thread changed)[other]? = some looked) :
    other = thread ∧ looked = changed ∨ other ≠ thread ∧ threads[other]? = some looked := by
  by_cases same : other = thread
  · subst same
    rw [List.getElem?_set_self'] at present
    cases old : threads[other]? with
    | none => simp [old] at present
    | some _ =>
        simp [old] at present
        exact .inl ⟨rfl, present.symm⟩
  · rw [List.getElem?_set_ne (Ne.symm same)] at present
    exact .inr ⟨same, present⟩

theorem getElem?_set_of_some {threads : List Thread} {changed old : Thread}
    (present : threads[thread]? = some old) :
    (threads.set thread changed)[thread]? = some changed := by
  rw [List.getElem?_set_self', present]
  rfl

/-- At most one thread is inside. -/
theorem Locked.only (locked : Locked start server) {other : ℕ} {operation' : Operation}
    {found' : World} {choices' : List Choice} (first : server.Inside thread operation found choices)
    (second : server.Inside other operation' found' choices') : thread = other := by
  have firstHolds := (locked.inside _ _ _ _ first).1
  have secondHolds := (locked.inside _ _ _ _ second).1
  exact Option.some.inj (firstHolds.symm.trans secondHolds)

theorem Locked.alone (locked : Locked start server) (free : server.holder = none) :
    ¬server.Inside thread operation found choices := by
  intro inside
  have holds := (locked.inside _ _ _ _ inside).1
  rw [free] at holds
  cases holds

/-- Without threads nobody is inside. -/
theorem not_inside_of_empty (empty : server.threads = []) :
    ¬server.Inside thread operation found choices := by
  simp [Server.Inside, empty]

theorem locked_start (start : World) : Locked start { world := start } where
  inside := fun _ _ _ _ inside => absurd inside (not_inside_of_empty rfl)
  held := nofun
  stopped := fun _ => rfl
  serial := ⟨[], fun _ => rfl, fun _ _ _ _ inside => absurd inside (not_inside_of_empty rfl)⟩

/-- What a thread left is what a history leaves that goes on with its operation. -/
theorem left_serial (start : World) (history : History) (operation : Operation)
    (choices : List Choice) :
    ∃ longer, operation.left (run start history) choices = run start longer := by
  cases choices with
  | nil => exact ⟨history, rfl⟩
  | cons choice rest =>
      refine ⟨history ++ [(operation, choice :: rest)], ?_⟩
      rw [run_append]
      rfl

/-- Every order of the steps leaves what some sequence of operations leaves. -/
theorem Locked.world_serial (locked : Locked start server) :
    ∃ history, server.world = run start history := by
  rcases locked.serial with ⟨history, idle, founds⟩
  cases holder : server.holder with
  | none => exact ⟨history, idle holder⟩
  | some thread =>
      rcases locked.held thread holder with ⟨operation, found, choices, inside⟩
      rw [(locked.inside _ _ _ _ inside).2, founds _ _ _ _ inside]
      exact left_serial start history operation choices

/-- A world that histories lead to, with a free lock and nobody inside. -/
theorem Locked.ofFree {history : History} (free : server.holder = none)
    (alone : ∀ thread operation found choices, ¬server.Inside thread operation found choices)
    (stopped : server.running = false → server.threads = [])
    (serial : server.world = run start history) : Locked start server where
  inside := fun _ _ _ _ inside => absurd inside (alone _ _ _ _)
  held := by simp [free]
  stopped := stopped
  serial := ⟨history, fun _ => serial, fun _ _ _ _ inside => absurd inside (alone _ _ _ _)⟩

theorem running_of_inside (locked : Locked start server)
    (inside : server.Inside thread operation found choices) : server.running ≠ false := by
  intro stopped
  exact not_inside_of_empty (locked.stopped stopped) inside

theorem Locked.free (locked : Locked start server) (stopped : server.running = false) :
    server.holder = none := by
  by_contra held
  rcases Option.ne_none_iff_exists'.mp held with ⟨thread, holds⟩
  rcases locked.held thread holds with ⟨operation, found, choices, inside⟩
  exact not_inside_of_empty (locked.stopped stopped) inside

theorem Locked.begins (locked : Locked start server) (running : server.running = true)
    (operation : Operation) :
    Locked start { server with threads := server.threads ++ [⟨operation, .waiting⟩] } := by
  have old : ∀ thread other found choices,
      { server with threads := server.threads ++ [⟨operation, .waiting⟩] : Server }.Inside thread
        other found choices → server.Inside thread other found choices := by
    intro thread other found choices looked
    unfold Server.Inside at looked
    rw [List.getElem?_append] at looked
    split at looked
    · exact looked
    · rw [List.getElem?_singleton] at looked
      split at looked
      · cases looked
      · cases looked
  rcases locked.serial with ⟨history, idle, founds⟩
  refine ⟨?_, ?_, ?_, history, idle, ?_⟩
  · exact fun _ _ _ _ looked => locked.inside _ _ _ _ (old _ _ _ _ looked)
  · intro thread holds
    rcases locked.held thread holds with ⟨other, found, choices, inside⟩
    have bound := (List.getElem?_eq_some_iff.mp inside).1
    exact ⟨other, found, choices, (List.getElem?_append_left bound).trans inside⟩
  · intro stopped
    rw [show server.running = false from stopped] at running
    cases running
  · exact fun _ _ _ _ looked => founds _ _ _ _ (old _ _ _ _ looked)

theorem Locked.acquires (locked : Locked start server) (free : server.holder = none)
    (waits : server.threads[thread]? = some ⟨operation, .waiting⟩) :
    Locked start { server with
      holder := some thread,
      threads := server.threads.set thread ⟨operation, .inside server.world []⟩ } := by
  rcases locked.serial with ⟨history, idle, -⟩
  have fresh : ∀ other operation' found choices,
      { server with
        holder := some thread,
        threads := server.threads.set thread ⟨operation, .inside server.world []⟩ :
          Server }.Inside other operation' found choices →
      other = thread ∧ operation' = operation ∧ found = server.world ∧ choices = [] := by
    intro other operation' found choices looked
    rcases threads_set looked with ⟨same, changed⟩ | ⟨-, old⟩
    · simp only [Thread.mk.injEq, Phase.inside.injEq] at changed
      exact ⟨same, changed⟩
    · exact absurd old (locked.alone free)
  refine ⟨?_, ?_, ?_, history, nofun, ?_⟩
  · intro other operation' found choices looked
    rcases fresh _ _ _ _ looked with ⟨rfl, rfl, rfl, rfl⟩
    exact ⟨rfl, rfl⟩
  · intro other holds
    obtain rfl := Option.some.inj holds
    exact ⟨operation, server.world, [], getElem?_set_of_some waits⟩
  · intro stopped
    simp [locked.stopped stopped] at waits
  · intro other operation' found choices looked
    rcases fresh _ _ _ _ looked with ⟨-, -, rfl, -⟩
    exact idle free

theorem Locked.acts (locked : Locked start server) {choice : Choice}
    (inside : server.Inside thread operation found choices)
    (goesOn : server.world = operation.left found choices →
      world = operation.left found (choices ++ [choice])) :
    Locked start { server with
      world := world,
      threads := server.threads.set thread
        ⟨operation, .inside found (choices ++ [choice])⟩ } := by
  rcases locked.serial with ⟨history, idle, founds⟩
  have same := locked.inside _ _ _ _ inside
  have going : ∀ other operation' found' choices',
      { server with
        world := world,
        threads := server.threads.set thread ⟨operation, .inside found (choices ++ [choice])⟩ :
          Server }.Inside other operation' found' choices' →
      other = thread ∧ operation' = operation ∧ found' = found ∧
        choices' = choices ++ [choice] := by
    intro other operation' found' choices' looked
    rcases threads_set looked with ⟨same, changed⟩ | ⟨another, old⟩
    · simp only [Thread.mk.injEq, Phase.inside.injEq] at changed
      exact ⟨same, changed⟩
    · exact absurd (locked.only inside old).symm another
  refine ⟨?_, ?_, ?_, history, ?_, ?_⟩
  · intro other operation' found' choices' looked
    rcases going _ _ _ _ looked with ⟨rfl, rfl, rfl, rfl⟩
    exact ⟨same.1, goesOn same.2⟩
  · intro other holds
    obtain rfl : thread = other := Option.some.inj (same.1.symm.trans holds)
    exact ⟨operation, found, choices ++ [choice], getElem?_set_of_some inside⟩
  · intro stopped
    exact absurd (show server.running = false from stopped) (running_of_inside locked inside)
  · intro free
    rw [show server.holder = none from free] at same
    cases same.1
  · intro other operation' found' choices' looked
    rcases going _ _ _ _ looked with ⟨-, -, rfl, -⟩
    exact founds _ _ _ _ inside

theorem Locked.releases (locked : Locked start server)
    (inside : server.Inside thread operation found choices) :
    Locked start { server with
      holder := none, threads := server.threads.set thread ⟨operation, .finished⟩ } := by
  rcases locked.world_serial with ⟨history, serial⟩
  refine .ofFree rfl ?_ ?_ serial
  · intro other operation' found' choices' looked
    rcases threads_set looked with ⟨-, changed⟩ | ⟨another, old⟩
    · cases changed
    · exact another (locked.only inside old).symm
  · intro stopped
    exact absurd (show server.running = false from stopped) (running_of_inside locked inside)

theorem Locked.step (locked : Locked start server) (step : server.Step happening after) :
    Locked start after := by
  cases step with
  | begins running served => exact locked.begins running _
  | acquires free waits => exact locked.acquires free waits
  | acts inside goesOn => exact locked.acts inside goesOn
  | releases inside => exact locked.releases inside
  | readsStatus => exact locked
  | dies =>
      rcases locked.world_serial with ⟨history, serial⟩
      exact .ofFree rfl (fun _ _ _ _ => not_inside_of_empty rfl) (fun _ => rfl) serial
  | completesCleanup stopped =>
      rename_i choices
      have empty := locked.stopped stopped
      rcases locked.world_serial with ⟨history, serial⟩
      have longer : Operation.completePendingCleanup.leaves server.world choices =
          run start (history ++ [(.completePendingCleanup, choices)]) := by
        rw [run_append, serial]
        rfl
      exact .ofFree (locked.free stopped) (fun _ _ _ _ => not_inside_of_empty empty) (fun _ => empty)
        longer
  | boots stopped =>
      rcases locked.world_serial with ⟨history, serial⟩
      refine .ofFree (locked.free stopped) ?_ nofun serial
      intro thread operation found choices inside
      unfold Server.Inside at inside
      rw [List.getElem?_singleton] at inside
      split at inside
      · cases inside
      · cases inside

theorem Server.Reachable.locked (reachable : Server.Reachable start server) :
    Locked start server := by
  induction reachable with
  | refl => exact locked_start start
  | tail _ step ih =>
      rcases step with ⟨happening, step⟩
      exact ih.step step

/-- What one operation left of a task, it leaves with the same id, or as a start with another one
where it found a task that may be replaced. -/
theorem slot_left {task : UpdateTask} (operation : Operation) (found : World)
    (choices : List Choice) (choice : Choice)
    (saved : (operation.left found choices).state.task = some task) :
    ∃ later, (operation.left found (choices ++ [choice])).state.task = some later ∧
      (later.id ≠ task.id → isReplaceable task = true) := by
  have whole : operation.left found (choices ++ [choice]) =
      operation.leaves found (choices ++ [choice]) := by
    cases choices <;> rfl
  rw [whole]
  -- from the task that the operation found
  have fromFound : ∀ {first}, found.state.task = some first →
      ∃ later, (operation.leaves found (choices ++ [choice])).state.task = some later ∧
        (later.id ≠ first.id → isReplaceable first = true) := by
    intro first foundTask
    rcases operation.leaves_task (choices ++ [choice]) foundTask with
      ⟨later, savedLater, edits⟩ | ⟨version, taskId, -, opens⟩
    · exact ⟨later, savedLater, fun another => absurd (edits_id edits) another⟩
    · rcases opens.opened with ⟨checked, createdAt, -, -, -, after⟩
      have admitted := opens.admitted
      simp only [admitsNewTask, foundTask] at admitted
      exact ⟨_, by rw [after], fun _ => admitted⟩
  cases choices with
  | nil => exact fromFound saved
  | cons first rest =>
      have savedBefore : (operation.leaves found (first :: rest)).state.task = some task := saved
      by_cases starts : ∃ targetVersion taskId, operation = .start targetVersion taskId
      · rcases starts with ⟨targetVersion, taskId, rfl⟩
        rcases (atomic_start targetVersion taskId).leaves_append found (first :: rest) [choice] with
          unchanged | kept
        · refine fromFound ?_
          rw [← savedBefore]
          exact congrArg (·.state.task) unchanged.symm
        · have same : ((Operation.start targetVersion taskId).leaves found
              (first :: rest ++ [choice])).state.task = some task :=
            (congrArg (·.state.task) kept).trans savedBefore
          exact ⟨task, same, fun another => absurd rfl another⟩
      · cases foundTask : found.state.task with
        | none =>
            rcases operation.leaves_empty (first :: rest) foundTask with
              empty | ⟨version, taskId, isStart, -⟩
            · rw [empty] at savedBefore
              cases savedBefore
            · exact absurd ⟨version, taskId, isStart⟩ starts
        | some before =>
            have edited : ∀ choices, ∃ after,
                (operation.leaves found choices).state.task = some after ∧ after.id = before.id := by
              intro choices
              rcases operation.leaves_task choices foundTask with
                ⟨after, savedAfter, edits⟩ | ⟨version, taskId, isStart, -⟩
              · exact ⟨after, savedAfter, edits_id edits⟩
              · exact absurd ⟨version, taskId, isStart⟩ starts
            rcases edited (first :: rest) with ⟨now, savedNow, sameNow⟩
            rcases edited (first :: rest ++ [choice]) with ⟨later, savedLater, sameLater⟩
            obtain rfl : now = task := Option.some.inj (savedNow.symm.trans savedBefore)
            exact ⟨later, savedLater, fun another => absurd (sameLater.trans sameNow.symm) another⟩

/-- A check leaves the task that it found. -/
theorem check_left (found : World) (choices : List Choice) :
    (Operation.check.left found choices).state.task = found.state.task := by
  cases choices with
  | nil => rfl
  | cons choice rest => exact check_task found (choice :: rest)

/-- An execution leaves what it found, or a task with its own id where it found one. -/
theorem execute_left (taskId : String) (found : World) (choices : List Choice) :
    (Operation.execute taskId).left found choices = found ∨
      ∃ task later, found.state.task = some task ∧ task.id = taskId ∧
        ((Operation.execute taskId).left found choices).state.task = some later ∧
        later.id = taskId := by
  cases choices with
  | nil => exact .inl rfl
  | cons choice rest =>
      cases foundTask : found.state.task with
      | none =>
          left
          have missing : taskOf taskId found (choice :: rest) =
              (.raised (.conflict "task_not_found"), found, choice :: rest) := by
            simp [taskOf, loadState, requireTask, foundTask, Bind.bind, Program.bind, Program.read,
              Program.raise, pure, Program.pure]
          have unready : requireReadyTask taskId found (choice :: rest) =
              (.raised (.conflict "task_not_found"), found, choice :: rest) :=
            Program.bind_raised missing
          exact Program.leaves_of_eq (Program.bind_raised unready)
      | some task =>
          by_cases ready : task.id = taskId ∧ task.stage = .checking
          · right
            rcases execute_traced foundTask taskId (choice :: rest) with ⟨later, saved, edits, -⟩
            exact ⟨task, later, rfl, ready.1, saved, (edits_id edits).trans ready.1⟩
          · exact .inl (execute_unready foundTask (choice :: rest) ready)

/-- The check result that an execution leaves is the one it found, or its own. -/
theorem execute_left_check (taskId : String) (found : World) (choices : List Choice) :
    ((Operation.execute taskId).left found choices).state.lastCheck = found.state.lastCheck ∨
      Committed ((Operation.execute taskId).left found choices) := by
  cases choices with
  | nil => exact .inl rfl
  | cons choice rest => exact execute_lastCheck taskId found (choice :: rest)

/-- What a step does to the task in the slot. -/
theorem Locked.slot_step (locked : Locked start server) (step : server.Step happening after)
    {task : UpdateTask} (saved : server.world.state.task = some task) :
    ∃ later, after.world.state.task = some later ∧
      (later.id ≠ task.id → isReplaceable task = true) := by
  have kept : after.world = server.world → ∃ later, after.world.state.task = some later ∧
      (later.id ≠ task.id → isReplaceable task = true) := by
    intro same
    rw [same]
    exact ⟨task, saved, fun another => absurd rfl another⟩
  cases step with
  | begins running served => exact kept rfl
  | acquires free waits => exact kept rfl
  | releases inside => exact kept rfl
  | readsStatus => exact kept rfl
  | dies => exact kept rfl
  | boots stopped => exact kept rfl
  | acts inside goesOn =>
      have left := (locked.inside _ _ _ _ inside).2
      rw [left] at saved
      rcases slot_left _ _ _ _ saved with ⟨later, savedLater, another⟩
      refine ⟨later, ?_, another⟩
      rw [← savedLater]
      exact congrArg (·.state.task) (goesOn left)
  | completesCleanup stopped =>
      rename_i choices
      rcases Operation.completePendingCleanup.leaves_task choices saved with
        ⟨later, savedLater, edits⟩ | ⟨version, taskId, starts, -⟩
      · exact ⟨later, savedLater, fun another => absurd (edits_id edits) another⟩
      · cases starts

end Lock

/-- In every order of the steps of all threads: a task gives way to one with another id only where
it failed or succeeded with its cleanup complete; a check keeps the task; an execution saves only
over a task with its own id and a check result that it found or saved itself, while nobody else is
inside; and no two executions are at work. -/
theorem single_task_slot (start : World) (server after : Server) (happening : Happening)
    (reachable : Server.Reachable start server) (step : server.Step happening after) :
    (∀ task, server.world.state.task = some task →
      ∃ later, after.world.state.task = some later ∧
        (later.id ≠ task.id → task.stage = .failed ∨
          task.stage = .succeeded ∧ task.cleanup = .complete)) ∧
    (∀ thread choice found choices, happening = .acts thread choice →
      server.Inside thread .check found choices →
        after.world.state.task = server.world.state.task) ∧
    (∀ thread choice taskId found choices, happening = .acts thread choice →
      server.Inside thread (.execute taskId) found choices →
        (after.world = server.world ∨ ∃ task later, server.world.state.task = some task ∧
          task.id = taskId ∧ after.world.state.task = some later ∧ later.id = taskId) ∧
        (server.world.state.lastCheck = found.state.lastCheck ∨ Committed server.world) ∧
        ∀ other operation found' choices', server.Inside other operation found' choices' →
          other = thread) ∧
    (∀ first second firstId secondId found found' choices choices',
      server.Inside first (.execute firstId) found choices →
        server.Inside second (.execute secondId) found' choices' → first = second) := by
  have locked := reachable.locked
  refine ⟨?_, ?_, ?_, ?_⟩
  · intro task saved
    rcases locked.slot_step step saved with ⟨later, savedLater, another⟩
    refine ⟨later, savedLater, fun differs => ?_⟩
    simpa [isReplaceable] using another differs
  · rintro thread choice found choices rfl inside
    cases step with
    | acts inside' goesOn =>
        have same := inside.symm.trans inside'
        simp only [Option.some.injEq, Thread.mk.injEq, Phase.inside.injEq] at same
        rcases same with ⟨rfl, rfl, rfl⟩
        have left := (locked.inside _ _ _ _ inside).2
        have going := goesOn left
        simp only [left, going, check_left]
  · rintro thread choice taskId found choices rfl inside
    have left := (locked.inside _ _ _ _ inside).2
    refine ⟨?_, ?_, fun _ _ _ _ other => locked.only other inside⟩
    · cases step with
      | acts inside' goesOn =>
          have same := inside.symm.trans inside'
          simp only [Option.some.injEq, Thread.mk.injEq, Phase.inside.injEq] at same
          rcases same with ⟨rfl, rfl, rfl⟩
          have going := goesOn left
          simp only [left, going]
          rcases execute_left taskId found choices with now | ⟨task, mid, saved, id, savedMid, midId⟩
          · rcases execute_left taskId found (choices ++ [choice]) with
              next | ⟨task, later, saved, id, savedLater, laterId⟩
            · exact .inl (next.trans now.symm)
            · rw [now]
              exact .inr ⟨task, later, saved, id, savedLater, laterId⟩
          · rcases execute_left taskId found (choices ++ [choice]) with
              next | ⟨-, later, -, -, savedLater, laterId⟩
            · rw [next]
              exact .inr ⟨mid, task, savedMid, midId, saved, id⟩
            · exact .inr ⟨mid, later, savedMid, midId, savedLater, laterId⟩
    · rw [left]
      exact execute_left_check taskId found choices
  · intro first second firstId secondId found found' choices choices' firstInside secondInside
    exact locked.only firstInside secondInside

namespace Sample

/-- The recovery still waits for the lock, and the thread after it has taken some steps. -/
def acting (operation : Operation) (steps : ℕ) : Server where
  world := operation.left world (calm steps)
  threads := [⟨.recover, .waiting⟩, ⟨operation, .inside world (calm steps)⟩]
  holder := some 1
  running := true

def choice : Choice := { inspected := targetImage }

theorem acting_step (operation : Operation) (steps : ℕ) :
    Server.Step (.acts 1 choice) (acting operation steps) (acting operation (steps + 1)) := by
  have inside : (acting operation steps).Inside 1 operation world (calm steps) := rfl
  have more : calm (steps + 1) = calm steps ++ [choice] := List.replicate_succ'
  have goesOn : (acting operation steps).world = operation.left world (calm steps) →
      (acting operation (steps + 1)).world = operation.left world (calm steps ++ [choice]) := by
    rw [← more]
    exact fun _ => rfl
  have step := Server.Step.acts inside goesOn
  rw [← more] at step
  exact step

theorem acting_reachable {operation : Operation} (served : operation ≠ .completePendingCleanup)
    (steps : ℕ) : Server.Reachable world (acting operation steps) := by
  induction steps with
  | zero =>
      let booted : Server :=
        { world := world, threads := [⟨.recover, .waiting⟩], running := true }
      let begun : Server := { booted with threads := booted.threads ++ [⟨operation, .waiting⟩] }
      have boots : Server.Step .boots { world := world } booted := .boots rfl
      have begins : Server.Step (.begins operation) booted begun := .begins rfl served
      have acquires : Server.Step (.acquires 1) begun (acting operation 0) := .acquires rfl rfl
      exact .tail (.tail (.tail .refl ⟨_, boots⟩) ⟨_, begins⟩) ⟨_, acquires⟩
  | succ steps ih => exact .tail ih ⟨_, acting_step operation steps⟩

end Sample

open Finrec.Updater.Sample in
/-- The second step of an execution saves its task; a step of a check does not. -/
theorem single_task_slot_executing :
    (∃ later, (acting (.execute task.id) 2).world.state.task = some later ∧
      later.stage = .backingUp ∧ later.id = task.id) ∧
    (∀ other operation found choices, (acting (.execute task.id) 1).Inside other operation found
      choices → other = 1) ∧
    (acting .check 2).world.state.task = (acting .check 1).world.state.task := by
  have executing : Server.Reachable world (acting (.execute task.id) 1) :=
    acting_reachable (by nofun) 1
  have checking : Server.Reachable world (acting .check 1) := acting_reachable (by nofun) 1
  obtain ⟨-, -, saves, -⟩ :=
    single_task_slot world _ _ _ executing (acting_step (.execute task.id) 1)
  obtain ⟨-, keeps, -, -⟩ := single_task_slot world _ _ _ checking (acting_step .check 1)
  obtain ⟨slot, -, alone⟩ := saves 1 choice task.id world (calm 1) rfl rfl
  refine ⟨?_, alone, keeps 1 choice world (calm 1) rfl rfl⟩
  have before : (acting (.execute task.id) 1).world.state.task.map (·.stage) = some .checking := by
    decide +kernel
  have after : (acting (.execute task.id) 2).world.state.task.map (·.stage) = some .backingUp := by
    decide +kernel
  rcases slot with unchanged | ⟨-, later, -, -, saved, same⟩
  · rw [unchanged, before] at after
    cases after
  · rw [saved] at after
    exact ⟨later, saved, Option.some.inj after, same⟩

end Finrec.Updater
