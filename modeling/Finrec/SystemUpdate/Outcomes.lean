import Finrec.SystemUpdate.Idempotence
import Finrec.Updater.Coherence

/-!
# The outcomes of updates in the audit log

The application and the updater run side by side.  The updater works, dies and
restarts as it likes between the calls, and requests and answers get lost.  The
outcome of a task reaches the audit log only when a status shows it, so it must be
shown before the slot of the updater is given to the next task.
-/

namespace Finrec.SystemUpdate

open Finrec.Updater CrashLogic UpdateManager Relation

/-- What the updater does on its own: everything but a start. -/
structure BackgroundStep where
  operation : Updater.Operation
  choices : List Choice
  notStart : ∀ targetVersion taskId, operation ≠ .start targetVersion taskId

def BackgroundStep.leaves (step : BackgroundStep) (world : World) : World :=
  step.operation.leaves world step.choices

/-- What becomes of a request: it may not arrive, and its answer may be lost or garbled. -/
structure Delivery where
  arrives : Bool
  choices : List Choice
  fault : Option ClientError

structure System where
  database : Database
  updater : World
  runner : OperationRunner

/-- The status codes of the updater, as the client reads them. -/
def httpAnswer : Outcome UpdaterError α → Answer α
  | .returned value => .ok value
  | .raised (.conflict _) => .error (.updaterUnavailable "update_conflict")
  | .raised (.safeOperation _) => .error (.updaterUnavailable "service_unavailable")
  | .raised .invalidState => .error (.updaterUnavailable "service_unavailable")
  | .crashed => .error (.updaterUnavailable "network_error")

def Delivery.answer (delivery : Delivery) (outcome : Outcome UpdaterError α) : Answer α :=
  if delivery.arrives then
    match delivery.fault with
    | some error => .error error
    | none => httpAnswer outcome
  else .error (delivery.fault.getD (.updaterUnavailable "network_error"))

/-- A request for the status reads the updater and changes nothing there. -/
def askStatus (delivery : Delivery) (updater : World) : Answer StatusView :=
  delivery.answer (UpdateManager.status updater delivery.choices).1

/-- A start that reaches the updater, by what it is answered there. -/
def deliverStart (delivery : Delivery) (post : StartBody) (system : System) : System :=
  if delivery.arrives then
    let process := system.runner.start post.targetVersion post.taskId
    { system with
      updater := process.leaves system.updater delivery.choices,
      runner := system.runner.after (process system.updater delivery.choices).1 }
  else system

def startAnswer (delivery : Delivery) (post : StartBody) (system : System) : Answer TaskView :=
  delivery.answer (match
    (system.runner.start post.targetVersion post.taskId system.updater delivery.choices).1 with
    | .returned (task, _) => .returned task
    | .raised error => .raised error
    | .crashed => .crashed)

/-- A start of an owner, with what happens until it is answered. -/
structure StartCall where
  actor : ℕ
  body : Option StartBody
  client : Answer Unit
  start : Delivery
  /-- What the updater does before the view reads the status again. -/
  meanwhile : List BackgroundStep
  status : Delivery

/-- The start that the view sends to the updater, once the reservation is made. -/
def StartCall.asks (call : StartCall) (database : Database) : Option StartBody :=
  match parseStart call.body with
  | none => none
  | some post =>
      match reserveUpdateRequest post.taskId call.actor post.targetVersion database with
      | .error _ => none
      | .ok _ =>
          match call.client with
          | .error _ => none
          | .ok () => some post

/-- The updater when the view has its answer. -/
def StartCall.delivered (call : StartCall) (post : StartBody) (system : System) : System :=
  let started := deliverStart call.start post system
  let updater := call.meanwhile.foldl (fun world step => step.leaves world) started.updater
  { started with updater := updater }

def StartCall.answers (call : StartCall) (post : StartBody) (system : System) : StartAnswers where
  client := call.client
  start := startAnswer call.start post system
  status := askStatus call.status (call.delivered post system).updater

/-- A start as the view handles it. -/
def StartCall.perform (call : StartCall) (system : System) : Response × System :=
  match call.asks system.database with
  | none =>
      let handled := Views.start call.actor call.body
        ⟨call.client, .error .valueError, .error .valueError⟩ system.database
      (handled.1, { system with database := handled.2 })
  | some post =>
      let handled := Views.start call.actor call.body (call.answers post system) system.database
      (handled.1, { call.delivered post system with database := handled.2 })

inductive Event where
  | background (step : BackgroundStep)
  /-- The worker of the updater ends. -/
  | workerEnds
  /-- A new updater process recovers. -/
  | restart (choices : List Choice)
  | status (delivery : Delivery) (now : ℤ)
  | check (wellFormed : Bool) (delivery : Delivery)
  | start (call : StartCall)

/-- What an event leaves. -/
def Event.leaves (event : Event) (system : System) : System :=
  match event with
  | .background step => { system with updater := step.leaves system.updater }
  | .workerEnds => { system with runner := { system.runner with busy := false } }
  | .restart choices =>
      { system with updater := Updater.Operation.recover.leaves system.updater choices, runner := {} }
  | .status delivery now =>
      { system with database :=
        (Views.status (askStatus delivery system.updater) now system.database).2 }
  | .check wellFormed delivery =>
      if wellFormed && delivery.arrives then
        { system with updater := Updater.Operation.check.leaves system.updater delivery.choices }
      else system
  | .start call => (call.perform system).2

/-- What has happened so far, beside the state that the code keeps: the ids that the updater has
accepted, and whether a status has shown the outcome of the task that is now in its slot. -/
structure Chronicle where
  system : System
  accepted : List String
  shown : Bool

def slotId (system : System) : Option String := system.updater.state.task.map (·.id)

/-- A status that the application reads shows the outcome of the task in the slot. -/
def showsOutcome (event : Event) (system : System) : Bool :=
  match event with
  | .status delivery _ =>
      match askStatus delivery system.updater with
      | .ok status => status.task.any fun task => (terminalResult? task.stage).isSome
      | .error _ => false
  | _ => false

def Chronicle.next (event : Event) (chronicle : Chronicle) : Chronicle :=
  let system := event.leaves chronicle.system
  { system := system,
    accepted := chronicle.accepted ++ (slotId system).toList,
    shown := (chronicle.shown || showsOutcome event chronicle.system) &&
      slotId system = slotId chronicle.system }

def chronicle (events : List Event) (start : Chronicle) : Chronicle :=
  events.foldl (fun chronicle event => chronicle.next event) start

/-- An application and an updater that have not updated anything yet. -/
def freshChronicle (updater : World) : Chronicle := ⟨⟨{}, updater, {}⟩, [], false⟩

/-- The updater accepts a new task only after a status showed the outcome of the one before. -/
def ShownBefore (chronicle : Chronicle) (event : Event) : Prop :=
  slotId (event.leaves chronicle.system) ≠ slotId chronicle.system →
    slotId chronicle.system ≠ none → chronicle.shown = true

section Updater

variable {world : World} {invariant : World → Prop} {targetVersion taskId : String}

theorem reads_status (same : invariant world) :
    Guarded UpdaterError.safeCode? invariant (· = world) UpdateManager.status
      (fun view here => view.task = world.state.task.map (·.publicView) ∧ here = world)
      invariant := by
  refine reads_loadState ?_
  cases world.state.lastCheck with
  | some checked => exact reads_pure ⟨rfl, rfl⟩
  | none => exact reads_through (reads_look same) fun current => reads_pure ⟨rfl, rfl⟩

theorem status_task {choices : List Choice} {view : StatusView}
    (returned : (UpdateManager.status world choices).1 = .returned view) :
    view.task = world.state.task.map (·.publicView) := by
  have reads : Guarded UpdaterError.safeCode? (fun _ => True) (· = world) UpdateManager.status
      (fun view here => view.task = world.state.task.map (·.publicView) ∧ here = world)
      fun _ => True := reads_status trivial
  have holds := reads world choices rfl
  rw [returned] at holds
  exact holds.1

/-- A start that the runner takes leaves the updater as it was, or opens a new task while no worker
is alive; what it hands out is the task in the slot or the one that the runner remembers. -/
theorem reads_runner (runner : OperationRunner) (targetVersion taskId : String) (world : World) :
    Reads (fun after => after = world ∨ runner.busy = false ∧ Opens targetVersion taskId world after)
      world (runner.start targetVersion taskId) fun answer after =>
        (after = world ∨ runner.busy = false ∧ Opens targetVersion taskId world after) ∧
          (after.state.task.map (·.id) = some answer.1.id ∨
            runner.busy = true ∧ runner.task = some answer.1) := by
  refine Guarded.bind (reads_status (.inl rfl)) fun status => ?_
  rintro here rest ⟨known, rfl⟩
  refine (?_ : Reads _ here _ _) here rest rfl
  cases found : status.task.filter (·.id = taskId) with
  | some persisted =>
      dsimp only
      split
      · exact reads_refuse (.inl rfl) rfl
      · refine reads_pure ⟨.inl rfl, .inl ?_⟩
        have shown := (Option.filter_eq_some_iff.mp found).1
        rw [known] at shown
        rcases Option.map_eq_some_iff.mp shown with ⟨task, saved, rfl⟩
        rw [saved]
        rfl
  | none =>
      dsimp only
      unfold OperationRunner.startOther
      split
      · rename_i busy
        cases remembered : runner.task.filter
            fun task => task.id = taskId && task.toVersion = targetVersion with
        | none => exact reads_refuse (.inl rfl) rfl
        | some task =>
            refine reads_pure ⟨.inl rfl, .inr ⟨busy, ?_⟩⟩
            exact (Option.filter_eq_some_iff.mp remembered).1
      · rename_i idle
        have free : runner.busy = false := by simpa using idle
        refine Guarded.bind ?_ fun started => Satisfies.pure fun after holds => holds
        refine Satisfies.conseq (reads_start targetVersion taskId here) (fun _ same => same) ?_ ?_ ?_
        · rintro started after ⟨opened, task, saved, same, view⟩
          refine ⟨opened.imp_right fun opens => ⟨free, opens⟩, .inl ?_⟩
          simp [saved, view, UpdateTask.publicView]
        · intro error after raised
          have opened : after = here ∨ Opens targetVersion taskId here after := by
            dsimp only at raised
            split at raised
            · exact raised
            · exact raised
          have holds := opened.imp_right fun opens => And.intro free opens
          dsimp only
          split
          · exact holds
          · exact holds
        · exact fun after opened => opened.imp_right fun opens => ⟨free, opens⟩

theorem runner_leaves (runner : OperationRunner) (targetVersion taskId : String) (world : World)
    (choices : List Choice) :
    (runner.start targetVersion taskId).leaves world choices = world ∨
      runner.busy = false ∧ Opens targetVersion taskId world
        ((runner.start targetVersion taskId).leaves world choices) :=
  (reads_runner runner targetVersion taskId world).leaves_of (fun _ _ holds => holds.1) rfl choices

theorem runner_returned {runner : OperationRunner} {choices : List Choice}
    {answer : TaskView × Bool}
    (returned : (runner.start targetVersion taskId world choices).1 = .returned answer) :
    ((runner.start targetVersion taskId).leaves world choices).state.task.map (·.id) =
        some answer.1.id ∨
      runner.busy = true ∧ runner.task = some answer.1 := by
  have holds := reads_runner runner targetVersion taskId world world choices rfl
  rw [returned] at holds
  exact holds.2

theorem BackgroundStep.slot (step : BackgroundStep) (world : World) :
    (step.leaves world).state.task.map (·.id) = world.state.task.map (·.id) := by
  unfold BackgroundStep.leaves
  cases found : world.state.task with
  | none =>
      rcases step.operation.leaves_empty step.choices found with empty | ⟨_, _, starts, -⟩
      · rw [empty]
      · exact absurd starts (step.notStart _ _)
  | some task =>
      rcases step.operation.leaves_task step.choices found with
        ⟨after, saved, edits⟩ | ⟨_, _, starts, -⟩
      · rw [saved, Option.map_some, Option.map_some, edits_id edits]
      · exact absurd starts (step.notStart _ _)

theorem background_slot (steps : List BackgroundStep) (world : World) :
    (steps.foldl (fun world step => step.leaves world) world).state.task.map (·.id) =
      world.state.task.map (·.id) := by
  induction steps generalizing world with
  | nil => rfl
  | cons step rest ih => exact (ih (step.leaves world)).trans (step.slot world)

end Updater

section Starts

variable {system : System} {post : StartBody} {delivery : Delivery} {call : StartCall}

/-- The worker that is alive executes the task in the slot, and the runner remembers no other. -/
def RunnerFits (system : System) : Prop :=
  system.runner.busy = true → ∀ task, system.runner.task = some task →
    slotId system = some task.id

/-- What a start that is sent does to the slot and to the runner. -/
structure Starts (post : StartBody) (before after : System) : Prop where
  database : after.database = before.database
  slot : slotId after = slotId before ∨ slotId after = some post.taskId
  fits : RunnerFits after

theorem slotId_opens {world after : World} {targetVersion taskId : String}
    (opens : Opens targetVersion taskId world after) :
    after.state.task.map (·.id) = some taskId := by
  rcases opens.opened with ⟨checked, createdAt, -, -, -, rfl⟩
  rfl

/-- What the runner hands out is the task in the slot. -/
theorem runner_names (fits : RunnerFits system) {choices : List Choice} {answer : TaskView × Bool}
    (returned : (system.runner.start post.targetVersion post.taskId system.updater choices).1 =
      .returned answer) :
    ((system.runner.start post.targetVersion post.taskId).leaves system.updater
      choices).state.task.map (·.id) = some answer.1.id := by
  rcases runner_returned returned with named | ⟨busy, remembered⟩
  · exact named
  · rcases runner_leaves system.runner post.targetVersion post.taskId system.updater choices with
      unchanged | ⟨idle, -⟩
    · rw [unchanged]
      exact fits busy answer.1 remembered
    · rw [busy] at idle
      cases idle

theorem deliverStart_starts (fits : RunnerFits system) (delivery : Delivery) (post : StartBody) :
    Starts post system (deliverStart delivery post system) := by
  unfold deliverStart
  by_cases arrives : delivery.arrives = true
  · simp only [arrives, if_true]
    have left := runner_leaves system.runner post.targetVersion post.taskId system.updater
      delivery.choices
    refine ⟨rfl, ?_, ?_⟩
    · rcases left with unchanged | ⟨-, opens⟩
      · simp only [slotId, unchanged]
        exact .inl trivial
      · exact .inr (slotId_opens opens)
    · intro busy task remembered
      cases outcome : (system.runner.start post.targetVersion post.taskId system.updater
          delivery.choices).1 with
      | returned answer =>
          simp only [outcome, OperationRunner.after, Option.some.injEq] at remembered
          rw [← remembered]
          exact runner_names fits outcome
      | raised error =>
          simp only [outcome, OperationRunner.after] at busy remembered
          rcases left with unchanged | ⟨idle, -⟩
          · simp only [slotId, unchanged]
            exact fits busy task remembered
          · rw [busy] at idle
            cases idle
      | crashed =>
          simp [outcome, OperationRunner.after] at busy
  · simp only [arrives]
    exact ⟨rfl, .inl rfl, fits⟩

theorem delivered_starts (fits : RunnerFits system) (call : StartCall) (post : StartBody) :
    Starts post system (call.delivered post system) := by
  have ⟨database, slot, fitsAfter⟩ := deliverStart_starts fits call.start post
  have kept := background_slot call.meanwhile (deliverStart call.start post system).updater
  refine ⟨database, ?_, ?_⟩
  · simp only [slotId, StartCall.delivered, kept]
    exact slot
  · intro busy task remembered
    simp only [slotId, StartCall.delivered, kept]
    exact fitsAfter busy task remembered

theorem Delivery.answer_ok {outcome : Outcome UpdaterError α} {value : α}
    (answered : delivery.answer outcome = .ok value) :
    delivery.arrives = true ∧ outcome = .returned value := by
  unfold Delivery.answer at answered
  split at answered
  · rename_i arrives
    refine ⟨arrives, ?_⟩
    cases fault : delivery.fault with
    | some error =>
        simp only [fault] at answered
        cases answered
    | none =>
        simp only [fault] at answered
        cases outcome with
        | returned result =>
            cases answered
            rfl
        | crashed => cases answered
        | raised error => cases error <;> cases answered
  · cases answered

theorem askStatus_ok {world : World} {view : StatusView}
    (answered : askStatus delivery world = .ok view) :
    view.task = world.state.task.map (·.publicView) :=
  status_task (delivery.answer_ok answered).2

/-- The task of an answer that the view relies on is the one in the slot. -/
theorem answers_name (fits : RunnerFits system) {task : TaskView}
    (given : (call.answers post system).start = .ok task ∨
      ∃ status, (call.answers post system).status = .ok status ∧ status.task = some task) :
    slotId (call.delivered post system) = some task.id := by
  have kept := background_slot call.meanwhile (deliverStart call.start post system).updater
  rcases given with started | ⟨status, answered, shown⟩
  · have ⟨arrives, returned⟩ := call.start.answer_ok started
    have handed : ∃ flag, (system.runner.start post.targetVersion post.taskId system.updater
        call.start.choices).1 = .returned (task, flag) := by
      cases outcome : (system.runner.start post.targetVersion post.taskId system.updater
          call.start.choices).1 with
      | returned answer =>
          simp only [outcome, Outcome.returned.injEq] at returned
          exact ⟨answer.2, by rw [← returned]⟩
      | raised error => simp [outcome] at returned
      | crashed => simp [outcome] at returned
    rcases handed with ⟨flag, handed⟩
    simp only [slotId, StartCall.delivered, kept]
    simp only [deliverStart, arrives, if_true]
    exact runner_names fits handed
  · have slot := askStatus_ok answered
    rw [shown] at slot
    rcases Option.map_eq_some_iff.mp slot.symm with ⟨saved, found, rfl⟩
    simp [slotId, found, UpdateTask.publicView]

end Starts

section Rows

variable {database : Database} {taskId : String}

def Reserved (database : Database) (taskId : String) : Prop :=
  ∃ request ∈ database.requests, request.taskId = taskId

/-- The outcome of a task is recorded in its row. -/
def Recorded (database : Database) (taskId : String) : Prop :=
  ∃ request ∈ database.requests, request.taskId = taskId ∧ request.terminalRecordedAt.isSome = true

/-- Rows stay, and what they record stays recorded. -/
structure Extends (before after : Database) : Prop where
  reserved : ∀ taskId, Reserved before taskId → Reserved after taskId
  recorded : ∀ taskId, Recorded before taskId → Recorded after taskId

theorem Extends.refl (database : Database) : Extends database database :=
  ⟨fun _ reserved => reserved, fun _ recorded => recorded⟩

theorem extends_reserve {actor : ℕ} {targetVersion : String} {reserved : Database}
    (succeeded : reserveUpdateRequest taskId actor targetVersion database = .ok reserved) :
    Extends database reserved := by
  rcases reserve_ok succeeded with rfl | ⟨-, rfl⟩
  · exact .refl _
  · constructor
    · rintro other ⟨request, member, same⟩
      exact ⟨request, List.mem_append_left _ member, same⟩
    · rintro other ⟨request, member, recorded⟩
      exact ⟨request, List.mem_append_left _ member, recorded⟩

theorem reserve_reserves {actor : ℕ} {targetVersion : String} {reserved : Database}
    (succeeded : reserveUpdateRequest taskId actor targetVersion database = .ok reserved) :
    Reserved reserved taskId := by
  rcases reserve_ok succeeded with rfl | ⟨-, rfl⟩
  · unfold reserveUpdateRequest at succeeded
    cases creates : reserved.create taskId actor targetVersion with
    | ok both =>
        have grown := (Database.create_ok creates).2.2.2
        simp only [creates, Except.ok.injEq] at succeeded
        have longer := congrArg (·.requests.length) succeeded
        simp [grown, Database.recordAudit] at longer
    | error error =>
        simp only [creates] at succeeded
        cases error with
        | dataError => cases succeeded
        | integrityError =>
            dsimp only at succeeded
            cases found : reserved.find? taskId with
            | none =>
                simp only [found] at succeeded
                cases succeeded
            | some request => exact ⟨request, Database.find?_some found⟩
  · exact ⟨_, List.mem_append_right _ (List.mem_singleton_self _), rfl⟩

theorem extends_recordTerminalAudit (task : TaskView) (now : ℤ) :
    Extends database (recordTerminalAudit task now database) := by
  rcases recordTerminalAudit_cases task now database with
    unchanged | ⟨result, request, -, -, -, -, recorded⟩
  · rw [unchanged]
    exact .refl database
  rw [recorded]
  have later : ∀ row ∈ database.requests,
      ∃ after ∈ Tables.update (·.id) request.id (·.finish result now) database.requests,
        after.taskId = row.taskId ∧
          (row.terminalRecordedAt.isSome = true → after.terminalRecordedAt.isSome = true) := by
    intro row member
    by_cases same : row.id = request.id
    · rw [← same]
      exact ⟨row.finish result now, Tables.change_mem_update (·.finish result now) member, rfl,
        fun _ => rfl⟩
    · exact ⟨row, Tables.mem_update_of_ne member same, rfl, fun recorded => recorded⟩
  constructor
  · rintro other ⟨row, member, rfl⟩
    rcases later row member with ⟨after, afterMem, same, -⟩
    exact ⟨after, afterMem, same⟩
  · rintro other ⟨row, member, rfl, recorded⟩
    rcases later row member with ⟨after, afterMem, same, kept⟩
    exact ⟨after, afterMem, same, kept recorded⟩

/-- The outcome of a task that has a row is recorded when it is shown. -/
theorem recordTerminalAudit_records {task : TaskView} (now : ℤ)
    (ended : (terminalResult? task.stage).isSome = true) (reserved : Reserved database task.id) :
    Recorded (recordTerminalAudit task now database) task.id := by
  rcases Option.isSome_iff_exists.mp ended with ⟨result, ended⟩
  unfold recordTerminalAudit
  simp only [ended]
  cases found : database.find? task.id with
  | none =>
      rcases reserved with ⟨request, member, same⟩
      exact absurd (same ▸ List.mem_map_of_mem member) (Database.find?_none found)
  | some request =>
      rcases Database.find?_some found with ⟨member, same⟩
      dsimp only
      split
      · rename_i recorded
        exact ⟨request, member, same, recorded⟩
      · exact ⟨request.finish result now, Tables.change_mem_update (·.finish result now) member, same,
          rfl⟩

/-- A recorded outcome has exactly one entry in the audit log. -/
theorem Recorded.audited (recorded : Recorded database taskId) (consistent : Consistent database) :
    endedAudits database taskId = 1 := by
  have atMost := consistent.ended_le_one taskId
  rcases recorded with ⟨request, member, same, recorded⟩
  have atLeast : 0 < endedAudits database taskId := by
    rw [consistent.ended]
    exact List.countP_pos_iff.mpr ⟨request, member, by simp [same, recorded]⟩
  omega

end Rows

section Views

variable {database : Database} {actor : ℕ} {body : Option StartBody}

theorem extends_start (answers : StartAnswers) :
    Extends database (Views.start actor body answers database).2 := by
  unfold Views.start
  cases parseStart body with
  | none => exact .refl database
  | some post =>
      dsimp only
      cases reserves : reserveUpdateRequest post.taskId actor post.targetVersion database with
      | ok reserved => exact extends_reserve reserves
      | error error => cases error <;> exact .refl database

/-- What the view asks the updater to start has a row. -/
theorem StartCall.asks_some {call : StartCall} {post : StartBody}
    (asks : call.asks database = some post) (answers : StartAnswers) :
    Reserved (Views.start call.actor call.body answers database).2 post.taskId ∧
      (Views.start call.actor call.body answers database).1 =
        startReserved post.targetVersion post.taskId answers := by
  unfold StartCall.asks at asks
  cases parsed : parseStart call.body with
  | none =>
      simp only [parsed] at asks
      cases asks
  | some parsedPost =>
      simp only [parsed] at asks
      cases reserves : reserveUpdateRequest parsedPost.taskId call.actor parsedPost.targetVersion
          database with
      | error error =>
          simp only [reserves] at asks
          cases asks
      | ok reserved =>
          simp only [reserves] at asks
          cases reaches : call.client with
          | error error =>
              simp only [reaches] at asks
              cases asks
          | ok _ =>
              simp only [reaches, Option.some.injEq] at asks
              subst asks
              simp only [Views.start, parsed, reserves]
              exact ⟨reserve_reserves reserves, trivial⟩

/-- A start that is not sent to the updater is not accepted. -/
theorem StartCall.asks_none {call : StartCall} {task : TaskView} {answers : StartAnswers}
    (asks : call.asks database = none) (client : answers.client = call.client) :
    (Views.start call.actor call.body answers database).1 ≠ .task task := by
  unfold StartCall.asks at asks
  unfold Views.start
  cases parsed : parseStart call.body with
  | none => exact nofun
  | some post =>
      simp only [parsed] at asks
      dsimp only
      cases reserves : reserveUpdateRequest post.taskId call.actor post.targetVersion database with
      | error error => cases error <;> exact nofun
      | ok reserved =>
          simp only [reserves] at asks
          dsimp only
          unfold startReserved
          rw [client]
          cases reaches : call.client with
          | error error => exact clientError_ne_task error task
          | ok _ =>
              simp only [reaches] at asks
              cases asks

end Views

section Runs

variable {system : System} {record : Chronicle} {event : Event}

/-- What an event does to the rows and to the slot. -/
structure Proceeds (before after : System) : Prop where
  consistent : Consistent after.database
  grows : Extends before.database after.database
  fits : RunnerFits after
  slot : slotId after = slotId before ∨
    ∃ taskId, slotId after = some taskId ∧ Reserved after.database taskId

theorem StartCall.perform_database (call : StartCall) (system : System) :
    ∃ answers, (call.perform system).2.database =
      (Views.start call.actor call.body answers system.database).2 := by
  unfold StartCall.perform
  cases call.asks system.database with
  | none => exact ⟨_, rfl⟩
  | some post => exact ⟨_, rfl⟩

theorem Event.proceeds (event : Event) (consistent : Consistent system.database)
    (fits : RunnerFits system) : Proceeds system (event.leaves system) := by
  cases event with
  | background step =>
      have slot := step.slot system.updater
      refine ⟨consistent, .refl _, ?_, .inl slot⟩
      intro busy task remembered
      exact slot.trans (fits busy task remembered)
  | workerEnds =>
      refine ⟨consistent, .refl _, ?_, .inl rfl⟩
      intro busy
      cases busy
  | restart choices =>
      have recovers : ∀ targetVersion taskId,
          Updater.Operation.recover ≠ .start targetVersion taskId := by
        intro targetVersion taskId starts
        cases starts
      have slot := BackgroundStep.slot ⟨.recover, choices, recovers⟩ system.updater
      refine ⟨consistent, .refl _, ?_, .inl slot⟩
      intro busy
      cases busy
  | status delivery now =>
      have performed := consistent.perform (.status (askStatus delivery system.updater) now)
      refine ⟨performed, ?_, fits, .inl rfl⟩
      simp only [Event.leaves, Views.status]
      split
      · exact .refl _
      · split
        · exact extends_recordTerminalAudit _ now
        · exact .refl _
  | check wellFormed delivery =>
      simp only [Event.leaves]
      split
      · have checks : ∀ targetVersion taskId,
            Updater.Operation.check ≠ .start targetVersion taskId := by
          intro targetVersion taskId starts
          cases starts
        have slot := BackgroundStep.slot ⟨.check, delivery.choices, checks⟩ system.updater
        refine ⟨consistent, .refl _, ?_, .inl slot⟩
        intro busy task remembered
        exact slot.trans (fits busy task remembered)
      · exact ⟨consistent, .refl _, fits, .inl rfl⟩
  | start call =>
      rcases call.perform_database system with ⟨answers, database⟩
      have performed := consistent.perform (.start call.actor call.body answers)
      have grown : Extends system.database (call.perform system).2.database := by
        rw [database]
        exact extends_start answers
      have held : Consistent (call.perform system).2.database := by
        rw [database]
        exact performed
      refine ⟨held, grown, ?_, ?_⟩
      · simp only [Event.leaves, StartCall.perform]
        split
        · exact fits
        · rename_i post asks
          exact (delivered_starts fits call post).fits
      · simp only [Event.leaves, StartCall.perform]
        split
        · exact .inl rfl
        · rename_i post asks
          rcases (delivered_starts fits call post).slot with same | opened
          · exact .inl same
          · exact .inr ⟨post.taskId, opened, (StartCall.asks_some asks _).1⟩

/-- What holds after every event of a run that shows each outcome in time. -/
structure Kept (record : Chronicle) : Prop where
  consistent : Consistent record.system.database
  fits : RunnerFits record.system
  reserved : ∀ taskId, slotId record.system = some taskId →
    Reserved record.system.database taskId
  shown : record.shown = true → ∀ taskId, slotId record.system = some taskId →
    Recorded record.system.database taskId
  accepted : ∀ taskId ∈ record.accepted, slotId record.system ≠ some taskId →
    Recorded record.system.database taskId

theorem kept_fresh {updater : World} (empty : updater.state.task = none) :
    Kept (freshChronicle updater) where
  consistent := consistent_empty
  fits := nofun
  reserved := by
    intro taskId slot
    simp [slotId, freshChronicle, empty] at slot
  shown := nofun
  accepted := nofun

/-- The outcome that a status shows is recorded. -/
theorem records_shown {taskId : String} (reserved : Reserved system.database taskId)
    (slot : slotId system = some taskId) (shows : showsOutcome event system = true) :
    Recorded (event.leaves system).database taskId := by
  cases event with
  | status delivery now =>
      simp only [showsOutcome] at shows
      simp only [Event.leaves]
      cases answered : askStatus delivery system.updater with
      | error error =>
          rw [answered] at shows
          cases shows
      | ok view =>
          rw [answered] at shows
          rcases Option.map_eq_some_iff.mp slot with ⟨task, saved, rfl⟩
          have seen := askStatus_ok answered
          rw [saved, Option.map_some] at seen
          simp only [seen, Option.any_some] at shows
          simp only [Views.status, seen]
          exact recordTerminalAudit_records now shows reserved
  | background step => cases shows
  | workerEnds => cases shows
  | restart choices => cases shows
  | check wellFormed delivery => cases shows
  | start call => cases shows

theorem Kept.next (kept : Kept record) (shownBefore : ShownBefore record event) :
    Kept (record.next event) := by
  have proceeds := event.proceeds kept.consistent kept.fits
  refine ⟨proceeds.consistent, proceeds.fits, ?_, ?_, ?_⟩
  · intro taskId slot
    rcases proceeds.slot with same | ⟨opened, isOpened, reserved⟩
    · exact proceeds.grows.reserved taskId (kept.reserved taskId (same.symm.trans slot))
    · obtain rfl : opened = taskId := Option.some.inj (isOpened.symm.trans slot)
      exact reserved
  · intro shown taskId slot
    simp only [Chronicle.next, Bool.and_eq_true, Bool.or_eq_true, decide_eq_true_eq] at shown
    have before : slotId record.system = some taskId := shown.2.symm.trans slot
    rcases shown.1 with earlier | now
    · exact proceeds.grows.recorded taskId (kept.shown earlier taskId before)
    · exact records_shown (kept.reserved taskId before) before now
  · intro taskId member another
    have member' : taskId ∈ record.accepted := by
      rcases List.mem_append.mp member with old | new
      · exact old
      · exact absurd (Option.mem_toList.mp new) another
    refine proceeds.grows.recorded taskId ?_
    by_cases before : slotId record.system = some taskId
    · -- the slot was given to another task, after a status showed the outcome
      have moved : slotId (event.leaves record.system) ≠ slotId record.system := by
        rw [before]
        exact another
      exact kept.shown (shownBefore moved (by simp [before])) taskId before
    · exact kept.accepted taskId member' before

/-- Each start of the run that opens a new task comes after the outcome before it was shown. -/
def AllShown : Chronicle → List Event → Prop
  | _, [] => True
  | record, event :: rest => ShownBefore record event ∧ AllShown (record.next event) rest

instance (record : Chronicle) (event : Event) : Decidable (ShownBefore record event) :=
  inferInstanceAs (Decidable (_ → _ → _))

def decideAllShown : (record : Chronicle) → (events : List Event) →
    Decidable (AllShown record events)
  | _, [] => isTrue trivial
  | record, event :: rest =>
      let _ := decideAllShown (record.next event) rest
      inferInstanceAs (Decidable (_ ∧ _))

instance (record : Chronicle) (events : List Event) : Decidable (AllShown record events) :=
  decideAllShown record events

theorem Kept.chronicle {events : List Event} (kept : Kept record)
    (allShown : AllShown record events) : Kept (chronicle events record) := by
  induction events generalizing record with
  | nil => exact kept
  | cons event rest ih => exact ih (kept.next allShown.1) allShown.2

theorem allShown_append {first second : List Event} (allShown : AllShown record (first ++ second)) :
    AllShown record first ∧ AllShown (SystemUpdate.chronicle first record) second := by
  induction first generalizing record with
  | nil => exact ⟨trivial, allShown⟩
  | cons event rest ih => exact ⟨⟨allShown.1, (ih allShown.2).1⟩, (ih allShown.2).2⟩

/-- The task of an accepted start is the one in the slot. -/
theorem perform_task {call : StartCall} {task : TaskView} (fits : RunnerFits system)
    (answered : (call.perform system).1 = .task task) :
    slotId (call.perform system).2 = some task.id := by
  unfold StartCall.perform at answered ⊢
  cases asks : call.asks system.database with
  | none =>
      simp only [asks] at answered
      exact absurd answered (StartCall.asks_none asks rfl)
  | some post =>
      simp only [asks] at answered ⊢
      rw [(StartCall.asks_some asks _).2] at answered
      exact answers_name fits (startReserved_task answered).2

end Runs

/-- In every run in which a status shows each outcome before the slot is given to another task, an
accepted start finds the outcome of every other accepted task recorded, and audited once. -/
theorem outcomes_recorded (updater : World) (empty : updater.state.task = none)
    (events : List Event) (call : StartCall)
    (allShown : AllShown (freshChronicle updater) (events ++ [.start call])) (task : TaskView)
    (answered : (call.perform (chronicle events (freshChronicle updater)).system).1 = .task task) :
    let record := chronicle (events ++ [.start call]) (freshChronicle updater)
    ∀ request ∈ record.system.database.requests, request.taskId ∈ record.accepted →
      request.taskId ≠ task.id →
        request.terminalRecordedAt.isSome = true ∧
          endedAudits record.system.database request.taskId = 1 := by
  intro record request member accepted another
  have kept : Kept record := (kept_fresh empty).chronicle allShown
  have before : Kept (chronicle events (freshChronicle updater)) :=
    (kept_fresh empty).chronicle (allShown_append allShown).1
  have last : record.system =
      (call.perform (chronicle events (freshChronicle updater)).system).2 := by
    simp only [record, chronicle, List.foldl_append, List.foldl_cons, List.foldl_nil]
    rfl
  have slot : slotId record.system = some task.id := by
    rw [last]
    exact perform_task before.fits answered
  have recorded : Recorded record.system.database request.taskId := by
    refine kept.accepted request.taskId accepted ?_
    rw [slot]
    exact fun same => another (Option.some.inj same).symm
  refine ⟨?_, recorded.audited kept.consistent⟩
  rcases recorded with ⟨other, otherMem, same, recordedAt⟩
  have sameRow := List.inj_on_of_nodup_map kept.consistent.taskIds otherMem member same
  rw [← sameRow]
  exact recordedAt

namespace Sample

def arriving (choices : List Choice) : Delivery := ⟨true, choices, none⟩

def lost : Delivery := ⟨false, [], none⟩

def posting (taskId : String) : StartCall where
  actor := 1
  body := some ⟨"v0.3.0", taskId⟩
  client := .ok ()
  start := arriving Updater.Sample.starting
  meanwhile := []
  status := lost

/-- A check, a start, and an execution that fails. -/
def unseen : List Event := [
  .check true (arriving ({ inspected := Updater.Sample.originalImage } :: Updater.Sample.calm 3)),
  .start (posting Updater.Sample.task.id),
  .background ⟨.execute Updater.Sample.task.id, Updater.Sample.failing, nofun⟩, .workerEnds]

/-- The same, and a status that shows the failure. -/
def seen : List Event := unseen ++ [.status (arriving []) 0]

def nextStart : StartCall := posting Updater.Sample.otherId

end Sample

theorem Response.task_of_taskId? {response : Response} {taskId : String}
    (named : response.taskId? = some taskId) : ∃ task, response = .task task ∧ task.id = taskId := by
  cases response with
  | task task => exact ⟨task, rfl, Option.some.inj named⟩
  | status status => cases named
  | error status code => cases named
  | serverError => cases named

/-- Nobody looks at the status of a failed update before the next one is started: its outcome is
not recorded. -/
theorem outcome_lost :
    ∃ (updater : World) (events : List Event) (call : StartCall) (task : TaskView)
      (request : SystemUpdateRequest), updater.state.task = none ∧
        (call.perform (chronicle events (freshChronicle updater)).system).1 = .task task ∧
        (chronicle events (freshChronicle updater)).system.database.find? task.id = none ∧
        request ∈ (call.perform (chronicle events
          (freshChronicle updater)).system).2.database.requests ∧
        request.taskId ∈ (chronicle events (freshChronicle updater)).accepted ∧
        request.taskId ≠ task.id ∧ request.terminalRecordedAt = none := by
  have answered : (Sample.nextStart.perform (chronicle Sample.unseen
      (freshChronicle Updater.Sample.emptyWorld)).system).1.taskId? =
        some Updater.Sample.otherId := by decide +kernel
  have unknown : (chronicle Sample.unseen (freshChronicle
      Updater.Sample.emptyWorld)).system.database.find? Updater.Sample.otherId = none := by
    decide +kernel
  have rows : (⟨1, Updater.Sample.task.id, 1, "v0.3.0", .active, none⟩ : SystemUpdateRequest) ∈
      (Sample.nextStart.perform (chronicle Sample.unseen
        (freshChronicle Updater.Sample.emptyWorld)).system).2.database.requests := by
    decide +kernel
  have accepted : Updater.Sample.task.id ∈ (chronicle Sample.unseen
      (freshChronicle Updater.Sample.emptyWorld)).accepted := by decide +kernel
  rcases Response.task_of_taskId? answered with ⟨task, is, named⟩
  refine ⟨Updater.Sample.emptyWorld, Sample.unseen, Sample.nextStart, task, _, rfl, is, ?_, rows,
    accepted, ?_, rfl⟩
  · rw [named]
    exact unknown
  · rw [named]
    decide +kernel

theorem outcomes_recorded_seen :
    ∃ request ∈ (chronicle (Sample.seen ++ [.start Sample.nextStart])
        (freshChronicle Updater.Sample.emptyWorld)).system.database.requests,
      request.taskId = Updater.Sample.task.id ∧ request.terminalRecordedAt.isSome = true := by
  have answered : (Sample.nextStart.perform (chronicle Sample.seen
      (freshChronicle Updater.Sample.emptyWorld)).system).1.taskId? =
        some Updater.Sample.otherId := by decide +kernel
  have allShown : AllShown (freshChronicle Updater.Sample.emptyWorld)
      (Sample.seen ++ [.start Sample.nextStart]) := by decide +kernel
  have found : (⟨1, Updater.Sample.task.id, 1, "v0.3.0", .failed, some 0⟩ : SystemUpdateRequest) ∈
      (chronicle (Sample.seen ++ [.start Sample.nextStart])
        (freshChronicle Updater.Sample.emptyWorld)).system.database.requests := by
    decide +kernel
  have accepted : Updater.Sample.task.id ∈ (chronicle (Sample.seen ++ [.start Sample.nextStart])
      (freshChronicle Updater.Sample.emptyWorld)).accepted := by decide +kernel
  rcases Response.task_of_taskId? answered with ⟨task, is, named⟩
  have another : Updater.Sample.task.id ≠ task.id := by
    rw [named]
    decide +kernel
  have recorded := outcomes_recorded Updater.Sample.emptyWorld rfl Sample.seen Sample.nextStart
    allShown task is _ found accepted another
  exact ⟨_, found, rfl, recorded.1⟩

end Finrec.SystemUpdate
