import Mathlib.Data.List.Basic

/-!
# The event loop

`common/src/event_loop.cpp`: tasks that any thread submits, schedules or cancels, and that the
thread of the loop runs. A step below is what a thread does while it holds the lock, or the start
of an action or of a finalizer, so that a run is an interleaving of the threads. Each task has a
finalizer, and what becomes of the tasks is written to a log.
-/

namespace TrustTunnel.Client.EventLoop

inductive EventLoopState where
  | stopped
  | running
  | baseExited
  deriving DecidableEq

/-- How a task got into the loop. -/
inductive TaskKind where
  | submitted
  | scheduled
  deriving DecidableEq

/-- What happens to tasks. -/
inductive Entry where
  /-- `submit` or `schedule` has decided what to do with a task. -/
  | accepted (id : Nat) (kind : TaskKind)
  | started (id : Nat) (kind : TaskKind)
  | finalized (id : Nat)
  /-- A cancel, whether it found the task and whether it was made on the thread of the loop. -/
  | cancelled (id : Nat) (found onLoop : Bool)
  /-- `vpn_event_loop_finalize_exit` is done. -/
  | exited
  deriving DecidableEq

/-- What the thread of the loop is doing. A task of the queue is run inside of
`run_task_queue`, which goes on afterwards with the last id and the number of tasks so far. -/
inductive LoopThread where
  /-- Waiting for events, or in a callback that is not one of the loop's own. -/
  | idle
  | queue (lastId : Int) (count : Nat)
  /-- Before the action of a task. -/
  | ready (id : Nat) (kind : TaskKind) (resume : Option (Int × Nat))
  /-- In the action of a task. -/
  | acting (id : Nat) (resume : Option (Int × Nat))
  /-- In the finalizer of a task. -/
  | finalizing (resume : Option (Int × Nat))
  deriving DecidableEq

structure VpnEventLoop where
  /-- `g_next_task_id`. -/
  nextTaskId : Nat
  state : EventLoopState
  stoppingExternally : Bool
  taskQueueScheduled : Bool
  taskQueue : List Nat
  deferredTaskQueue : List Nat
  /-- One-shot events that will call `run_task_queue`. -/
  queueEvents : Nat
  /-- Ids that calls of `schedule` have taken before the lock. -/
  reserved : List Nat
  thread : LoopThread
  /-- Tasks that a call has taken out of the loop, or not put into it, and will finalize, and
  whether the call is made on the thread of the loop. -/
  detached : List (Nat × Bool)
  /-- Calls of `vpn_event_loop_finalize_exit` that wait. -/
  exiting : Nat
  /-- What has happened, the latest first. -/
  log : List Entry

/-- A loop that was created just now. -/
def VpnEventLoop.create (nextTaskId : Nat) : VpnEventLoop where
  nextTaskId
  state := .stopped
  stoppingExternally := false
  taskQueueScheduled := false
  taskQueue := []
  deferredTaskQueue := []
  queueEvents := 0
  reserved := []
  thread := .idle
  detached := []
  exiting := 0
  log := []

namespace VpnEventLoop

variable (loop : VpnEventLoop)

/-! ## Tasks of any thread -/

/-- The call will run the finalizer after the lock. -/
def detach (id : Nat) (onLoop : Bool) : VpnEventLoop :=
  { loop with detached := (id, onLoop) :: loop.detached }

/-- The part of `vpn_event_loop_submit` behind the check of the state. -/
def enqueue (id : Nat) : VpnEventLoop :=
  let queued := { loop with taskQueue := loop.taskQueue ++ [id] }
  if loop.taskQueueScheduled then queued
  else { queued with taskQueueScheduled := true, queueEvents := queued.queueEvents + 1 }

/-- `vpn_event_loop_submit`. -/
def submit : VpnEventLoop :=
  let id := loop.nextTaskId
  let accepted := { loop with nextTaskId := id + 1, log := .accepted id .submitted :: loop.log }
  match loop.state with
  | .baseExited => accepted.detach id false
  | .stopped | .running => accepted.enqueue id

/-- `vpn_event_loop_schedule` up to the lock. -/
def reserveId : VpnEventLoop :=
  { loop with nextTaskId := loop.nextTaskId + 1, reserved := loop.nextTaskId :: loop.reserved }

/-- `vpn_event_loop_schedule` from the lock on. -/
def schedule (id : Nat) : VpnEventLoop :=
  if id ∈ loop.reserved then
    let accepted :=
      { loop with reserved := loop.reserved.erase id, log := .accepted id .scheduled :: loop.log }
    match loop.state with
    | .baseExited => accepted.detach id false
    | .stopped | .running => { accepted with deferredTaskQueue := loop.deferredTaskQueue ++ [id] }
  else loop

/-- A call has returned the id. -/
def issued (id : Nat) : Bool :=
  loop.log.any fun entry => entry = .accepted id .submitted || entry = .accepted id .scheduled

/-- No call on the thread of the loop has yet to run a finalizer. -/
def threadFree : Bool := loop.detached.all (!·.2)

/-- The thread of the loop can make calls. -/
def threadCalls : Bool :=
  loop.state = .running && loop.threadFree &&
    match loop.thread with
    | .idle | .acting _ _ | .finalizing _ => true
    | .queue _ _ | .ready _ _ _ => false

/-- `vpn_event_loop_cancel` up to the unlock. -/
def cancel (id : Nat) (onLoop : Bool) : VpnEventLoop :=
  if loop.issued id && (!onLoop || loop.threadCalls) then
    if id ∈ loop.taskQueue then
      { loop with
        taskQueue := loop.taskQueue.erase id
        log := .cancelled id true onLoop :: loop.log }.detach id onLoop
    else if id ∈ loop.deferredTaskQueue then
      { loop with
        deferredTaskQueue := loop.deferredTaskQueue.erase id
        log := .cancelled id true onLoop :: loop.log }.detach id onLoop
    else { loop with log := .cancelled id false onLoop :: loop.log }
  else loop

/-- A call that has left the lock runs the finalizer of its task. -/
def finalizeDetached (task : Nat × Bool) : VpnEventLoop :=
  if task ∈ loop.detached then
    { loop with detached := loop.detached.erase task, log := .finalized task.1 :: loop.log }
  else loop

/-! ## The thread of the loop -/

/-- `TASK_QUEUE_BUDGET`. -/
def taskQueueBudget : Nat := 64

/-- `task_queue_last_id`. -/
def taskQueueLastId : List Nat → Int
  | [] => -1
  | front :: rest =>
    let back := rest.getLastD front
    if front ≤ back then back else 9223372036854775807

/-- `vpn_event_loop_run` up to the start of the event base; it asserts the state. -/
def run : VpnEventLoop := if loop.state = .stopped then { loop with state := .running } else loop

/-- The thread of the loop can take the next event. -/
def takesEvent : Bool := loop.state = .running && loop.thread = .idle && loop.threadFree

/-- The beginning of `run_task_queue`. -/
def startQueue : VpnEventLoop :=
  if loop.takesEvent && 0 < loop.queueEvents then
    { loop with
      queueEvents := loop.queueEvents - 1
      thread := .queue (taskQueueLastId loop.taskQueue) 0 }
  else loop

/-- One round of `run_task_queue` up to the unlock. -/
def nextTask : VpnEventLoop :=
  match loop.thread with
  | .queue lastId count =>
    match loop.taskQueue with
    | [] => { loop with taskQueueScheduled := false, thread := .idle }
    | front :: rest =>
      if front > lastId ∨ count = taskQueueBudget then
        { loop with queueEvents := loop.queueEvents + 1, thread := .idle }
      else
        { loop with taskQueue := rest, thread := .ready front .submitted (lastId, count) }
  | _ => loop

/-- `run_deferred_task` up to the unlock. -/
def runDeferredTask (id : Nat) : VpnEventLoop :=
  if loop.takesEvent && loop.deferredTaskQueue.contains id then
    { loop with
      deferredTaskQueue := loop.deferredTaskQueue.erase id
      thread := .ready id .scheduled none }
  else loop

/-- The action of a task is called. -/
def startAction : VpnEventLoop :=
  match loop.thread with
  | .ready id kind resume =>
    { loop with thread := .acting id resume, log := .started id kind :: loop.log }
  | _ => loop

/-- The action of a task returns, and its finalizer is called. -/
def endAction : VpnEventLoop :=
  match loop.thread with
  | .acting id resume =>
    if loop.threadFree then
      { loop with thread := .finalizing resume, log := .finalized id :: loop.log }
    else loop
  | _ => loop

/-- The finalizer returns. -/
def endFinalizer : VpnEventLoop :=
  match loop.thread with
  | .finalizing resume =>
    if loop.threadFree then
      { loop with
        thread := match resume with
          | none => .idle
          | some (lastId, count) => .queue lastId (count + 1) }
    else loop
  | _ => loop

/-- The event base returns, because an exit was requested or something failed. -/
def endRun : VpnEventLoop :=
  if loop.takesEvent then
    { loop with state := if loop.stoppingExternally then .baseExited else .stopped }
  else loop

/-! ## Exit -/

/-- `vpn_event_loop_finalize_exit` up to the wait. -/
def finalizeExit : VpnEventLoop :=
  { loop with stoppingExternally := true, exiting := loop.exiting + 1 }

/-- A wait is over. -/
def exitWaited : Bool := 0 < loop.exiting && loop.state ≠ .running

/-- The tasks whose finalizers `vpn_event_loop_finalize_exit` calls. -/
def queuedTasks : List Nat := loop.taskQueue ++ loop.deferredTaskQueue

/-- Call the finalizers of tasks one after the other. -/
def finalizeAll (ids : List Nat) (log : List Entry) : List Entry :=
  ids.foldl (fun log id => .finalized id :: log) log

/-- `vpn_event_loop_finalize_exit` from the end of the wait on; it holds the lock. -/
def finishExit : VpnEventLoop :=
  if loop.exitWaited then
    { loop with
      taskQueue := []
      deferredTaskQueue := []
      state := .stopped
      stoppingExternally := false
      exiting := loop.exiting - 1
      log := .exited :: finalizeAll loop.queuedTasks loop.log }
  else loop

end VpnEventLoop

/-! ## Steps -/

/-- A step of one of the threads. -/
inductive Step where
  /-- Another loop takes an id. -/
  | skipId
  | submit
  | reserveId
  | schedule (id : Nat)
  | cancel (id : Nat) (onLoop : Bool)
  | finalizeDetached (task : Nat × Bool)
  | run
  | startQueue
  | nextTask
  | runDeferredTask (id : Nat)
  | startAction
  | endAction
  | endFinalizer
  | endRun
  | finalizeExit
  | finishExit
  deriving DecidableEq

def VpnEventLoop.next (loop : VpnEventLoop) : Step → VpnEventLoop
  | .skipId => { loop with nextTaskId := loop.nextTaskId + 1 }
  | .submit => loop.submit
  | .reserveId => loop.reserveId
  | .schedule id => loop.schedule id
  | .cancel id onLoop => loop.cancel id onLoop
  | .finalizeDetached task => loop.finalizeDetached task
  | .run => loop.run
  | .startQueue => loop.startQueue
  | .nextTask => loop.nextTask
  | .runDeferredTask id => loop.runDeferredTask id
  | .startAction => loop.startAction
  | .endAction => loop.endAction
  | .endFinalizer => loop.endFinalizer
  | .endRun => loop.endRun
  | .finalizeExit => loop.finalizeExit
  | .finishExit => loop.finishExit

/-!
## The log of an event loop

What is required of the order in which tasks are accepted, started and finalized.
-/

open List

open VpnEventLoop (finalizeAll)

/-! The latest entry of a log is its first one. -/

/-- How often a task was accepted. -/
def accepts (log : List Entry) (id : Nat) : Nat :=
  log.count (.accepted id .submitted) + log.count (.accepted id .scheduled)

/-- A task may be started: it was accepted behind the last exit, it was neither started nor
finalized, and no cancel has found it or was made on the thread of the loop. -/
structure Startable (log : List Entry) (id : Nat) (kind : TaskKind) : Prop where
  accepted : .accepted id kind ∈ log.takeWhile (· ≠ .exited)
  unstarted : ∀ kind, .started id kind ∉ log
  unfinalized : .finalized id ∉ log
  uncancelled : ∀ found onLoop, .cancelled id found onLoop ∈ log → found = false ∧ onLoop = false

/-- What an entry requires of the entries before it, exits apart. -/
def Follows (before : List Entry) : Entry → Prop
  | .accepted id _ => accepts before id = 0
  | .started id kind => Startable before id kind
  | .finalized id => accepts before id = 1 ∧ .finalized id ∉ before
  | .cancelled id _ _ => 0 < accepts before id
  | .exited => True

/-- Each entry follows those before it. -/
def Orderly : List Entry → Prop
  | [] => True
  | entry :: before => Follows before entry ∧ Orderly before

/-- Each exit finds the tasks before it finalized once. -/
def Complete : List Entry → Prop
  | [] => True
  | entry :: before =>
    (entry = .exited → ∀ id, 0 < accepts before id → before.count (.finalized id) = 1) ∧
      Complete before

/-- The submitted tasks, the latest first. -/
def submissions (log : List Entry) : List Nat :=
  log.filterMap fun
    | .accepted id .submitted => some id
    | _ => none

/-- The submitted tasks that were started, the latest first. -/
def starts (log : List Entry) : List Nat :=
  log.filterMap fun
    | .started id .submitted => some id
    | _ => none

/-- What is required of a log. -/
structure Correct (log : List Entry) : Prop where
  orderly : Orderly log
  complete : Complete log
  inOrder : (starts log).Sublist (submissions log)

/-! ## Entries -/

/-- The task of an entry. -/
def Entry.task : Entry → Option Nat
  | accepted id _ => some id
  | started id _ => some id
  | finalized id => some id
  | cancelled id _ _ => some id
  | exited => none

/-- An entry that leaves a task startable. -/
def Harmless (id : Nat) : Entry → Prop
  | .accepted _ _ => True
  | .started other _ => other ≠ id
  | .finalized other => other ≠ id
  | .cancelled other found onLoop => other = id → found = false ∧ onLoop = false
  | .exited => False

variable {log : List Entry} {entry : Entry} {id other : Nat} {kind : TaskKind}

lemma accepts_cons (entry : Entry) (log : List Entry) (id : Nat) :
    accepts (entry :: log) id = accepts log id + accepts [entry] id := by
  simp only [accepts, count_cons, count_nil]
  omega

@[simp] lemma accepts_accepted :
    accepts [.accepted other kind] id = if other = id then 1 else 0 := by
  cases kind <;> simp [accepts, count_cons]

@[simp] lemma accepts_started : accepts [.started other kind] id = 0 := by
  simp [accepts]

@[simp] lemma accepts_finalized : accepts [.finalized other] id = 0 := by
  simp [accepts]

@[simp] lemma accepts_cancelled {found onLoop : Bool} :
    accepts [.cancelled other found onLoop] id = 0 := by
  simp [accepts]

@[simp] lemma accepts_exited : accepts [.exited] id = 0 := by
  simp [accepts]

lemma accepts_pos_of_mem_accepted (mem : .accepted id kind ∈ log) : 0 < accepts log id := by
  have counted := count_pos_iff.mpr mem
  cases kind
  all_goals
    rw [accepts]
    omega

lemma Orderly.accepts_pos (orderly : Orderly log) (mem : entry ∈ log)
    (task : entry.task = some id) : 0 < accepts log id := by
  induction log with
  | nil => cases mem
  | cons _ log ih =>
    rw [accepts_cons]
    rcases mem_cons.mp mem with rfl | mem
    · cases entry with
      | accepted =>
        cases task
        rw [accepts_accepted, if_pos rfl]
        omega
      | started _ kind =>
        cases task
        have startable : Startable log id kind := orderly.1
        have := accepts_pos_of_mem_accepted ((takeWhile_sublist _).subset startable.accepted)
        omega
      | finalized =>
        cases task
        have := orderly.1.1
        omega
      | cancelled =>
        cases task
        have : 0 < accepts log id := orderly.1
        omega
      | exited => cases task
    · have := ih orderly.2 mem
      omega

lemma Startable.cons (startable : Startable log id kind) (harmless : Harmless id entry) :
    Startable (entry :: log) id kind where
  accepted := by
    have notExited : entry ≠ .exited := by
      rintro rfl
      exact harmless
    rw [takeWhile_cons_of_pos (by simpa using notExited)]
    exact mem_cons_of_mem _ startable.accepted
  unstarted kind mem := by
    rcases mem_cons.mp mem with rfl | mem
    · exact harmless rfl
    · exact startable.unstarted kind mem
  unfinalized mem := by
    rcases mem_cons.mp mem with rfl | mem
    · exact harmless rfl
    · exact startable.unfinalized mem
  uncancelled found onLoop mem := by
    rcases mem_cons.mp mem with rfl | mem
    · exact harmless rfl
    · exact startable.uncancelled found onLoop mem

lemma startable_accepted (orderly : Orderly log) (new : accepts log id = 0) :
    Startable (.accepted id kind :: log) id kind := by
  have unmentioned {entry : Entry} (task : entry.task = some id)
      (other : entry ≠ .accepted id kind) : entry ∉ .accepted id kind :: log := by
    intro mem
    have := orderly.accepts_pos ((mem_cons.mp mem).resolve_left other) task
    omega
  refine ⟨?_, fun kind => unmentioned rfl nofun, unmentioned rfl nofun,
    fun found onLoop mem => absurd mem (unmentioned rfl nofun)⟩
  exact mem_cons_self

/-! ## Submissions and starts -/

@[simp] lemma submissions_submitted :
    submissions (.accepted id .submitted :: log) = id :: submissions log := rfl

@[simp] lemma starts_accepted : starts (.accepted id kind :: log) = starts log := rfl

/-! ## Finalizers of an exit -/

section

variable (ids : List Nat) (log : List Entry)

/-- What a single finalizer does not change, all of them do not. -/
lemma apply_finalizeAll {β : Sort*} {value : List Entry → β}
    (same : ∀ id log, value (.finalized id :: log) = value log) :
    value (finalizeAll ids log) = value log := by
  induction ids generalizing log with
  | nil => rfl
  | cons first _ ih => exact (ih _).trans (same first log)

lemma accepts_finalizeAll (id : Nat) : accepts (finalizeAll ids log) id = accepts log id :=
  @apply_finalizeAll ids log _ (accepts · id) fun _ _ => by simp [accepts]

lemma count_finalizeAll (id : Nat) :
    (finalizeAll ids log).count (.finalized id) = ids.count id + log.count (.finalized id) := by
  induction ids generalizing log with
  | nil => simp [finalizeAll]
  | cons _ _ ih =>
    refine (ih _).trans ?_
    simp only [count_cons, beq_iff_eq, Entry.finalized.injEq]
    omega

end

lemma starts_exited : starts (.exited :: log) = starts log := rfl

lemma submissions_exited : submissions (.exited :: log) = submissions log := rfl

section

variable (ids : List Nat) (log : List Entry)

lemma starts_finalizeAll : starts (finalizeAll ids log) = starts log :=
  apply_finalizeAll ids log fun _ _ => rfl

lemma submissions_finalizeAll : submissions (finalizeAll ids log) = submissions log :=
  apply_finalizeAll ids log fun _ _ => rfl

lemma complete_finalizeAll : Complete (finalizeAll ids log) ↔ Complete log :=
  iff_of_eq (apply_finalizeAll ids log fun _ _ => by simp [Complete])

end

/-- Tasks that are not finalized are finalized one after the other. -/
lemma Orderly.finalizeAll (orderly : Orderly log) {ids : List Nat} (nodup : ids.Nodup)
    (each : ∀ id ∈ ids, accepts log id = 1 ∧ .finalized id ∉ log) :
    Orderly (finalizeAll ids log) := by
  induction ids generalizing log with
  | nil => exact orderly
  | cons first _ ih =>
    obtain ⟨notLater, nodup⟩ := nodup_cons.mp nodup
    have follows : Follows log (.finalized first) := each first mem_cons_self
    refine ih ⟨follows, orderly⟩ nodup fun id mem => ?_
    obtain ⟨accepted, unfinalized⟩ := each id (mem_cons_of_mem first mem)
    refine ⟨accepted, fun again => ?_⟩
    rcases mem_cons.mp again with same | again
    · cases same
      exact notLater mem
    · exact unfinalized again

end TrustTunnel.Client.EventLoop
