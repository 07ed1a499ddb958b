import TrustTunnel.Client.EventLoop
import TrustTunnel.Transition.Trace

/-!
# The places of tasks in an event loop

A task is in one place of the loop until it is finalized: in a queue, with the thread of the loop,
or with a call that has taken it out and will finalize it. Every step keeps that.
-/

namespace TrustTunnel.Client.EventLoop

open List

variable {id other : Nat} {entry : Entry}

/-! ## Places of tasks -/

/-- The task that the thread of the loop has taken and not finalized. -/
def LoopThread.current : LoopThread → List Nat
  | ready id _ _ => [id]
  | acting id _ => [id]
  | _ => []

/-- The task that the thread of the loop will start. -/
def LoopThread.upcoming : LoopThread → List (Nat × TaskKind)
  | ready id kind _ => [(id, kind)]
  | _ => []

namespace VpnEventLoop

variable (loop : VpnEventLoop)

/-- The tasks that are not finalized. -/
def live : List Nat :=
  loop.taskQueue ++ (loop.deferredTaskQueue ++ (loop.thread.current ++ loop.detached.map Prod.fst))

/-- The tasks that may be started. -/
def waiting : List (Nat × TaskKind) :=
  loop.taskQueue.map (·, TaskKind.submitted) ++
    (loop.deferredTaskQueue.map (·, TaskKind.scheduled) ++ loop.thread.upcoming)

/-- The submitted tasks that may be started, the last one first. -/
def order : List Nat :=
  loop.taskQueue.reverse ++ loop.thread.upcoming.filterMap fun
    | (id, .submitted) => some id
    | (_, .scheduled) => none

end VpnEventLoop

/-- What holds after each step. -/
structure Sound (loop : VpnEventLoop) : Prop where
  orderly : Orderly loop.log
  /-- A task is in one place, or it is finalized. -/
  conserved : ∀ id, loop.live.count id + loop.log.count (.finalized id) = accepts loop.log id
  once : ∀ id, accepts loop.log id ≤ 1
  startable : ∀ task ∈ loop.waiting, Startable loop.log task.1 task.2
  inOrder : (loop.order ++ starts loop.log).Sublist (submissions loop.log)
  fresh : ∀ id, loop.nextTaskId ≤ id ∨ id ∈ loop.reserved → accepts loop.log id = 0
  reserved : loop.reserved.Nodup
  taken : ∀ id ∈ loop.reserved, id < loop.nextTaskId
  quiet : loop.state ≠ .running → loop.thread = .idle

open VpnEventLoop (waiting order detach)
open LoopThread (upcoming current)

/-! ## Steps in general -/

variable {loop after : VpnEventLoop} {task : Nat × TaskKind} {step : Step}

lemma Sound.logged (sound : Sound loop) (log : after.log = entry :: loop.log)
    (follows : Follows loop.log entry)
    (live : ∀ id, after.live.count id + [entry].count (.finalized id) =
      loop.live.count id + accepts [entry] id)
    (waiting : ∀ task ∈ after.waiting,
      task ∈ loop.waiting ∧ Harmless task.1 entry ∨ entry = .accepted task.1 task.2)
    (order : (after.order ++ starts (entry :: loop.log)).Sublist (submissions (entry :: loop.log)))
    (fresh : ∀ id, after.nextTaskId ≤ id ∨ id ∈ after.reserved →
      (loop.nextTaskId ≤ id ∨ id ∈ loop.reserved) ∧ accepts [entry] id = 0)
    (reserved : after.reserved.Nodup) (taken : ∀ id ∈ after.reserved, id < after.nextTaskId)
    (quiet : after.state ≠ .running → after.thread = .idle) : Sound after where
  orderly := by
    rw [log]
    exact ⟨follows, sound.orderly⟩
  conserved id := by
    have before := sound.conserved id
    have moved := live id
    rw [log, accepts_cons, ← singleton_append, count_append]
    omega
  once id := by
    rw [log, accepts_cons]
    have before := sound.once id
    cases entry with
    | accepted other =>
      have new : accepts loop.log other = 0 := follows
      rw [accepts_accepted]
      split
      case isTrue same =>
        rw [← same]
        omega
      case isFalse => exact before
    | _ => simpa using before
  startable task mem := by
    rw [log]
    rcases waiting task mem with ⟨old, harmless⟩ | rfl
    · exact (sound.startable task old).cons harmless
    · exact startable_accepted sound.orderly follows
  inOrder := by
    rw [log]
    exact order
  fresh id unused := by
    obtain ⟨before, new⟩ := fresh id unused
    rw [log, accepts_cons, new, sound.fresh id before]
  reserved := reserved
  taken := taken
  quiet := quiet

section

variable (sound : Sound loop) (nextTaskId : after.nextTaskId = loop.nextTaskId)
  (reserved : after.reserved = loop.reserved)
  (quiet : after.state ≠ .running → after.thread = .idle)

include sound nextTaskId reserved quiet

/-- A step that writes nothing to the log and moves tasks between places. -/
lemma Sound.moved (log : after.log = loop.log)
    (live : ∀ id, after.live.count id = loop.live.count id)
    (waiting : ∀ task ∈ after.waiting, task ∈ loop.waiting)
    (order : after.order.Sublist loop.order) : Sound after where
  orderly := by
    rw [log]
    exact sound.orderly
  conserved id := by
    rw [log, live]
    exact sound.conserved id
  once id := by
    rw [log]
    exact sound.once id
  startable task mem := by
    rw [log]
    exact sound.startable task (waiting task mem)
  inOrder := by
    rw [log]
    exact (order.append_right _).trans sound.inOrder
  fresh id := by
    rw [log, nextTaskId, reserved]
    exact sound.fresh id
  reserved := by
    rw [reserved]
    exact sound.reserved
  taken := by
    rw [nextTaskId, reserved]
    exact sound.taken
  quiet := quiet

/-- A step that writes an entry about a task that is there. -/
lemma Sound.noted (log : after.log = entry :: loop.log) (follows : Follows loop.log entry)
    (old : ∀ id, accepts [entry] id = 0)
    (live : ∀ id, after.live.count id + [entry].count (.finalized id) = loop.live.count id)
    (waiting : ∀ task ∈ after.waiting, task ∈ loop.waiting ∧ Harmless task.1 entry)
    (order : (after.order ++ starts (entry :: loop.log)).Sublist
      (submissions (entry :: loop.log))) : Sound after := by
  refine sound.logged log follows (fun id => ?_) (fun task mem => .inl (waiting task mem))
    order (fun id unused => ?_) ?_ ?_ quiet
  · rw [old id]
    exact live id
  · rw [nextTaskId, reserved] at unused
    exact ⟨unused, old id⟩
  · rw [reserved]
    exact sound.reserved
  · rw [nextTaskId, reserved]
    exact sound.taken

lemma Sound.cancelled {found onLoop : Bool}
    (log : after.log = .cancelled id found onLoop :: loop.log) (issued : 0 < accepts loop.log id)
    (live : ∀ id, after.live.count id = loop.live.count id)
    (waiting : ∀ task ∈ after.waiting,
      task ∈ loop.waiting ∧ (id = task.1 → found = false ∧ onLoop = false))
    (order : after.order.Sublist loop.order) : Sound after :=
  sound.noted nextTaskId reserved quiet log issued (fun _ => accepts_cancelled)
    (fun id => by simpa using live id) waiting ((order.append_right _).trans sound.inOrder)

end

lemma Sound.count_live_le_one (sound : Sound loop) (id : Nat) : loop.live.count id ≤ 1 := by
  have := sound.conserved id
  have := sound.once id
  omega

/-- A task that is not finalized was accepted once. -/
lemma Sound.live (sound : Sound loop) (mem : id ∈ loop.live) :
    accepts loop.log id = 1 ∧ .finalized id ∉ loop.log := by
  have here := count_pos_iff.mpr mem
  have conserved := sound.conserved id
  have once := sound.once id
  refine ⟨by omega, fun finalized => ?_⟩
  have := count_pos_iff.mpr finalized
  omega

/-- A task that may be started is in a queue or taken by the thread of the loop. -/
lemma count_of_mem_waiting (mem : task ∈ loop.waiting) :
    0 < loop.taskQueue.count task.1 + loop.deferredTaskQueue.count task.1 +
      (loop.thread.upcoming.map Prod.fst).count task.1 := by
  simp only [waiting, mem_append, mem_map] at mem
  rcases mem with ⟨id, inside, rfl⟩ | ⟨id, inside, rfl⟩ | inside
  · have := count_pos_iff.mpr inside
    dsimp only
    omega
  · have := count_pos_iff.mpr inside
    dsimp only
    omega
  · have taken : task.1 ∈ loop.thread.upcoming.map Prod.fst := mem_map_of_mem inside
    have := count_pos_iff.mpr taken
    omega

lemma count_upcoming_le (thread : LoopThread) (id : Nat) :
    (thread.upcoming.map Prod.fst).count id ≤ thread.current.count id := by
  cases thread <;> simp [upcoming, current]

lemma mem_live_of_mem_waiting (mem : task ∈ loop.waiting) : task.1 ∈ loop.live := by
  have waiting := count_of_mem_waiting mem
  have upcoming := count_upcoming_le loop.thread task.1
  refine count_pos_iff.mp ?_
  simp only [VpnEventLoop.live, count_append]
  omega

lemma count_map_erase {α : Type} [BEq α] [LawfulBEq α] {list : List α} {item : α}
    (mem : item ∈ list) (f : α → Nat) (id : Nat) :
    (list.map f).count id = ((list.erase item).map f).count id + if f item = id then 1 else 0 := by
  rw [((perm_cons_erase mem).map f).count_eq, map_cons, count_cons]
  simp

lemma count_erase {list : List Nat} {item : Nat} (mem : item ∈ list) (id : Nat) :
    list.count id = (list.erase item).count id + if item = id then 1 else 0 := by
  simpa using count_map_erase mem (fun id => id) id

/-! ## Calls of any thread -/

section

variable (sound : Sound loop)

include sound

lemma Sound.skipId : Sound { loop with nextTaskId := loop.nextTaskId + 1 } :=
  { sound with
    fresh := fun id unused => sound.fresh id (unused.imp_left Nat.le_of_succ_le)
    taken := fun id mem => Nat.lt_succ_of_lt (sound.taken id mem) }

lemma Sound.reserveId : Sound loop.reserveId where
  orderly := sound.orderly
  conserved := sound.conserved
  once := sound.once
  startable := sound.startable
  inOrder := sound.inOrder
  fresh id unused := by
    rcases unused with above | mem
    · exact sound.fresh id (.inl (Nat.le_of_succ_le above))
    · rcases mem_cons.mp mem with rfl | mem
      · exact sound.fresh _ (.inl (Nat.le_refl _))
      · exact sound.fresh id (.inr mem)
  reserved := by
    refine nodup_cons.mpr ⟨fun mem => ?_, sound.reserved⟩
    exact Nat.lt_irrefl _ (sound.taken _ mem)
  taken id mem := by
    rcases mem_cons.mp mem with rfl | mem
    · exact Nat.lt_succ_self _
    · exact Nat.lt_succ_of_lt (sound.taken id mem)
  quiet := sound.quiet

/-- The task that `submit` accepts, wherever it puts it. -/
lemma Sound.submitted (log : after.log = .accepted loop.nextTaskId .submitted :: loop.log)
    (live : ∀ id, after.live.count id = loop.live.count id + if loop.nextTaskId = id then 1 else 0)
    (waiting : ∀ task ∈ after.waiting, task ∈ loop.waiting ∨ task = (loop.nextTaskId, .submitted))
    (order : after.order.Sublist (loop.nextTaskId :: loop.order))
    (nextTaskId : after.nextTaskId = loop.nextTaskId + 1)
    (reserved : after.reserved = loop.reserved)
    (quiet : after.state ≠ .running → after.thread = .idle) : Sound after := by
  refine sound.logged log (sound.fresh _ (.inl (Nat.le_refl _))) (fun id => ?_)
    (fun task mem => ?_) ?_ (fun id unused => ?_) ?_ (fun id mem => ?_) quiet
  · rw [live]
    simp
  · rcases waiting task mem with old | rfl
    · exact .inl ⟨old, trivial⟩
    · exact .inr rfl
  · exact (order.append_right _).trans (sound.inOrder.cons_cons _)
  · rw [nextTaskId, reserved] at unused
    rw [accepts_accepted]
    rcases unused with above | mem
    · exact ⟨.inl (Nat.le_of_succ_le above), if_neg (by omega)⟩
    · have below := sound.taken id mem
      exact ⟨.inr mem, if_neg (by omega)⟩
  · rw [reserved]
    exact sound.reserved
  · rw [reserved] at mem
    rw [nextTaskId]
    exact Nat.lt_succ_of_lt (sound.taken id mem)

lemma Sound.submit : Sound loop.submit := by
  have queued (scheduled : Bool) (events : Nat) : Sound
      { loop with
        nextTaskId := loop.nextTaskId + 1
        log := .accepted loop.nextTaskId .submitted :: loop.log
        taskQueue := loop.taskQueue ++ [loop.nextTaskId]
        taskQueueScheduled := scheduled
        queueEvents := events } := by
    refine sound.submitted rfl (fun id => ?_) (fun task mem => ?_) ?_ rfl rfl sound.quiet
    · simp only [VpnEventLoop.live, count_append, count_singleton, beq_iff_eq]
      omega
    · simp only [waiting, map_append, mem_append, map_cons, map_nil, mem_singleton] at mem ⊢
      tauto
    · simp [order]
  rw [VpnEventLoop.submit]
  split
  · refine sound.submitted rfl (fun id => ?_) (fun task mem => .inl mem)
      (sublist_cons_self _ _) rfl rfl sound.quiet
    simp only [VpnEventLoop.live, detach, map_cons, count_append, count_cons, beq_iff_eq]
    omega
  all_goals
    rw [VpnEventLoop.enqueue]
    split
    · exact queued _ _
    · exact queued _ _

lemma Sound.schedule (id : Nat) : Sound (loop.schedule id) := by
  rw [VpnEventLoop.schedule]
  split
  case isFalse => exact sound
  case isTrue mem =>
    have new := sound.fresh id (.inr mem)
    have fresh : ∀ other, loop.nextTaskId ≤ other ∨ other ∈ loop.reserved.erase id →
        (loop.nextTaskId ≤ other ∨ other ∈ loop.reserved) ∧
          accepts [.accepted id .scheduled] other = 0 := by
      intro other unused
      have different : id ≠ other := by
        rintro rfl
        rcases unused with above | again
        · exact absurd (sound.taken id mem) (by omega)
        · exact (sound.reserved.mem_erase_iff.mp again).1 rfl
      rw [accepts_accepted, if_neg different]
      exact ⟨unused.imp_right mem_of_mem_erase, rfl⟩
    have reserved := sound.reserved.erase id
    have taken : ∀ other ∈ loop.reserved.erase id, other < loop.nextTaskId :=
      fun other there => sound.taken other (mem_of_mem_erase there)
    have queued : Sound
        { loop with
          reserved := loop.reserved.erase id
          log := .accepted id .scheduled :: loop.log
          deferredTaskQueue := loop.deferredTaskQueue ++ [id] } := by
      refine sound.logged rfl new (fun other => ?_) (fun task waits => ?_) sound.inOrder fresh
        reserved taken sound.quiet
      · simp only [VpnEventLoop.live, count_append, count_singleton, beq_iff_eq,
          accepts_accepted, reduceCtorEq, if_false]
        omega
      · simp only [waiting, map_append, mem_append, map_cons, map_nil, mem_singleton] at waits ⊢
        rcases waits with old | (old | rfl) | old
        · exact .inl ⟨.inl old, trivial⟩
        · exact .inl ⟨.inr (.inl old), trivial⟩
        · exact .inr rfl
        · exact .inl ⟨.inr (.inr old), trivial⟩
    split
    · refine sound.logged rfl new (fun other => ?_) (fun task waits => .inl ⟨waits, trivial⟩)
        sound.inOrder fresh reserved taken sound.quiet
      simp [VpnEventLoop.live, detach, count_append, count_cons]
      omega
    · exact queued
    · exact queued

lemma Sound.finalized (log : after.log = .finalized id :: loop.log)
    (live : ∀ other, loop.live.count other = after.live.count other + if id = other then 1 else 0)
    (waiting : after.waiting = loop.waiting) (order : after.order = loop.order)
    (nextTaskId : after.nextTaskId = loop.nextTaskId) (reserved : after.reserved = loop.reserved)
    (quiet : after.state ≠ .running → after.thread = .idle) : Sound after := by
  have here := live id
  rw [if_pos rfl] at here
  have one := sound.count_live_le_one id
  have inside : id ∈ loop.live := count_pos_iff.mp (by omega)
  refine sound.noted nextTaskId reserved quiet log (sound.live inside)
    (fun _ => accepts_finalized) (fun other => ?_) (fun task waits => ⟨waiting ▸ waits, ?_⟩) ?_
  · have := live other
    simp only [count_singleton, beq_iff_eq, Entry.finalized.injEq]
    omega
  · rintro rfl
    have := count_pos_iff.mpr (mem_live_of_mem_waiting waits)
    omega
  · rw [order]
    exact sound.inOrder

lemma Sound.finalizeDetached (task : Nat × Bool) : Sound (loop.finalizeDetached task) := by
  fun_cases loop.finalizeDetached task with
  | case1 mem =>
    refine sound.finalized rfl (fun other => ?_) rfl rfl rfl rfl sound.quiet
    have := count_map_erase mem Prod.fst other
    simp only [VpnEventLoop.live, count_append]
    omega
  | case2 => exact sound

end

lemma accepts_of_issued (issued : loop.issued id = true) : 0 < accepts loop.log id := by
  obtain ⟨entry, mem, same⟩ := any_eq_true.mp issued
  simp only [Bool.or_eq_true, decide_eq_true_eq] at same
  rcases same with rfl | rfl
  · exact accepts_pos_of_mem_accepted mem
  · exact accepts_pos_of_mem_accepted mem

open VpnEventLoop

/-- The thread of the loop makes no calls between taking a task and starting it. -/
lemma upcoming_of_threadCalls (calls : loop.threadCalls = true) : loop.thread.upcoming = [] := by
  cases thread : loop.thread with
  | ready => simp [threadCalls, thread] at calls
  | _ => rfl

lemma Sound.cancelFound (sound : Sound loop) (onLoop : Bool) {queue deferred : List Nat}
    (queued : queue.Sublist loop.taskQueue) (scheduled : deferred.Sublist loop.deferredTaskQueue)
    (taken : ∀ other, loop.taskQueue.count other + loop.deferredTaskQueue.count other =
      queue.count other + deferred.count other + if id = other then 1 else 0) :
    Sound ({ loop with
      taskQueue := queue
      deferredTaskQueue := deferred
      log := .cancelled id true onLoop :: loop.log }.detach id onLoop) := by
  have here := taken id
  rw [if_pos rfl] at here
  have one := sound.count_live_le_one id
  have inside : id ∈ loop.live := by
    refine count_pos_iff.mp ?_
    simp only [VpnEventLoop.live, count_append]
    omega
  have accepted := (sound.live inside).1
  refine sound.cancelled rfl rfl sound.quiet rfl (by omega) (fun other => ?_)
    (fun task waits => ⟨?_, ?_⟩) (queued.reverse.append_right _)
  · have := taken other
    simp only [VpnEventLoop.live, detach, map_cons, count_append, count_cons, beq_iff_eq]
    omega
  · simp only [waiting, detach, mem_append] at waits ⊢
    exact waits.imp (fun inside => (queued.map _).subset inside)
      (.imp_left fun inside => (scheduled.map _).subset inside)
  · rintro rfl
    have waiting := count_of_mem_waiting waits
    have upcoming := count_upcoming_le loop.thread task.1
    dsimp only [detach] at waiting
    simp only [VpnEventLoop.live, count_append] at one
    omega

lemma Sound.cancel (sound : Sound loop) (id : Nat) (onLoop : Bool) :
    Sound (loop.cancel id onLoop) := by
  fun_cases loop.cancel id onLoop with
  | case1 _ mem =>
    refine sound.cancelFound onLoop erase_sublist (List.Sublist.refl _) fun other => ?_
    have := count_erase mem other
    omega
  | case2 _ _ mem =>
    refine sound.cancelFound onLoop (List.Sublist.refl _) erase_sublist fun other => ?_
    have := count_erase mem other
    omega
  | case3 allowed notQueued notDeferred =>
    obtain ⟨issued, calls⟩ := Bool.and_eq_true_iff.mp allowed
    refine sound.cancelled rfl rfl sound.quiet rfl (accepts_of_issued issued) (fun _ => rfl)
      (fun task waits => ⟨waits, ?_⟩) (List.Sublist.refl _)
    rintro rfl
    refine ⟨rfl, ?_⟩
    cases onLoop with
    | false => rfl
    | true =>
      have waits : task ∈ loop.waiting := waits
      have waiting := count_of_mem_waiting waits
      rw [count_eq_zero_of_not_mem notQueued, count_eq_zero_of_not_mem notDeferred,
        upcoming_of_threadCalls (by simpa using calls)] at waiting
      simp at waiting
  | case4 => exact sound

/-! ## The thread of the loop -/

lemma takesEvent_iff :
    loop.takesEvent = true ↔
      loop.state = .running ∧ loop.thread = .idle ∧ loop.threadFree = true := by
  simp [takesEvent, and_assoc]

section

variable (sound : Sound loop)

include sound

lemma Sound.running (busy : loop.thread ≠ .idle) : loop.state = .running := by
  by_contra stopped
  exact busy (sound.quiet stopped)

lemma Sound.stays {thread : LoopThread} (state : EventLoopState) (stopping scheduled : Bool)
    (events exiting : Nat) (current : thread.current = loop.thread.current)
    (upcoming : thread.upcoming = loop.thread.upcoming)
    (quiet : state ≠ .running → thread = .idle) :
    Sound
      { loop with
        state
        stoppingExternally := stopping
        taskQueueScheduled := scheduled
        queueEvents := events
        thread
        exiting } := by
  refine sound.moved rfl rfl quiet rfl (fun id => ?_) (fun task waits => ?_) ?_
  · rw [VpnEventLoop.live, current]
    rfl
  · rw [waiting, upcoming] at waits
    exact waits
  · rw [order, upcoming]
    exact List.Sublist.refl _

lemma Sound.run : Sound loop.run := by
  fun_cases VpnEventLoop.run with
  | case1 => exact sound.stays .running _ _ _ _ rfl rfl fun stopped => absurd rfl stopped
  | case2 => exact sound

lemma Sound.startQueue : Sound loop.startQueue := by
  fun_cases startQueue with
  | case1 allowed =>
    obtain ⟨running, idle, -⟩ := takesEvent_iff.mp (Bool.and_eq_true_iff.mp allowed).1
    refine sound.stays _ _ _ _ _ ?_ ?_ fun stopped => absurd running stopped
    · rw [idle]
      rfl
    · rw [idle]
      rfl
  | case2 => exact sound

lemma Sound.nextTask : Sound loop.nextTask := by
  have idle {lastId : Int} {count : Nat} (thread : loop.thread = .queue lastId count)
      (scheduled : Bool) (events : Nat) :
      Sound { loop with
        taskQueueScheduled := scheduled, queueEvents := events, thread := .idle } := by
    refine sound.stays _ _ _ _ _ ?_ ?_ fun _ => rfl
    · rw [thread]
      rfl
    · rw [thread]
      rfl
  fun_cases nextTask with
  | case1 _ _ thread | case2 _ _ thread => exact idle thread _ _
  | case3 _ _ thread _ _ queue =>
    have running := sound.running (by simp [thread])
    refine sound.moved rfl rfl (fun stopped => absurd running stopped) rfl (fun id => ?_)
      (fun task waits => ?_) ?_
    · simp only [VpnEventLoop.live, queue, thread, current, count_append, count_cons, count_nil]
      omega
    · simp only [waiting, queue, thread, upcoming, map_cons, mem_append, mem_cons, not_mem_nil,
        or_false] at waits ⊢
      tauto
    · simp [order, queue, upcoming]
  | case4 => exact sound

lemma Sound.runDeferredTask (id : Nat) : Sound (loop.runDeferredTask id) := by
  fun_cases loop.runDeferredTask id with
  | case1 allowed =>
    rw [Bool.and_eq_true, contains_iff_mem] at allowed
    obtain ⟨takes, mem⟩ := allowed
    obtain ⟨running, idle, -⟩ := takesEvent_iff.mp takes
    refine sound.moved rfl rfl (fun stopped => absurd running stopped) rfl (fun other => ?_)
      (fun task waits => ?_) ?_
    · have := count_erase mem other
      simp only [VpnEventLoop.live, idle, current, count_append, count_cons, count_nil, beq_iff_eq]
      omega
    · simp only [waiting, idle, upcoming, mem_append, mem_map, mem_singleton, not_mem_nil,
        or_false] at waits ⊢
      rcases waits with queued | ⟨other, inside, same⟩ | rfl
      · exact .inl queued
      · exact .inr ⟨other, mem_of_mem_erase inside, same⟩
      · exact .inr ⟨id, mem, rfl⟩
    · simp [order, upcoming]
  | case2 => exact sound

lemma Sound.startAction : Sound loop.startAction := by
  fun_cases startAction with
  | case1 id kind _ thread =>
    have running := sound.running (by simp [thread])
    have one := sound.count_live_le_one id
    simp only [VpnEventLoop.live, thread, current, count_append, count_cons_self, count_nil] at one
    have waits : (id, kind) ∈ loop.waiting := by simp [waiting, thread, upcoming]
    refine sound.noted rfl rfl (fun stopped => absurd running stopped) rfl
      (sound.startable _ waits) (fun _ => accepts_started) (fun other => ?_)
      (fun task waits => ⟨?_, fun same => ?_⟩) ?_
    · simp [VpnEventLoop.live, thread, current]
    · simp only [waiting, upcoming, append_nil, mem_append] at waits ⊢
      tauto
    · have waiting := count_of_mem_waiting waits
      simp only [upcoming, map_nil, count_nil, ← same] at waiting
      omega
    · have inOrder := sound.inOrder
      simp only [order, thread, upcoming] at inOrder ⊢
      cases kind with
      | submitted | scheduled => simpa [starts, submissions] using inOrder
  | case2 => exact sound

lemma Sound.endAction : Sound loop.endAction := by
  fun_cases endAction with
  | case1 _ _ thread =>
    have running := sound.running (by simp [thread])
    refine sound.finalized rfl (fun other => ?_) ?_ ?_ rfl rfl fun stopped => absurd running stopped
    · simp only [VpnEventLoop.live, thread, current, count_append, count_cons, count_nil,
        beq_iff_eq]
      omega
    · simp [waiting, thread, upcoming]
    · simp [order, thread, upcoming]
  | case2 | case3 => exact sound

lemma Sound.endFinalizer : Sound loop.endFinalizer := by
  fun_cases endFinalizer with
  | case1 resume thread =>
    have running := sound.running (by simp [thread])
    refine sound.stays _ _ _ _ _ ?_ ?_ fun stopped => absurd running stopped
    · rw [thread]
      cases resume <;> rfl
    · rw [thread]
      cases resume <;> rfl
  | case2 | case3 => exact sound

lemma Sound.endRun : Sound loop.endRun := by
  fun_cases endRun with
  | case1 takes =>
    obtain ⟨-, idle, -⟩ := takesEvent_iff.mp takes
    exact sound.stays _ _ _ _ _ rfl rfl fun _ => idle
  | case2 => exact sound

end

/-!
## What becomes of the tasks of an event loop

In every interleaving the action of a task is started at most once, before its finalizer and not
after a cancel, and submitted tasks are started in their order. When an exit is done, all tasks
so far are finalized, except for those that a call of another thread has taken out of the loop
and has not finalized yet.
-/

open Transition

/-- An exit is done when no call has yet to run a finalizer. -/
def ExitsLast (loop : VpnEventLoop) (step : Step) : Prop :=
  step = .finishExit → loop.exitWaited = true → loop.detached = []

/-! ## Exit -/

lemma Sound.finalizeExit (sound : Sound loop) : Sound loop.finalizeExit :=
  sound.stays _ true _ _ _ rfl rfl sound.quiet

lemma Sound.idle_of_exitWaited (sound : Sound loop) (waited : loop.exitWaited = true) :
    loop.thread = .idle := by
  rw [exitWaited, Bool.and_eq_true, decide_eq_true_eq, decide_eq_true_eq] at waited
  exact sound.quiet waited.2

lemma Sound.finishExit (sound : Sound loop) : Sound loop.finishExit := by
  rw [VpnEventLoop.finishExit]
  split
  case isFalse => exact sound
  case isTrue waited =>
    have idle := sound.idle_of_exitWaited waited
    have split (id : Nat) : loop.live.count id =
        loop.queuedTasks.count id + (loop.detached.map Prod.fst).count id := by
      simp only [VpnEventLoop.live, queuedTasks, idle, LoopThread.current, count_append, count_nil]
      omega
    have nodup : loop.queuedTasks.Nodup := by
      rw [nodup_iff_count]
      intro id
      have := sound.count_live_le_one id
      have := split id
      omega
    have each : ∀ id ∈ loop.queuedTasks, accepts loop.log id = 1 ∧ .finalized id ∉ loop.log := by
      intro id mem
      apply sound.live
      have := count_pos_iff.mpr mem
      have := split id
      exact count_pos_iff.mp (by omega)
    exact
      { orderly := ⟨trivial, sound.orderly.finalizeAll nodup each⟩
        conserved := by
          intro id
          have := sound.conserved id
          have := split id
          rw [accepts_cons, accepts_exited, accepts_finalizeAll,
            count_cons_of_ne Entry.noConfusion, count_finalizeAll]
          simp only [VpnEventLoop.live, idle, LoopThread.current, nil_append]
          omega
        once := by
          intro id
          rw [accepts_cons, accepts_finalizeAll]
          exact sound.once id
        startable := by simp [waiting, idle, LoopThread.upcoming]
        inOrder := by
          rw [starts_exited, submissions_exited, starts_finalizeAll, submissions_finalizeAll]
          simp only [order, idle, LoopThread.upcoming]
          exact (sublist_append_right _ _).trans sound.inOrder
        fresh := by
          intro id unused
          rw [accepts_cons, accepts_exited, accepts_finalizeAll]
          exact sound.fresh id unused
        reserved := sound.reserved
        taken := sound.taken
        quiet := fun _ => idle }

/-- An exit is complete exactly when no call has yet to run a finalizer. -/
lemma complete_finishExit (sound : Sound loop) (complete : Complete loop.log)
    (waited : loop.exitWaited = true) : Complete loop.finishExit.log ↔ loop.detached = [] := by
  have after := sound.finishExit
  rw [finishExit, if_pos waited] at after ⊢
  generalize finalized : finalizeAll _ _ = log at after ⊢
  have conserved (id : Nat) :
      (loop.detached.map Prod.fst).count id + log.count (.finalized id) = accepts log id := by
    have conserved := after.conserved id
    rw [accepts_cons, accepts_exited, Nat.add_zero, count_cons_of_ne Entry.noConfusion] at conserved
    simpa only [live, sound.idle_of_exitWaited waited, LoopThread.current,
      nil_append] using conserved
  have once (id : Nat) : accepts log id ≤ 1 := by
    have once := after.once id
    rwa [accepts_cons, accepts_exited] at once
  have before : Complete log := by
    rw [← finalized, complete_finalizeAll]
    exact complete
  rw [Complete, and_iff_left before]
  constructor
  · intro exits
    rw [eq_nil_iff_forall_not_mem]
    intro task mem
    have counted : 0 < (loop.detached.map Prod.fst).count task.1 :=
      count_pos_iff.mpr (mem_map_of_mem mem)
    have := conserved task.1
    have := once task.1
    have := exits rfl task.1 (by omega)
    omega
  · intro none _ id accepted
    have conserved := conserved id
    have := once id
    rw [none, map_nil, count_nil] at conserved
    omega

/-! ## Runs -/

lemma Sound.next (sound : Sound loop) (step : Step) : Sound (loop.next step) := by
  cases step with
  | skipId => exact sound.skipId
  | submit => exact sound.submit
  | reserveId => exact sound.reserveId
  | schedule id => exact sound.schedule id
  | cancel id onLoop => exact sound.cancel id onLoop
  | finalizeDetached task => exact sound.finalizeDetached task
  | run => exact sound.run
  | startQueue => exact sound.startQueue
  | nextTask => exact sound.nextTask
  | runDeferredTask id => exact sound.runDeferredTask id
  | startAction => exact sound.startAction
  | endAction => exact sound.endAction
  | endFinalizer => exact sound.endFinalizer
  | endRun => exact sound.endRun
  | finalizeExit => exact sound.finalizeExit
  | finishExit => exact sound.finishExit

lemma sound_create (nextTaskId : Nat) : Sound (.create nextTaskId) where
  orderly := trivial
  conserved _ := rfl
  once _ := Nat.zero_le 1
  startable _ mem := absurd mem not_mem_nil
  inOrder := List.Sublist.refl _
  fresh _ _ := rfl
  reserved := nodup_nil
  taken _ mem := absurd mem not_mem_nil
  quiet _ := rfl

/-- A step that is not the end of an exit writes at most one entry. -/
lemma log_next (different : step ≠ .finishExit) :
    (loop.next step).log = loop.log ∨
      ∃ entry, entry ≠ .exited ∧ (loop.next step).log = entry :: loop.log := by
  cases step with
  | finishExit => exact absurd rfl different
  | submit =>
    refine .inr ⟨.accepted loop.nextTaskId .submitted, Entry.noConfusion, ?_⟩
    rw [VpnEventLoop.next, submit]
    split
    · rfl
    all_goals
      rw [enqueue]
      split <;> rfl
  | schedule | cancel | finalizeDetached | startAction | endAction =>
    simp only [VpnEventLoop.next, schedule, cancel, finalizeDetached, startAction, endAction]
    repeat' split
    all_goals first | exact .inl rfl | exact .inr ⟨_, Entry.noConfusion, rfl⟩
  | run | startQueue | nextTask | runDeferredTask | endFinalizer | endRun =>
    left
    simp only [VpnEventLoop.next, run, startQueue, nextTask, runDeferredTask, endFinalizer, endRun]
    repeat' split
    all_goals rfl
  | skipId | reserveId | finalizeExit => exact .inl rfl

/-- Only the end of an exit can leave a log incomplete. -/
lemma complete_next (sound : Sound loop) (complete : Complete loop.log) :
    Complete (loop.next step).log ↔ ExitsLast loop step := by
  by_cases exit : step = .finishExit
  · subst exit
    by_cases waited : loop.exitWaited = true
    · rw [VpnEventLoop.next, complete_finishExit sound complete waited]
      simp [ExitsLast, waited]
    · rw [VpnEventLoop.next, finishExit, if_neg waited]
      exact iff_of_true complete fun _ now => absurd now waited
  · refine iff_of_true ?_ fun now => absurd now exit
    rcases log_next exit with same | ⟨entry, notExited, same⟩
    · rw [same]
      exact complete
    · rw [same]
      exact ⟨fun exited => absurd exited notExited, complete⟩

/-- The log is correct along exactly the runs in which each exit is done when no call has yet to
run a finalizer. -/
theorem correct_run_iff (nextTaskId : Nat) (steps : List Step) :
    Always VpnEventLoop.next (fun loop => Correct loop.log) (.create nextTaskId) steps ↔
      EachStep VpnEventLoop.next ExitsLast (.create nextTaskId) steps := by
  have sound : Always VpnEventLoop.next Sound (.create nextTaskId) steps :=
    .of_invariant Sound (fun sound _ => sound.next _) (fun sound => sound)
      (sound_create nextTaskId) (eachStep_true _ _)
  have exactly {loop : VpnEventLoop} {step : Step} (before : Sound loop ∧ Complete loop.log) :
      Sound (loop.next step) ∧ Complete (loop.next step).log ↔ ExitsLast loop step := by
    rw [and_iff_right (before.1.next step)]
    exact complete_next before.1 before.2
  have runs : Always VpnEventLoop.next (fun loop => Sound loop ∧ Complete loop.log)
      (.create nextTaskId) steps ↔ EachStep VpnEventLoop.next ExitsLast (.create nextTaskId) steps :=
    always_iff_eachStep exactly ⟨sound_create nextTaskId, trivial⟩ steps
  rw [← runs]
  constructor
  · intro correct
    exact (sound.and correct).imp fun loop both => ⟨both.1, both.2.complete⟩
  · intro both
    refine both.imp fun loop both => ⟨both.1.orderly, both.2, ?_⟩
    exact (sublist_append_right _ _).trans both.1.inOrder

/-- Whatever the threads do, a task that was accepted is in exactly one place, or it was
finalized once. -/
theorem placed_run (nextTaskId : Nat) (steps : List Step) :
    Always VpnEventLoop.next (fun loop => ∀ id, accepts loop.log id ≤ 1 ∧
        loop.live.count id + loop.log.count (.finalized id) = accepts loop.log id)
      (.create nextTaskId) steps :=
  .of_invariant Sound (fun sound _ => sound.next _)
    (fun sound id => ⟨sound.once id, sound.conserved id⟩)
    (sound_create nextTaskId) (eachStep_true _ _)

/-- A call of another thread has taken a task out of the loop and finalizes it when the exit is
done. -/
def cancelDuringExit : List Step :=
  [.submit, .cancel 0 false, .finalizeExit, .finishExit, .finalizeDetached (0, false)]

theorem not_correct_cancelDuringExit :
    (cancelDuringExit.foldl VpnEventLoop.next (.create 0)).log =
      [.finalized 0, .exited, .cancelled 0 true false, .accepted 0 .submitted] ∧
    ¬Always VpnEventLoop.next (fun loop => Correct loop.log) (.create 0) cancelDuringExit := by
  have log : (cancelDuringExit.foldl VpnEventLoop.next (.create 0)).log =
      [.finalized 0, .exited, .cancelled 0 true false, .accepted 0 .submitted] := by decide
  refine ⟨log, fun always => ?_⟩
  have complete := always.last.complete
  exact absurd (complete.2.1 rfl 0 (by decide)) (by decide)

end TrustTunnel.Client.EventLoop
