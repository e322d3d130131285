import StreamingLib.Rtp.SenderActivity
import StreamingLib.Rtsp.Server.Workers

/-!
# Deadlock

A worker that deletes the session of a running sender waits for a handler, with the mutex. If all
other workers wait for the mutex, no one is left to run the handler.
-/

namespace Rtsp

open Rtp Transition

/-- A worker waits in the destructor of a sender, all others are blocked on the mutex, and the
handler that would clear `running_` is queued. -/
def Threads.Stuck (s : Threads) : Prop :=
  ∃ (w : ℕ) (sender : Sender) (next : Option Address),
    s.workers[w]? = some (.destroying sender next) ∧ sender.running = true ∧
    sender.timer.aborted ≠ 0 ∧
    ∀ (w' : ℕ) (worker : Worker), w' ≠ w → s.workers[w']? = some worker →
      ∃ task, worker = .locking task

/-! ### Runs that delete stopped senders only -/

lemma stopDispatched_running (s : Sender) : (Threads.stopDispatched s).running = s.running := by
  unfold Threads.stopDispatched Sender.stop
  split_ifs <;> rfl

/-- A queued handler does not start a sender. -/
lemma step_not_running {s s' : Sender} {event : SenderEvent} (hqueued : isQueued event = true)
    (hrun : s.running = false) (hstep : s.step event = some s') : s'.running = false := by
  cases event with
  | start => cases hqueued
  | stop => cases hqueued
  | strand =>
    rcases hs : s.strand with - | ⟨c, cs⟩ <;> simp only [Sender.step, hs] at hstep
    · cases hstep
    · cases hstep
      exact hrun
  | expire =>
    simp only [Sender.step] at hstep
    split_ifs at hstep
    cases hstep
    exact hrun
  | handler dropMedia dropFec =>
    simp only [Sender.step] at hstep
    split_ifs at hstep
    cases hstep
    cases (sendNextPacketHandler_exit s.handled dropMedia dropFec).1 with
    | ended _ hrun' _ => exact hrun'
    | rearmed _ hrun' _ => exact hrun'.trans hrun
    | threw _ hrun' _ => exact hrun'.trans hrun
  | abortedHandler =>
    simp only [Sender.step] at hstep
    split_ifs at hstep
    cases hstep
    rfl

lemma Threads.after_of_mem {s : Threads} {w : ℕ} {turn : ServerState × Option Sender}
    {sender : Sender} (h : sender ∈ turn.2) (next : Option Address) :
    s.after w turn next =
      ⟨turn.1, s.workers.set w (.destroying (stopDispatched sender) next), s.queue⟩ := by
  rcases turn with ⟨server, deleted⟩
  cases h
  rfl

/-- No worker waits in a destructor. -/
def Threads.Unblocked (s : Threads) : Prop :=
  ∀ sender next, Worker.destroying sender next ∈ s.workers → sender.running = false

lemma Threads.Unblocked.set {s : Threads} (h : s.Unblocked) (w : ℕ) {worker : Worker}
    (hworker : ∀ sender next, worker = .destroying sender next → sender.running = false)
    (server : ServerState) (queue : List ServerTask) :
    Threads.Unblocked ⟨server, s.workers.set w worker, queue⟩ := by
  intro sender next hmem
  rcases List.mem_or_eq_of_mem_set hmem with hmem | heq
  · exact h sender next hmem
  · exact hworker sender next heq.symm

lemma Threads.Unblocked.after {s : Threads} (h : s.Unblocked) (w : ℕ)
    {turn : ServerState × Option Sender} (hturn : ∀ sender ∈ turn.2, sender.running = false)
    (next : Option Address) : (s.after w turn next).Unblocked := by
  refine h.set w ?_ turn.1 s.queue
  rcases turn with ⟨server, - | deleted⟩
  · cases next <;> exact fun _ _ heq => by cases heq
  · rintro _ _ ⟨rfl, rfl⟩
    exact (stopDispatched_running deleted).trans (hturn deleted rfl)

lemma Threads.Unblocked.step {env : Environment} {s s' : Threads} {event : ThreadEvent}
    (h : s.Unblocked) (hok : s.DeletesStopped event) (hstep : s.step env event = some s') :
    s'.Unblocked := by
  cases Step.of_step hstep with
  | arrive task => exact h
  | block hidle hlocks => exact h.set _ (fun _ _ heq => by cases heq) _ _
  | answer hidle hlocks => exact h
  | request hworker hfree =>
    simp only [Threads.DeletesStopped, Threads.deletedSession, hworker] at hok
    refine h.after _ ?_ none
    intro sender hsender
    obtain ⟨identifier, hidentifier, hsender⟩ := Option.mem_bind_iff.mp hsender
    obtain ⟨session, hsession, hsender⟩ := mem_erasedSender hsender
    exact hok identifier hidentifier session hsession sender hsender
  | timeout hworker hfree => exact h.set _ (fun _ _ heq => by cases heq) _ _
  | turned hworker hentry =>
    simp only [Threads.DeletesStopped, Threads.deletedSession, hworker] at hok
    refine h.after _ ?_ _
    intro sender hsender
    obtain ⟨session, hsession, hsender⟩ := mem_erasedSender hsender
    exact hok _ (by rw [hentry]; rfl) session hsession sender hsender
  | returned hworker hnone => exact h.set _ (fun _ _ heq => by cases heq) _ _
  | finish hworker hrun => exact h.after _ (fun _ hmem => by cases hmem) _
  | sender hcan hserver => exact h
  | destroyed hcan howner hsender =>
    refine h.set _ ?_ _ _
    rintro _ _ ⟨rfl, rfl⟩
    exact step_not_running hcan.1 (h _ _ (List.mem_of_getElem? howner)) hsender

/-! ### Stuck states -/

/-- A worker waits in the destructor of a running sender and all others are blocked on the
mutex. -/
structure Threads.Jammed (s : Threads) (w : ℕ) (sender : Sender) (next : Option Address) :
    Prop where
  worker : s.workers[w]? = some (.destroying sender next)
  running : sender.running = true
  others : ∀ (v : ℕ) (worker : Worker), v ≠ w → s.workers[v]? = some worker →
    ∃ task, worker = .locking task

/-- The time may go on for the sender, but nothing else happens. -/
lemma Threads.Jammed.step {env : Environment} {s s' : Threads} {w : ℕ} {sender : Sender}
    {next : Option Address} (h : s.Jammed w sender next) {event : ThreadEvent}
    (hstep : s.step env event = some s') :
    ∃ sender', s'.Jammed w sender' next ∧
      (sender.timer.aborted ≠ 0 → sender'.timer.aborted ≠ 0) := by
  obtain ⟨hworker, hrun, hothers⟩ := h
  have hlocked : ¬s.MutexFree := fun hfree => by
    cases hfree _ (List.mem_of_getElem? hworker)
  have hcases : ∀ v worker, s.workers[v]? = some worker →
      v = w ∧ worker = .destroying sender next ∨ ∃ task, worker = .locking task := by
    intro v worker hv
    by_cases hvw : v = w
    · subst hvw
      exact Or.inl ⟨rfl, Option.some.inj (hv.symm.trans hworker)⟩
    · exact Or.inr (hothers v worker hvw hv)
  have hidle : ∀ v : ℕ, s.workers[v]? ≠ some Worker.idle := by
    intro v hv
    rcases hcases v _ hv with ⟨-, h⟩ | ⟨task, h⟩ <;> cases h
  cases Step.of_step hstep with
  | arrive task => exact ⟨sender, ⟨hworker, hrun, hothers⟩, id⟩
  | block hv hlocks => exact absurd hv (hidle _)
  | answer hv hlocks => exact absurd hv (hidle _)
  | request hv hfree => exact absurd hfree hlocked
  | timeout hv hfree => exact absurd hfree hlocked
  | turned hv hentry => rcases hcases _ _ hv with ⟨-, h⟩ | ⟨task, h⟩ <;> cases h
  | returned hv hnone => rcases hcases _ _ hv with ⟨-, h⟩ | ⟨task, h⟩ <;> cases h
  | finish hv hstopped =>
    rcases hcases _ _ hv with ⟨-, h⟩ | ⟨task, h⟩
    · cases h
      rw [hrun] at hstopped
      cases hstopped
    · cases h
  | sender hcan hserver => exact ⟨sender, ⟨hworker, hrun, hothers⟩, id⟩
  | destroyed hcan howner hsender =>
    -- no worker is idle, so only the time of the sender can go on
    obtain rfl := hcan.2.resolve_left (hidle _)
    rcases hcases _ _ howner with ⟨rfl, h⟩ | ⟨task, h⟩
    · cases h
      simp only [Sender.step] at hsender
      split_ifs at hsender
      cases hsender
      refine ⟨_, ⟨List.getElem?_set_self ?_, hrun, ?_⟩, id⟩
      · exact (List.getElem?_eq_some_iff.mp hworker).1
      · intro v worker hne hv
        rw [List.getElem?_set_ne hne.symm] at hv
        exact hothers v worker hne hv
    · cases h

/-- A stuck server stays stuck, whatever arrives. -/
theorem Threads.Stuck.step {env : Environment} {s s' : Threads} {event : ThreadEvent}
    (h : s.Stuck) (hstep : s.step env event = some s') : s'.Stuck := by
  obtain ⟨w, sender, next, hworker, hrun, haborted, hothers⟩ := h
  obtain ⟨sender', ⟨hworker, hrun, hothers⟩, hkept⟩ :=
    Threads.Jammed.step ⟨hworker, hrun, hothers⟩ hstep
  exact ⟨w, sender', next, hworker, hrun, hkept haborted, hothers⟩

section Run

variable {env : Environment} {n : ℕ} {server : ServerState}

/-- An idle worker can take a request that locks the mutex. -/
lemma reachable_take (before : List Worker) {after : List Worker}
    (hs : (threadSystem env n).Reachable Always
      ⟨server, before ++ .idle :: after, []⟩) {task : ServerTask} (htask : task.Locks) :
    (threadSystem env n).Reachable Always ⟨server, before ++ .locking task :: after, []⟩ := by
  have harrived := System.Reachable.step (e := .arrive task) hs trivial rfl
  refine System.Reachable.step (e := .take before.length task) harrived trivial ?_
  simp [threadSystem, Threads.step, htask]

/-- All idle workers can be blocked. -/
lemma reachable_block (before : List Worker) {k : ℕ} (hs : (threadSystem env n).Reachable Always
      ⟨server, before ++ List.replicate k .idle, []⟩) {task : ServerTask} (htask : task.Locks) :
    (threadSystem env n).Reachable Always
      ⟨server, before ++ List.replicate k (.locking task), []⟩ := by
  induction k generalizing before with
  | zero => exact hs
  | succ k ih =>
    have htaken := reachable_take before (List.replicate_succ ▸ hs) htask
    rw [List.append_cons] at htaken
    rw [List.replicate_succ, List.append_cons]
    exact ih _ htaken

/-- The first worker can serve a request that locks the mutex while the others are idle. -/
lemma reachable_request {k : ℕ} (hs : (threadSystem env n).Reachable Always
      ⟨server, List.replicate (k + 1) .idle, []⟩) (draws : Draws) {request : Request}
    (requester : Address) (hlocks : LocksSessions request) :
    (threadSystem env n).Reachable Always
      (Threads.after ⟨server, List.replicate (k + 1) .idle, []⟩ 0
        (Threads.requestTurn env server draws request requester) none) := by
  have htaken : (threadSystem env n).Reachable Always
      ⟨server, .locking (.request draws request requester) :: List.replicate k .idle, []⟩ :=
    reachable_take [] hs hlocks
  refine System.Reachable.step (e := .lock 0) htaken trivial ?_
  have hfree : Threads.MutexFree ⟨server, .locking (.request draws request requester) ::
      List.replicate k .idle, []⟩ := by
    intro worker hworker
    rcases List.mem_cons.mp hworker with rfl | hworker
    · rfl
    · rw [List.eq_of_mem_replicate hworker]
      rfl
  exact if_pos hfree

/-- What deletes no session of the server. -/
def ServerEvent.Keeps : ServerEvent → Prop
  | .request _ message _ => tornDown message = none
  | .timeout _ => False
  | .sender _ _ => True

instance : (event : ServerEvent) → Decidable event.Keeps
  | .request _ message _ => inferInstanceAs (Decidable (tornDown message = none))
  | .timeout _ => isFalse id
  | .sender _ _ => isTrue trivial

/-- Any number of workers can do what the server does, as long as no session is deleted. -/
theorem reachable_serve {k : ℕ} (hs : (threadSystem env n).Reachable Always
      ⟨server, List.replicate (k + 1) .idle, []⟩) {events : List ServerEvent}
    (hkeeps : ∀ event ∈ events, event.Keeps) {server' : ServerState}
    (hrun : (serverSystem env).run server events = some server') :
    (threadSystem env n).Reachable Always ⟨server', List.replicate (k + 1) .idle, []⟩ := by
  induction events generalizing server with
  | nil =>
    cases hrun
    exact hs
  | cons event events ih =>
    obtain ⟨server₁, hstep, hrun⟩ := Option.bind_eq_some_iff.mp hrun
    refine ih ?_ (fun event h => hkeeps event (List.mem_cons_of_mem _ h)) hrun
    have hkept := hkeeps event List.mem_cons_self
    cases event with
    | request draws request requester =>
      cases hstep
      by_cases hlocks : LocksSessions request
      · have hserved := reachable_request hs draws requester hlocks
        rwa [Threads.requestTurn, show tornDown request = none from hkept] at hserved
      · rw [handleIncomingRequest_of_not_locks env server draws request requester hlocks]
        exact hs
    | timeout host => cases hkept
    | sender identifier event =>
      refine System.Reachable.step (e := .sender 0 identifier event) hs trivial ?_
      have hqueued : isQueued event = true := by
        obtain ⟨session, -, hsender⟩ := Option.bind_eq_some_iff.mp hstep
        obtain ⟨session', hsender, -⟩ := Option.map_eq_some_iff.mp hsender
        unfold ServerSession.stepSender at hsender
        split_ifs at hsender with hqueued
        exact hqueued
      have hcan : Threads.CanRun ⟨server, List.replicate (k + 1) .idle, []⟩ 0 event :=
        ⟨hqueued, Or.inl rfl⟩
      simp only [threadSystem, Threads.step]
      rw [if_pos hcan, show server.step env (.sender identifier event) = some server₁ from hstep]
      rfl

end Run

/-! ### Deadlock -/

/-- SETUP and TEARDOWN, one after the other. -/
def teardownEvents : List ThreadEvent := [
  .arrive (.request { identifier := str "a" } setupMovie default),
  .take 0 (.request { identifier := str "a" } setupMovie default), .lock 0,
  .arrive (.request {} teardownMovie default),
  .take 0 (.request {} teardownMovie default), .lock 0]

/-- In every run that deletes only sessions whose sender has stopped, with any number of worker
threads, no worker waits in a destructor while the others wait for the mutex. -/
theorem no_deadlock (env : Environment) (n : ℕ) {s : Threads}
    (hs : (threadSystem env n).Reachable Threads.DeletesStopped s) : ¬s.Stuck := by
  have hunblocked : s.Unblocked := by
    apply hs.invariant
    · rintro _ rfl sender next hmem
      cases List.eq_of_mem_replicate hmem
    · intro s event s' h hok hstep
      exact h.step hok hstep
  rintro ⟨w, sender, next, hworker, hrun, -, -⟩
  rw [hunblocked sender next (List.mem_of_getElem? hworker)] at hrun
  cases hrun


/-- A session that has not played is torn down by the only worker. -/
theorem no_deadlock_teardown :
    ∃ s ∈ (threadSystem emptyRoot 1).run ⟨{}, [.idle], []⟩ teardownEvents,
      (∃ worker ∈ s.workers, worker.holdsMutex = true) ∧ ¬s.Stuck := by
  obtain ⟨s, hrun, hmeets, hdestroying⟩ :
      ∃ s ∈ (threadSystem emptyRoot 1).run ⟨{}, [.idle], []⟩ teardownEvents,
        (threadSystem emptyRoot 1).Meets Threads.DeletesStopped ⟨{}, [.idle], []⟩ teardownEvents ∧
        ∃ worker ∈ s.workers, worker.holdsMutex = true := by
    decide
  have hreach : (threadSystem emptyRoot 1).Reachable Threads.DeletesStopped s :=
    System.Reachable.run (.init rfl) hmeets hrun
  exact ⟨s, hrun, hdestroying, no_deadlock emptyRoot 1 hreach⟩

/-- With any number of workers, TEARDOWN of a session that plays can leave its worker in the
destructor of the sender while the others wait for the mutex. -/
theorem stuck_reachable {n : ℕ} (hn : 0 < n) :
    ∃ s, (threadSystem emptyRoot n).Reachable Always s ∧ s.Stuck := by
  obtain ⟨k, rfl⟩ := Nat.exists_eq_add_of_lt hn
  rw [Nat.zero_add]
  obtain ⟨server, hrun, sender, hdeleted, hrunning, haborted⟩ :
      ∃ server ∈ (serverSystem emptyRoot).run {}
          [.request { identifier := str "a" } setupMovie default, .request {} playMovie default,
            .sender (str "a") .strand],
        ∃ sender ∈ (Threads.requestTurn emptyRoot server {} teardownMovie default).2,
          (Threads.stopDispatched sender).running = true ∧
            (Threads.stopDispatched sender).timer.aborted ≠ 0 := by
    decide
  have hplaying : (threadSystem emptyRoot (k + 1)).Reachable Always
      ⟨server, List.replicate (k + 1) .idle, []⟩ :=
    reachable_serve (.init rfl) (by decide) hrun
  have hstopping := reachable_request hplaying {} default
    (show LocksSessions teardownMovie by decide)
  rw [Threads.after_of_mem hdeleted, List.replicate_succ, List.set_cons_zero] at hstopping
  have hlocks : (ServerTask.timeout default).Locks := trivial
  have hblocked := reachable_block [.destroying (Threads.stopDispatched sender) none] hstopping
    hlocks
  refine ⟨_, hblocked, 0, _, none, rfl, hrunning, haborted, ?_⟩
  intro w worker hw hworker
  obtain ⟨w, rfl⟩ := Nat.exists_eq_succ_of_ne_zero hw
  exact ⟨_, List.eq_of_mem_replicate (List.mem_of_getElem? hworker)⟩

/-- TEARDOWN of a session that plays, handled by the only worker, is a deadlock. -/
theorem deadlock_reachable :
    ¬∀ (env : Environment) (n : ℕ) (s : Threads), 0 < n →
      (threadSystem env n).Reachable Always s → ¬s.Stuck := by
  intro h
  obtain ⟨s, hreach, hstuck⟩ := stuck_reachable Nat.one_pos
  exact h emptyRoot 1 s Nat.one_pos hreach hstuck

end Rtsp
