import StreamingLib.Rtsp.Server.State

/-!
# Worker threads

The threads of `rtsp_server` run the handlers of one `io_context`. Requests and timeouts lock
`sessions_mutex_`; whoever deletes a session runs the destructor of its sender while it holds the
mutex, and that destructor waits for `running_` to be cleared by a handler.
-/

namespace Rtsp

open Rtp Transition

/-- The handlers that arrive at the server. -/
inductive ServerTask
  | request (draws : Draws) (request : Request) (requester : Address)
  | timeout (host : Address)
deriving DecidableEq

/-- Whether `handle_incoming_request` gets to a branch that locks the mutex. -/
def LocksSessions (request : Request) : Prop :=
  ((normalizeHeaders request.headers).lookup (str "cseq")).getD [] ≠ [] ∧
    (request.methodOrExtension = str "SETUP" ∧
        (normalizeHeaders request.headers).lookup (str "session") = none ∨
      request.methodOrExtension ∈ [str "TEARDOWN", str "PLAY", str "PAUSE"] ∧
        (normalizeHeaders request.headers).lookup (str "session") ≠ none)

instance (request : Request) : Decidable (LocksSessions request) :=
  inferInstanceAs (Decidable (_ ∧ (_ ∧ _ ∨ _ ∧ _)))

/-- The session that `handle_incoming_request` deletes if it is live. -/
def tornDown (request : Request) : Option Text :=
  if ((normalizeHeaders request.headers).lookup (str "cseq")).getD [] ≠ [] ∧
      request.methodOrExtension = str "TEARDOWN" then
    (normalizeHeaders request.headers).lookup (str "session")
  else none

def ServerTask.Locks : ServerTask → Prop
  | .request _ message _ => LocksSessions message
  | .timeout _ => True

instance : (task : ServerTask) → Decidable task.Locks
  | .request _ message _ => inferInstanceAs (Decidable (LocksSessions message))
  | .timeout _ => isTrue trivial

inductive Worker
  | idle
  /-- Blocked on the mutex. -/
  | locking (task : ServerTask)
  /-- In the loop of `handle_timeout_of_host`, with the mutex. -/
  | timingOut (host : Address)
  /-- In the destructor of a sender, with the mutex; then back in the loop for a host, if any. -/
  | destroying (sender : Sender) (next : Option Address)
deriving DecidableEq

def Worker.holdsMutex : Worker → Bool
  | .timingOut _ | .destroying _ _ => true
  | .idle | .locking _ => false

structure Threads where
  server : ServerState
  workers : List Worker
  queue : List ServerTask := []

namespace Threads

def MutexFree (s : Threads) : Prop := ∀ worker ∈ s.workers, worker.holdsMutex = false

instance (s : Threads) : Decidable s.MutexFree := inferInstanceAs (Decidable (∀ _ ∈ _, _))

/-- `stop` on a worker: `dispatch` runs the closure at once if the strand is not in use. -/
def stopDispatched (s : Sender) : Sender :=
  if s.running = true ∧ s.strand = [] then { s with timer := s.timer.cancel } else s.stop

/-- The sender of a session that was live before and is not any more. -/
def erasedSender (before after : ServerState) (identifier : Text) : Option Sender :=
  match after.sessions.lookup identifier with
  | some _ => none
  | none => (before.sessions.lookup identifier).bind (·.rtpSession)

/-- The server after one turn of the loop for a host, and the sender that the turn deletes. -/
def timeoutTurn (server : ServerState) (entry : Address × Text) : ServerState × Option Sender :=
  let server' := { server.deleteSession entry.2 with
    sessionsByHost := server.sessionsByHost.erase entry }
  (server', erasedSender server server' entry.2)

/-- The server after a request, and the sender that the request deletes. -/
def requestTurn (env : Environment) (server : ServerState) (draws : Draws) (request : Request)
    (requester : Address) : ServerState × Option Sender :=
  let server' := (server.handleIncomingRequest env draws request requester).1
  (server', (tornDown request).bind (erasedSender server server'))

/-- A worker goes on after a turn, by the destructor of a sender if the turn has deleted one. -/
def after (s : Threads) (w : ℕ) (turn : ServerState × Option Sender) (next : Option Address) :
    Threads :=
  { s with
    server := turn.1
    workers := s.workers.set w <|
      match turn.2, next with
      | some sender, next => .destroying (stopDispatched sender) next
      | none, some host => .timingOut host
      | none, none => .idle }

end Threads

inductive ThreadEvent
  | arrive (task : ServerTask)
  /-- An idle worker takes a queued handler, in any order. -/
  | take (worker : ℕ) (task : ServerTask)
  /-- A worker gets the mutex. -/
  | lock (worker : ℕ)
  /-- One turn of the loop of `handle_timeout_of_host`. -/
  | turn (worker : ℕ)
  /-- A destructor finds `running_` cleared. -/
  | finish (worker : ℕ)
  /-- An idle worker runs a queued handler of the sender of a live session. -/
  | sender (worker : ℕ) (identifier : Text) (event : SenderEvent)
  /-- An idle worker runs a queued handler of the sender in the destructor of another worker. -/
  | destroyed (worker owner : ℕ) (event : SenderEvent)

namespace Threads

/-- Handlers need an idle worker, the passing of time does not. -/
def CanRun (s : Threads) (w : ℕ) (event : SenderEvent) : Prop :=
  isQueued event = true ∧ (s.workers[w]? = some .idle ∨ event = .expire)

instance (s : Threads) (w : ℕ) (event : SenderEvent) : Decidable (s.CanRun w event) :=
  inferInstanceAs (Decidable (_ ∧ (_ ∨ _)))

def step (env : Environment) (s : Threads) : ThreadEvent → Option Threads
  | .arrive task => some { s with queue := s.queue ++ [task] }
  | .take w task =>
    if s.workers[w]? = some .idle ∧ task ∈ s.queue then
      -- without the mutex nothing but the response comes of a request
      some { s with
        queue := s.queue.erase task
        workers := if task.Locks then s.workers.set w (.locking task) else s.workers }
    else none
  | .lock w =>
    match s.workers[w]? with
    | some (.locking task) =>
      if s.MutexFree then
        match task with
        | .request draws request requester =>
          some (s.after w (requestTurn env s.server draws request requester) none)
        | .timeout host => some { s with workers := s.workers.set w (.timingOut host) }
      else none
    | _ => none
  | .turn w =>
    match s.workers[w]? with
    | some (.timingOut host) =>
      match s.server.sessionsByHost.find? (·.1 = host) with
      | none => some { s with workers := s.workers.set w .idle }
      | some entry => some (s.after w (timeoutTurn s.server entry) (some host))
    | _ => none
  | .finish w =>
    match s.workers[w]? with
    | some (.destroying sender next) =>
      if sender.running then none else some (s.after w (s.server, none) next)
    | _ => none
  | .sender w identifier event =>
    if s.CanRun w event then
      (s.server.step env (.sender identifier event)).map fun server => { s with server := server }
    else none
  | .destroyed w owner event =>
    if s.CanRun w event then
      match s.workers[owner]? with
      | some (.destroying sender next) =>
        (sender.step event).map fun sender =>
          { s with workers := s.workers.set owner (.destroying sender next) }
      | _ => none
    else none

/-- The session that a step deletes if it is live. -/
def deletedSession (s : Threads) : ThreadEvent → Option Text
  | .lock w =>
    match s.workers[w]? with
    | some (.locking (.request _ request _)) => tornDown request
    | _ => none
  | .turn w =>
    match s.workers[w]? with
    | some (.timingOut host) => (s.server.sessionsByHost.find? (·.1 = host)).map (·.2)
    | _ => none
  | _ => none

/-- No session is deleted while its sender runs. -/
def DeletesStopped (s : Threads) (event : ThreadEvent) : Prop :=
  ∀ identifier ∈ s.deletedSession event, ∀ session ∈ s.server.sessions.lookup identifier,
    ∀ sender ∈ session.rtpSession, sender.running = false

instance (s : Threads) (event : ThreadEvent) : Decidable (s.DeletesStopped event) :=
  inferInstanceAs (Decidable (∀ _ ∈ _, ∀ _ ∈ _, ∀ _ ∈ _, _))

/-- The steps, each with its guard. -/
inductive Step (env : Environment) (s : Threads) : ThreadEvent → Threads → Prop
  | arrive (task : ServerTask) :
      Step env s (.arrive task) ⟨s.server, s.workers, s.queue ++ [task]⟩
  | block {w : ℕ} {task : ServerTask} (hidle : s.workers[w]? = some .idle)
      (hlocks : task.Locks) : Step env s (.take w task)
        ⟨s.server, s.workers.set w (.locking task), s.queue.erase task⟩
  | answer {w : ℕ} {task : ServerTask} (hidle : s.workers[w]? = some .idle)
      (hlocks : ¬task.Locks) : Step env s (.take w task)
        ⟨s.server, s.workers, s.queue.erase task⟩
  | request {w : ℕ} {draws : Draws} {request : Request} {requester : Address}
      (hworker : s.workers[w]? = some (.locking (.request draws request requester)))
      (hfree : s.MutexFree) : Step env s (.lock w)
        (s.after w (requestTurn env s.server draws request requester) none)
  | timeout {w : ℕ} {host : Address} (hworker : s.workers[w]? = some (.locking (.timeout host)))
      (hfree : s.MutexFree) : Step env s (.lock w)
        ⟨s.server, s.workers.set w (.timingOut host), s.queue⟩
  | turned {w : ℕ} {host : Address} {entry : Address × Text}
      (hworker : s.workers[w]? = some (.timingOut host))
      (hentry : s.server.sessionsByHost.find? (·.1 = host) = some entry) :
      Step env s (.turn w) (s.after w (timeoutTurn s.server entry) (some host))
  | returned {w : ℕ} {host : Address} (hworker : s.workers[w]? = some (.timingOut host))
      (hnone : s.server.sessionsByHost.find? (·.1 = host) = none) :
      Step env s (.turn w) ⟨s.server, s.workers.set w .idle, s.queue⟩
  | finish {w : ℕ} {sender : Sender} {next : Option Address}
      (hworker : s.workers[w]? = some (.destroying sender next))
      (hrun : sender.running = false) :
      Step env s (.finish w) (s.after w (s.server, none) next)
  | sender {w : ℕ} {identifier : Text} {event : SenderEvent} {server : ServerState}
      (hcan : s.CanRun w event)
      (hserver : s.server.step env (.sender identifier event) = some server) :
      Step env s (.sender w identifier event) ⟨server, s.workers, s.queue⟩
  | destroyed {w owner : ℕ} {event : SenderEvent} {sender sender' : Sender}
      {next : Option Address} (hcan : s.CanRun w event)
      (howner : s.workers[owner]? = some (.destroying sender next))
      (hsender : sender.step event = some sender') :
      Step env s (.destroyed w owner event)
        ⟨s.server, s.workers.set owner (.destroying sender' next), s.queue⟩

lemma Step.of_step {env : Environment} {s s' : Threads} {event : ThreadEvent}
    (hstep : s.step env event = some s') : s.Step env event s' := by
  cases event with
  | arrive task =>
    cases hstep
    exact .arrive task
  | take w task =>
    simp only [step] at hstep
    split_ifs at hstep with htake hlocks
    · cases hstep
      exact .block htake.1 hlocks
    · cases hstep
      exact .answer htake.1 hlocks
  | lock w =>
    simp only [step] at hstep
    split at hstep
    · next task hworker =>
        split_ifs at hstep with hfree
        cases task <;> cases hstep
        · exact .request hworker hfree
        · exact .timeout hworker hfree
    · cases hstep
  | turn w =>
    simp only [step] at hstep
    split at hstep
    · next host hworker =>
        split at hstep
        · next hnone =>
            cases hstep
            exact .returned hworker hnone
        · next entry hentry =>
            cases hstep
            exact .turned hworker hentry
    · cases hstep
  | finish w =>
    simp only [step] at hstep
    split at hstep
    · next sender next hworker =>
        split_ifs at hstep with hrun
        cases hstep
        exact .finish hworker (Bool.not_eq_true _ ▸ hrun)
    · cases hstep
  | sender w identifier event =>
    simp only [step] at hstep
    split_ifs at hstep with hcan
    obtain ⟨server, hserver, rfl⟩ := Option.map_eq_some_iff.mp hstep
    exact .sender hcan hserver
  | destroyed w owner event =>
    simp only [step] at hstep
    split_ifs at hstep with hcan
    split at hstep
    · next sender next howner =>
        obtain ⟨sender', hsender, rfl⟩ := Option.map_eq_some_iff.mp hstep
        exact .destroyed hcan howner hsender
    · cases hstep

end Threads

/-- A server that starts with `n` worker threads. -/
def threadSystem (env : Environment) (n : ℕ) : System Threads ThreadEvent where
  init s := s = { server := {}, workers := List.replicate n .idle }
  step := Threads.step env

/-! ### Requests without the mutex -/

lemma mem_names_of_methods {env : Environment} {draws : Draws} {name : Text}
    {method : MethodImplementation} (hoptions : name ≠ str "OPTIONS")
    (hsetup : name ≠ str "SETUP") (h : (methods env draws).lookup name = some method) :
    name ∈ [str "TEARDOWN", str "PLAY", str "PAUSE"] := by
  by_contra hname
  simp only [List.mem_cons, List.not_mem_nil, or_false, not_or] at hname
  obtain ⟨hteardown, hplay, hpause⟩ := hname
  simp only [methods, List.lookup_cons, List.lookup_nil, beq_eq_false_iff_ne.mpr hoptions,
    beq_eq_false_iff_ne.mpr hsetup, beq_eq_false_iff_ne.mpr hteardown,
    beq_eq_false_iff_ne.mpr hplay, beq_eq_false_iff_ne.mpr hpause] at h
  cases h

/-- A request that does not lock the mutex leaves the tables alone. -/
theorem handleIncomingRequest_of_not_locks (env : Environment) (s : ServerState) (draws : Draws)
    (request : Request) (requester : Address) (h : ¬LocksSessions request) :
    (s.handleIncomingRequest env draws request requester).1 = s := by
  unfold ServerState.handleIncomingRequest
  dsimp only
  split_ifs with hcseq hoptions hdescribe hsession hsetup
  · rfl
  · rfl
  · rfl
  · rfl
  · refine absurd ⟨hcseq, Or.inl ⟨hsetup, ?_⟩⟩ h
    exact Option.not_isSome_iff_eq_none.mp fun h => hsession ⟨hsetup, h⟩
  · cases hidentifier : (normalizeHeaders request.headers).lookup (str "session") with
    | none => rfl
    | some identifier =>
      cases hmethod : (methods env draws).lookup request.methodOrExtension with
      | none => rfl
      | some method =>
        refine absurd ⟨hcseq, Or.inr ⟨?_, by simp [hidentifier]⟩⟩ h
        exact mem_names_of_methods hoptions hsetup hmethod

/-! ### Deleted sessions -/

/-- A request deletes no session but the one that it tears down. -/
theorem mem_sessions_handleIncomingRequest (env : Environment) {s : ServerState} (draws : Draws)
    {request : Request} (requester : Address) {identifier : Text} (hlive : identifier ∈ s.sessions)
    (hkept : tornDown request ≠ some identifier) :
    identifier ∈ (s.handleIncomingRequest env draws request requester).1.sessions := by
  unfold ServerState.handleIncomingRequest
  dsimp only
  split_ifs with hcseq
  · exact hlive
  · exact hlive
  · exact hlive
  · exact hlive
  · have hinserted : identifier ∈
        (s.emplaceSession draws.identifier requester).1.sessions :=
      Finmap.mem_insert.mpr (Or.inr hlive)
    unfold ServerState.handleSetup
    dsimp only
    split
    · exact hinserted
    · exact Finmap.mem_insert.mpr (Or.inr hinserted)
  · split
    · exact hlive
    · next target htarget =>
        split
        · next method _ =>
            unfold ServerState.handleMethod
            split
            · exact hlive
            · next session _ =>
                have hcalled : identifier ∈ s.sessions.insert target
                    (method { session with lastSeenRequestAddress := requester }
                      (request, normalizeHeaders request.headers)).1 :=
                  Finmap.mem_insert.mpr (Or.inr hlive)
                dsimp only
                split
                · exact hcalled
                · split_ifs with hteardown
                  · refine Finmap.mem_erase.mpr ⟨?_, hcalled⟩
                    rintro rfl
                    exact hkept (by rw [tornDown, if_pos ⟨hcseq, hteardown⟩, htarget])
                  · exact hcalled
        · exact hlive

/-- The sender that is deleted is the one that the session had. -/
lemma mem_erasedSender {before after : ServerState} {identifier : Text} {sender : Sender}
    (h : sender ∈ Threads.erasedSender before after identifier) :
    ∃ session ∈ before.sessions.lookup identifier, sender ∈ session.rtpSession := by
  unfold Threads.erasedSender at h
  split at h
  · cases h
  · exact Option.mem_bind_iff.mp h

end Rtsp
