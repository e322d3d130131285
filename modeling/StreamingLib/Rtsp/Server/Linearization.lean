import StreamingLib.Rtsp.Server.HostTimeout
import StreamingLib.Transition.Simulation

/-!
# Concurrent requests are handled one after the other

The workers of the server interleave requests, the turns of timeouts, destructors of senders and
handlers of senders. Whatever they do, the answers they give are those of a server that handles one
request or timeout after the other, in the order in which they have got the mutex.
-/

namespace Rtsp

open Rtp Transition

/-! ### Answers -/

/-- The event of the server that a handler is. -/
def ServerTask.event : ServerTask → ServerEvent
  | .request draws message requester => .request draws message requester
  | .timeout host => .timeout host

/-- What a request or a timeout is answered with. -/
def ServerState.answers (env : Environment) (s : ServerState) (event : ServerEvent) :
    List Exchange :=
  match event with
  | .request _ _ _ | .timeout _ => [s.exchange env event]
  | .sender _ _ => []

/-- A request or a timeout is answered by the worker that has got the mutex for it, or by the one
that takes it if it needs no mutex. -/
def Threads.answers (env : Environment) (s : Threads) : ThreadEvent → List Exchange
  | .take _ task => if task.Locks then [] else [s.server.exchange env task.event]
  | .lock w =>
    match s.workers[w]? with
    | some (.locking task) => [s.server.exchange env task.event]
    | _ => []
  | _ => []

/-- The answer to a request without the mutex does not depend on the tables. -/
lemma handleIncomingRequest_answer_of_not_locks (env : Environment) (s s' : ServerState)
    (draws : Draws) {request : Request} (requester : Address) (h : ¬LocksSessions request) :
    (s.handleIncomingRequest env draws request requester).2 =
      (s'.handleIncomingRequest env draws request requester).2 := by
  unfold ServerState.handleIncomingRequest
  dsimp only
  split_ifs with hcseq hoptions hdescribe hsession hsetup
  · rfl
  · rfl
  · rfl
  · rfl
  · refine absurd ⟨hcseq, Or.inl ⟨hsetup, ?_⟩⟩ h
    exact Option.not_isSome_iff_eq_none.mp fun h => hsession ⟨hsetup, h⟩
  · cases hidentifier : (normalizeHeaders request.headers).lookup (str "session") with
    | none => rfl
    | some identifier =>
      cases hmethod : (methods env draws).lookup request.methodOrExtension with
      | none => rfl
      | some method =>
        refine absurd ⟨hcseq, Or.inr ⟨?_, by simp [hidentifier]⟩⟩ h
        exact mem_names_of_methods hoptions hsetup hmethod

/-! ### Timeouts in progress -/

/-- The host whose timeout a worker is to go on with. -/
def Worker.timesOut : Worker → Option Address
  | .timingOut host => some host
  | .destroying _ next => next
  | .idle | .locking _ => none

namespace Threads

variable {env : Environment} {s s' : Threads} {t : ServerState} {w v : ℕ} {host : Address}
  {worker worker' : Worker} {event : ThreadEvent}

lemma calls_iff : s.Calls w host ↔ ∃ worker ∈ s.workers[w]?, worker.timesOut = some host := by
  constructor
  · rintro (h | ⟨sender, h⟩)
    · exact ⟨_, h, rfl⟩
    · exact ⟨_, h, rfl⟩
  · rintro ⟨worker, h, hhost⟩
    cases worker with
    | idle => cases hhost
    | locking task => cases hhost
    | timingOut host' =>
      cases hhost
      exact .timingOut h
    | destroying sender next =>
      cases hhost
      exact .destroying sender h

lemma calls_congr {server : ServerState} {queue : List ServerTask} :
    Calls ⟨server, s.workers, queue⟩ w host ↔ s.Calls w host := by
  rw [calls_iff, calls_iff]

/-- The calls after one worker has changed. -/
lemma calls_set_iff (h : s.workers[w]? = some worker) {server : ServerState}
    {queue : List ServerTask} : Calls ⟨server, s.workers.set w worker', queue⟩ v host ↔
      if v = w then worker'.timesOut = some host else s.Calls v host := by
  rw [calls_iff, calls_iff]
  split_ifs with hv
  · subst hv
    dsimp only
    rw [getElem?_set_worker h]
    simp
  · dsimp only
    rw [List.getElem?_set_ne (Ne.symm hv)]

/-- The tables once the timeout in progress, if there is one, is over. -/
structure Linearized (s : Threads) (t : ServerState) : Prop where
  excludes : ∀ w, s.InCall w → s.Excludes w
  quiet : (∀ w host, ¬s.Calls w host) → t = s.server
  calls : ∀ w host, s.Calls w host → t = s.server.handleTimeoutOfHost host

lemma MutexFree.not_calls (h : s.MutexFree) (w : ℕ) (host : Address) : ¬s.Calls w host :=
  fun hcalls => hcalls.inCall.not_mutexFree h

lemma Linearized.of_mutexFree (h : s.Linearized t) (hfree : s.MutexFree) : t = s.server :=
  h.quiet hfree.not_calls

/-- A step that leaves the workers alone. -/
lemma Linearized.keep (h : s.Linearized t) (queue : List ServerTask) :
    Linearized ⟨s.server, s.workers, queue⟩ t := by
  refine ⟨h.excludes, ?_, ?_⟩
  · intro hquiet
    exact h.quiet fun w host hw => hquiet w host (calls_congr.mpr hw)
  · intro w host hw
    exact h.calls w host (calls_congr.mp hw)

/-- A worker that may have got the mutex is the only one that has it. -/
lemma excludes_set (h : ∀ v, s.InCall v → s.Excludes v)
    (hw : worker'.holdsMutex = true → s.Excludes w) (server : ServerState)
    (queue : List ServerTask) (v : ℕ) (hv : InCall ⟨server, s.workers.set w worker', queue⟩ v) :
    Excludes ⟨server, s.workers.set w worker', queue⟩ v := by
  obtain ⟨holder, hholder, hholds⟩ := hv
  by_cases hvw : v = w
  · subst hvw
    have heq : holder = worker' := by
      dsimp only at hholder
      rw [List.getElem?_set_self'] at hholder
      obtain ⟨_, -, rfl⟩ := Option.map_eq_some_iff.mp hholder
      rfl
    subst heq
    exact (hw hholds).set (absurd rfl) server queue
  · have hcall : s.InCall v := by
      refine ⟨holder, ?_, hholds⟩
      dsimp only at hholder
      rwa [List.getElem?_set_ne (Ne.symm hvw)] at hholder
    refine (h v hcall).set (fun _ => ?_) server queue
    by_contra hheld
    rw [Bool.not_eq_false] at hheld
    obtain ⟨holder', hholder', hholds'⟩ := hcall
    rw [hw hheld v holder' hvw hholder'] at hholds'
    cases hholds'

lemma MutexFree.excludes (h : s.MutexFree) (w : ℕ) : s.Excludes w :=
  fun _ _ _ hv => h _ (List.mem_of_getElem? hv)

/-- A change of a worker that neither starts nor ends a timeout. -/
lemma Linearized.set (h : s.Linearized t) (worker' : Worker) (hw : s.workers[w]? = some worker)
    (hholds : worker'.holdsMutex = true → s.Excludes w)
    (htimesOut : worker'.timesOut = worker.timesOut) (queue : List ServerTask) :
    Linearized ⟨s.server, s.workers.set w worker', queue⟩ t := by
  have hcalls : ∀ v host, Calls ⟨s.server, s.workers.set w worker', queue⟩ v host ↔
      s.Calls v host := by
    intro v host
    rw [calls_set_iff hw]
    split_ifs with hv
    · subst hv
      rw [calls_iff, hw, htimesOut]
      simp
    · exact Iff.rfl
  refine ⟨excludes_set h.excludes hholds _ _, ?_, ?_⟩
  · intro hquiet
    exact h.quiet fun v host hv => hquiet v host ((hcalls v host).mpr hv)
  · intro v host hv
    exact h.calls v host ((hcalls v host).mp hv)

/-- A worker with the mutex turns from one part of its call to the next. -/
lemma Linearized.turn (h : s.Linearized t) (hw : s.workers[w]? = some worker)
    (hheld : worker.holdsMutex = true) {server : ServerState}
    (hserver : t = match worker'.timesOut with
      | none => server
      | some host => server.handleTimeoutOfHost host) (queue : List ServerTask) :
    Linearized ⟨server, s.workers.set w worker', queue⟩ t := by
  have hexcludes : s.Excludes w := h.excludes w ⟨worker, hw, hheld⟩
  have hothers : ∀ v host, v ≠ w → ¬s.Calls v host := by
    intro v host hv hcalls
    obtain ⟨holder, hholder, hholds⟩ := hcalls.inCall
    exact hv (hexcludes.eq_of_holds hholder hholds)
  refine ⟨excludes_set h.excludes (fun _ => hexcludes) _ _, ?_, ?_⟩
  · intro hquiet
    cases hnext : worker'.timesOut with
    | none => rw [hserver, hnext]
    | some host => exact absurd ((calls_set_iff hw).mpr (by rw [if_pos rfl, hnext])) (hquiet w host)
  · intro v host hv
    rw [calls_set_iff hw] at hv
    split_ifs at hv with hvw
    · rw [hserver, hv]
    · exact absurd hv (hothers v host hvw)

/-- A worker gets the mutex and does the first part of its call. -/
lemma Linearized.lock (h : s.Linearized t) (hw : s.workers[w]? = some worker)
    (hfree : s.MutexFree) {server t' : ServerState}
    (hserver : t' = match worker'.timesOut with
      | none => server
      | some host => server.handleTimeoutOfHost host) (queue : List ServerTask) :
    Linearized ⟨server, s.workers.set w worker', queue⟩ t' := by
  refine ⟨excludes_set h.excludes (fun _ => hfree.excludes w) _ _, ?_, ?_⟩
  · intro hquiet
    cases hnext : worker'.timesOut with
    | none => rw [hserver, hnext]
    | some host => exact absurd ((calls_set_iff hw).mpr (by rw [if_pos rfl, hnext])) (hquiet w host)
  · intro v host hv
    rw [calls_set_iff hw] at hv
    split_ifs at hv with hvw
    · rw [hserver, hv]
    · exact absurd hv (hfree.not_calls v host)

/-- A handler of a sender comes before the timeout in progress, which deletes its session, or may
as well come after it. -/
lemma Linearized.sender (h : s.Linearized t) {identifier : Text} {handler : SenderEvent}
    {server : ServerState}
    (hserver : s.server.step env (.sender identifier handler) = some server) :
    ∃ ds, ∃ t' ∈ (serverSystem env).run t ds,
      (serverSystem env).observe (ServerState.answers env) t ds = [] ∧
        Linearized ⟨server, s.workers, s.queue⟩ t' := by
  by_cases hcalls : ∃ w host, s.Calls w host
  · obtain ⟨w, host, hw⟩ := hcalls
    have hexcludes := h.excludes w hw.inCall
    have hhost : ∀ v host', s.Calls v host' → host' = host := by
      intro v host' hv
      obtain ⟨holder, hholder, hholds⟩ := hv.inCall
      obtain rfl := hexcludes.eq_of_holds hholder hholds
      obtain ⟨worker, hworker, htimesOut⟩ := calls_iff.mp hw
      obtain ⟨worker', hworker', htimesOut'⟩ := calls_iff.mp hv
      obtain rfl := Option.some.inj (hworker.symm.trans hworker')
      exact Option.some.inj (htimesOut'.symm.trans htimesOut)
    have hafter : Linearized ⟨server, s.workers, s.queue⟩ (server.handleTimeoutOfHost host) := by
      refine ⟨h.excludes, fun hquiet => absurd (calls_congr.mpr hw) (hquiet w host), ?_⟩
      intro v host' hv
      rw [hhost v host' (calls_congr.mp hv)]
    have ht := h.calls w host hw
    have hcommutes : server.handleTimeoutOfHost host = s.server.handleTimeoutOfHost host ∨
        (s.server.handleTimeoutOfHost host).step env (.sender identifier handler) =
          some (server.handleTimeoutOfHost host) := handleTimeoutOfHost_sender hserver
    rcases hcommutes with hsame | hstep
    · refine ⟨[], t, rfl, rfl, ?_⟩
      rwa [ht, ← hsame]
    · refine ⟨[.sender identifier handler], server.handleTimeoutOfHost host, ?_, ?_, hafter⟩
      · rw [ht, Option.mem_def, System.run, serverSystem]
        dsimp only
        rw [hstep]
        rfl
      · rw [ht, System.observe_cons hstep]
        rfl
  · push Not at hcalls
    have ht := h.quiet hcalls
    refine ⟨[.sender identifier handler], server, ?_, ?_, h.excludes, fun _ => rfl, ?_⟩
    · rw [ht, Option.mem_def, System.run, serverSystem]
      dsimp only
      rw [hserver]
      rfl
    · rw [ht, System.observe_cons hserver]
      rfl
    · intro v host hv
      exact absurd (calls_congr.mp hv) (hcalls v host)

/-- What one step of the workers is for the server that does one thing after the other. -/
lemma Linearized.step (h : s.Linearized t) (hstep : s.step env event = some s') :
    ∃ ds, ∃ t' ∈ (serverSystem env).run t ds,
      (serverSystem env).observe (ServerState.answers env) t ds = s.answers env event ∧
        s'.Linearized t' := by
  cases Step.of_step hstep with
  | arrive task => exact ⟨[], t, rfl, rfl, h.keep _⟩
  | @block w task hidle hlocks =>
    have hlocked := h.set (.locking task) hidle (fun hholds => by cases hholds) rfl
    refine ⟨[], t, rfl, ?_, hlocked _⟩
    rw [answers, if_pos hlocks]
    rfl
  | @answer w task hidle hlocks =>
    cases task with
    | timeout host => exact absurd trivial hlocks
    | request draws request requester =>
      have hkept : (serverSystem env).step t (.request draws request requester) = some t :=
        congrArg some (handleIncomingRequest_of_not_locks env t draws request requester hlocks)
      refine ⟨[.request draws request requester], t, ?_, ?_, h.keep _⟩
      · rw [Option.mem_def, System.run, hkept]
        rfl
      · rw [System.observe_cons hkept, answers, if_neg hlocks, System.observe_nil, List.append_nil]
        simp only [ServerState.answers, ServerState.exchange, ServerTask.event,
          handleIncomingRequest_answer_of_not_locks env t s.server draws requester hlocks]
  | @request w draws request requester hworker hfree =>
    have ht := h.of_mutexFree hfree
    subst ht
    have hserve : (serverSystem env).step s.server (.request draws request requester) =
      some (requestTurn env s.server draws request requester).1 := rfl
    refine ⟨[.request draws request requester],
      (requestTurn env s.server draws request requester).1, ?_, ?_, h.lock hworker hfree ?_ _⟩
    · rw [Option.mem_def, System.run, hserve]
      rfl
    · rw [System.observe_cons hserve, answers, hworker]
      rfl
    · cases (requestTurn env s.server draws request requester).2 <;> rfl
  | @timeout w host hworker hfree =>
    have ht := h.of_mutexFree hfree
    subst ht
    have hserve : (serverSystem env).step s.server (.timeout host) =
      some (s.server.handleTimeoutOfHost host) := rfl
    refine ⟨[.timeout host], s.server.handleTimeoutOfHost host, ?_, ?_,
      h.lock hworker hfree rfl _⟩
    · rw [Option.mem_def, System.run, hserve]
      rfl
    · rw [System.observe_cons hserve, answers, hworker]
      rfl
  | @turned w host entry hworker hentry =>
    refine ⟨[], t, rfl, rfl, h.turn hworker rfl ?_ _⟩
    rw [h.calls w host (.timingOut hworker), ← handleTimeoutOfHost_turn hentry]
    cases (timeoutTurn s.server entry).2 <;> rfl
  | @returned w host hworker hnone =>
    refine ⟨[], t, rfl, rfl, h.turn hworker rfl ?_ _⟩
    rw [h.calls w host (.timingOut hworker), handleTimeoutOfHost_of_none hnone]
    rfl
  | @finish w sender next hworker hrun =>
    refine ⟨[], t, rfl, rfl, h.turn hworker rfl ?_ _⟩
    cases next with
    | none =>
      refine h.quiet fun v host hv => ?_
      obtain ⟨holder, hholder, hholds⟩ := hv.inCall
      obtain rfl := (h.excludes w ⟨_, hworker, rfl⟩).eq_of_holds hholder hholds
      obtain ⟨worker, hworker', htimesOut⟩ := calls_iff.mp hv
      obtain rfl := Option.some.inj (hworker.symm.trans hworker')
      cases htimesOut
    | some host => exact h.calls w host (.destroying sender hworker)
  | sender hcan hserver => exact h.sender hserver
  | @destroyed w owner event sender sender' next hcan howner hsender =>
    have hexcludes := h.excludes owner ⟨_, howner, rfl⟩
    have hstepped := h.set (.destroying sender' next) howner (fun _ => hexcludes) rfl
    exact ⟨[], t, rfl, rfl, hstepped _⟩

/-- Any number of workers simulates a server that does one thing after the other. -/
lemma simulation (env : Environment) (n : ℕ) :
    Simulation (threadSystem env n) (serverSystem env) (Threads.answers env)
      (ServerState.answers env) Linearized := by
  refine ⟨?_, fun s t e s' h hstep => h.step hstep⟩
  rintro s rfl
  have hfree : MutexFree { server := {}, workers := List.replicate n .idle } := by
    intro worker hworker
    rw [List.eq_of_mem_replicate hworker]
    rfl
  refine ⟨{}, rfl, fun w hw => absurd hfree hw.not_mutexFree, fun _ => rfl, ?_⟩
  intro w host hw
  exact absurd hw (hfree.not_calls w host)

end Threads

/-- In every run of any number of workers the answers to the requests, in the order in which they
have got the mutex, or were taken without it, are those of a server that handles one request or
timeout after the other in this order; and whenever no worker has the mutex, the tables are the
same. -/
theorem requests_linearizable {env : Environment} {n : ℕ} {events : List ThreadEvent}
    {s : Threads}
    (h : (threadSystem env n).run { server := {}, workers := List.replicate n .idle } events =
      some s) :
    ∃ serial t, (serverSystem env).run {} serial = some t ∧
      (serverSystem env).observe (ServerState.answers env) {} serial =
        (threadSystem env n).observe (Threads.answers env)
          { server := {}, workers := List.replicate n .idle } events ∧
      (s.MutexFree → t = s.server) := by
  obtain ⟨t₀, rfl, hstart⟩ := (Threads.simulation env n).init
    { server := {}, workers := List.replicate n .idle } rfl
  obtain ⟨serial, t, ht, hobserve, hlinearized⟩ := (Threads.simulation env n).run hstart h
  exact ⟨serial, t, ht, hobserve, hlinearized.of_mutexFree⟩

/-- TEARDOWN arrives after SETUP and gets the mutex before it. -/
def overtakingEvents : List ThreadEvent :=
  let setup : ServerTask := .request { identifier := str "a" } setupMovie default
  let teardown : ServerTask := .request {} teardownMovie default
  [.arrive setup, .arrive teardown, .take 0 setup, .take 1 teardown, .lock 1, .lock 0]

theorem requests_linearizable_overtaking :
    ∃ s ∈ (threadSystem emptyRoot 2).run { server := {}, workers := [.idle, .idle] }
        overtakingEvents,
      ∃ serial, (serverSystem emptyRoot).run {} serial = some s.server ∧
        (serverSystem emptyRoot).observe (ServerState.answers emptyRoot) {} serial =
          (threadSystem emptyRoot 2).observe (Threads.answers emptyRoot)
            { server := {}, workers := [.idle, .idle] } overtakingEvents := by
  obtain ⟨s, hrun, hfree⟩ : ∃ s ∈ (threadSystem emptyRoot 2).run
      { server := {}, workers := [.idle, .idle] } overtakingEvents, s.MutexFree := by
    decide
  obtain ⟨serial, t, ht, hobserve, hsame⟩ := requests_linearizable hrun
  obtain rfl := hsame hfree
  exact ⟨s, hrun, serial, ht, hobserve⟩

end Rtsp
