import StreamingLib.Rtsp.Server.Deadlock
import StreamingLib.Rtsp.Server.Refinement

/-!
# Timeouts of a host

What `handle_timeout_of_host` does while the other workers go on. It deletes the sessions that the
host has set up and nothing else. Where it deletes a session whose sender is running, it may never
return.
-/

namespace Rtsp

open Rtp Transition

/-! ### The tables -/

section Tables

variable {s s' : ServerState} {host : Address}

lemma ServerState.ext_lookup
    (hsessions : ∀ identifier, s.sessions.lookup identifier = s'.sessions.lookup identifier)
    (hindex : s.sessionsByHost = s'.sessionsByHost) : s = s' := by
  rcases s with ⟨sessions, byHost⟩
  rcases s' with ⟨sessions', byHost'⟩
  obtain rfl : byHost = byHost' := hindex
  rw [ServerState.mk.injEq]
  exact ⟨Finmap.ext_lookup hsessions, rfl⟩

lemma handleTimeoutOfHost_of_none (h : s.sessionsByHost.find? (·.1 = host) = none) :
    s.handleTimeoutOfHost host = s := by
  rw [ServerState.handleTimeoutOfHost]
  cases s.sessionsByHost.length with
  | zero => rfl
  | succ n => rw [ServerState.timeoutLoop, h]

/-- The loop goes on after a turn as from the start. -/
lemma handleTimeoutOfHost_turn {entry : Address × Text}
    (h : s.sessionsByHost.find? (·.1 = host) = some entry) :
    (Threads.timeoutTurn s entry).1.handleTimeoutOfHost host = s.handleTimeoutOfHost host := by
  have hlength : s.sessionsByHost.length = (s.sessionsByHost.erase entry).length + 1 :=
    (List.length_erase_add_one (List.mem_of_find?_eq_some h)).symm
  rw [ServerState.handleTimeoutOfHost, ServerState.handleTimeoutOfHost, hlength,
    ServerState.timeoutLoop, h]
  rfl

/-- A handler of the sender of a session leaves no trace if the session is deleted, and may as well
come after the timeout if it is not. -/
lemma handleTimeoutOfHost_sender {env : Environment} {identifier : Text} {event : SenderEvent}
    (hstep : s.step env (.sender identifier event) = some s') :
    s'.handleTimeoutOfHost host = s.handleTimeoutOfHost host ∨
      (s.handleTimeoutOfHost host).step env (.sender identifier event) =
        some (s'.handleTimeoutOfHost host) := by
  obtain ⟨session, hlookup, hstep⟩ := Option.bind_eq_some_iff.mp hstep
  obtain ⟨session', hsession, rfl⟩ := Option.map_eq_some_iff.mp hstep
  obtain ⟨hbefore, hindex⟩ := handleTimeoutOfHost_spec s host
  obtain ⟨hafter, hindex'⟩ := handleTimeoutOfHost_spec
    { s with sessions := s.sessions.insert identifier session' } host
  by_cases hmem : (host, identifier) ∈ s.sessionsByHost
  · refine Or.inl (ServerState.ext_lookup (fun identifier' => ?_) (hindex'.trans hindex.symm))
    rw [hafter, hbefore]
    by_cases hid : identifier' = identifier
    · subst hid
      rw [if_pos hmem, if_pos hmem]
    · rw [Finmap.lookup_insert_of_ne _ hid]
  · right
    have hkept : (s.handleTimeoutOfHost host).sessions.lookup identifier = some session := by
      rw [hbefore, if_neg hmem, hlookup]
    rw [ServerState.step, hkept, Option.bind_some, hsession, Option.map_some]
    refine congrArg some (ServerState.ext_lookup (fun identifier' => ?_)
      (hindex.trans hindex'.symm))
    rw [hafter]
    by_cases hid : identifier' = identifier
    · subst hid
      rw [if_neg hmem, Finmap.lookup_insert, Finmap.lookup_insert]
    · rw [Finmap.lookup_insert_of_ne _ hid, hbefore]
      dsimp only
      rw [Finmap.lookup_insert_of_ne _ hid]

/-- No session that is entered under the host has a running sender. -/
def HostStopped (s : ServerState) (host : Address) : Prop :=
  ∀ entry ∈ s.sessionsByHost, entry.1 = host → ∀ session ∈ s.sessions.lookup entry.2,
    ∀ sender ∈ session.rtpSession, sender.running = false

instance (s : ServerState) (host : Address) : Decidable (HostStopped s host) :=
  inferInstanceAs (Decidable (∀ _ ∈ _, _ → ∀ _ ∈ _, ∀ _ ∈ _, _))

end Tables

/-! ### The call -/

namespace Threads

/-- The worker is in `handle_timeout_of_host`, with the mutex. -/
def InCall (t : Threads) (w : ℕ) : Prop := ∃ worker ∈ t.workers[w]?, worker.holdsMutex = true

instance (t : Threads) (w : ℕ) : Decidable (t.InCall w) :=
  inferInstanceAs (Decidable (∃ _ ∈ _, _))

/-- The server from when a worker has got the mutex, up to its return. -/
def callSystem (env : Environment) (t : Threads) (w : ℕ) : System Threads ThreadEvent where
  init s := t.step env (.lock w) = some s
  step s event := if s.InCall w then s.step env event else none

/-- No other worker has the mutex. -/
def Excludes (s : Threads) (w : ℕ) : Prop :=
  ∀ (v : ℕ) (worker : Worker), v ≠ w → s.workers[v]? = some worker → worker.holdsMutex = false

lemma Excludes.set {s : Threads} {w v : ℕ} (h : s.Excludes w) {worker : Worker}
    (hworker : v ≠ w → worker.holdsMutex = false) (server : ServerState)
    (queue : List ServerTask) : Excludes ⟨server, s.workers.set v worker, queue⟩ w := by
  intro v' worker' hne hv'
  rcases eq_or_ne v v' with rfl | hvv'
  · rw [List.getElem?_set_self'] at hv'
    obtain ⟨_, -, rfl⟩ := Option.map_eq_some_iff.mp hv'
    exact hworker hne
  · rw [List.getElem?_set_ne hvv'] at hv'
    exact h v' worker' hne hv'

/-- What a step does to the tables and to the worker that times out a host. -/
inductive CallStep (env : Environment) (s s' : Threads) (w : ℕ) (host : Address) : Prop
  | other (hserver : s'.server = s.server) (hworker : s'.workers[w]? = s.workers[w]?)
  | sender (identifier : Text) (event : SenderEvent) (hqueued : isQueued event = true)
      (hserver : s.server.step env (.sender identifier event) = some s'.server)
      (hworker : s'.workers[w]? = s.workers[w]?)
  | destroyed (sender sender' : Sender) (event : SenderEvent) (hqueued : isQueued event = true)
      (hbefore : s.workers[w]? = some (.destroying sender (some host)))
      (hsender : sender.step event = some sender') (hserver : s'.server = s.server)
      (hworker : s'.workers[w]? = some (.destroying sender' (some host)))
  | finished (sender : Sender) (hbefore : s.workers[w]? = some (.destroying sender (some host)))
      (hserver : s'.server = s.server) (hworker : s'.workers[w]? = some (.timingOut host))
  | turned (entry : Address × Text) (hbefore : s.workers[w]? = some (.timingOut host))
      (hentry : s.server.sessionsByHost.find? (·.1 = host) = some entry)
      (hserver : s'.server = (timeoutTurn s.server entry).1)
      (hworker : s'.workers[w]? = some (match (timeoutTurn s.server entry).2 with
        | some sender => .destroying (stopDispatched sender) (some host)
        | none => .timingOut host))
  | returned (hbefore : s.workers[w]? = some (.timingOut host))
      (hnone : s.server.sessionsByHost.find? (·.1 = host) = none)
      (hserver : s'.server = s.server) (hworker : s'.workers[w]? = some .idle)

/-- The worker times out the host. -/
inductive Calls (s : Threads) (w : ℕ) (host : Address) : Prop
  | timingOut (h : s.workers[w]? = some (.timingOut host))
  | destroying (sender : Sender) (h : s.workers[w]? = some (.destroying sender (some host)))

section Step

variable {env : Environment} {s s' : Threads} {w : ℕ} {host : Address} {event : ThreadEvent}

lemma Calls.inCall (h : s.Calls w host) : s.InCall w := by
  cases h with
  | timingOut h => exact ⟨_, h, rfl⟩
  | destroying sender h => exact ⟨_, h, rfl⟩

lemma InCall.not_mutexFree (h : s.InCall w) : ¬s.MutexFree := by
  obtain ⟨worker, hworker, hholds⟩ := h
  intro hfree
  rw [hfree worker (List.mem_of_getElem? hworker)] at hholds
  cases hholds

/-- Who has the mutex is the worker that times out the host. -/
lemma Excludes.eq_of_holds (h : s.Excludes w) {v : ℕ} {worker : Worker}
    (hv : s.workers[v]? = some worker) (hholds : worker.holdsMutex = true) : v = w := by
  by_contra hne
  rw [h v worker hne hv] at hholds
  cases hholds

lemma getElem?_set_worker {worker : Worker} (h : s.workers[w]? = some worker) (worker' : Worker) :
    (s.workers.set w worker')[w]? = some worker' :=
  List.getElem?_set_self (List.getElem?_eq_some_iff.mp h).1

/-- A worker without the mutex is not the one in a call. -/
lemma InCall.ne_of_not_holds (h : s.InCall w) {v : ℕ} {worker : Worker}
    (hv : s.workers[v]? = some worker) (hfree : worker.holdsMutex = false) : v ≠ w := by
  rintro rfl
  obtain ⟨worker', hworker', hholds⟩ := h
  obtain rfl := Option.some.inj (hv.symm.trans hworker')
  rw [hfree] at hholds
  cases hholds

lemma Calls.host_eq (h : s.Calls w host) {host' : Address}
    (hw : s.workers[w]? = some (.timingOut host')) : host' = host := by
  cases h with
  | timingOut h =>
    cases hw.symm.trans h
    rfl
  | destroying sender h => cases hw.symm.trans h

lemma Calls.next_eq (h : s.Calls w host) {sender : Sender} {next : Option Address}
    (hw : s.workers[w]? = some (.destroying sender next)) : next = some host := by
  cases h with
  | timingOut h => cases hw.symm.trans h
  | destroying sender' h =>
    cases hw.symm.trans h
    rfl

/-- A step of any worker, seen from the one that times out the host. -/
lemma CallStep.of_step (hcalls : s.Calls w host) (hothers : s.Excludes w)
    (hstep : s.step env event = some s') : s'.Excludes w ∧ CallStep env s s' w host := by
  cases Step.of_step hstep with
  | arrive task => exact ⟨hothers, .other rfl rfl⟩
  | block hidle hlocks =>
    have hne := hcalls.inCall.ne_of_not_holds hidle rfl
    exact ⟨hothers.set (fun _ => rfl) _ _, .other rfl (List.getElem?_set_ne hne)⟩
  | answer hidle hlocks => exact ⟨hothers, .other rfl rfl⟩
  | request hv hfree => exact absurd hfree hcalls.inCall.not_mutexFree
  | timeout hv hfree => exact absurd hfree hcalls.inCall.not_mutexFree
  | turned hv hentry =>
    obtain rfl := hothers.eq_of_holds hv rfl
    obtain rfl := hcalls.host_eq hv
    refine ⟨hothers.set (absurd rfl) _ _,
      .turned _ hv hentry rfl ((getElem?_set_worker hv _).trans ?_)⟩
    cases (timeoutTurn s.server _).2 <;> rfl
  | returned hv hnone =>
    obtain rfl := hothers.eq_of_holds hv rfl
    obtain rfl := hcalls.host_eq hv
    exact ⟨hothers.set (absurd rfl) _ _, .returned hv hnone rfl (getElem?_set_worker hv _)⟩
  | finish hv hrun =>
    obtain rfl := hothers.eq_of_holds hv rfl
    obtain rfl := hcalls.next_eq hv
    exact ⟨hothers.set (absurd rfl) _ _, .finished _ hv rfl (getElem?_set_worker hv _)⟩
  | sender hcan hserver => exact ⟨hothers, .sender _ _ hcan.1 hserver rfl⟩
  | destroyed hcan howner hsender =>
    obtain rfl := hothers.eq_of_holds howner rfl
    obtain rfl := hcalls.next_eq howner
    exact ⟨hothers.set (absurd rfl) _ _,
      .destroyed _ _ _ hcan.1 howner hsender rfl (getElem?_set_worker howner _)⟩

end Step

/-! ### Until the call returns -/

section Call

variable {env : Environment} {t s s' : Threads} {w : ℕ} {host : Address} {event : ThreadEvent}

/-- The second server state is the first one after some handlers of senders. -/
def HandledBy (env : Environment) (server server' : ServerState) : Prop :=
  ∃ handlers : List (Text × SenderEvent),
    (serverSystem env).run server (handlers.map fun handler => .sender handler.1 handler.2) =
      some server'

lemma HandledBy.concat {server server' server'' : ServerState} (h : HandledBy env server server')
    {identifier : Text} {event : SenderEvent}
    (hstep : server'.step env (.sender identifier event) = some server'') :
    HandledBy env server server'' := by
  obtain ⟨handlers, hrun⟩ := h
  refine ⟨handlers ++ [(identifier, event)], ?_⟩
  rw [List.map_append, List.map_singleton, System.run_concat, hrun]
  exact hstep

/-- A call in progress or returned: what it leaves to do is what a timeout does at once. -/
structure Timing (env : Environment) (server : ServerState) (w : ℕ) (host : Address)
    (s : Threads) : Prop where
  excludes : s.Excludes w
  handled : HandledBy env (server.handleTimeoutOfHost host) (s.server.handleTimeoutOfHost host)
  worker : s.Calls w host ∨
    s.workers[w]? = some .idle ∧ s.server.sessionsByHost.find? (·.1 = host) = none

lemma Timing.init (hfree : t.MutexFree) (hw : t.workers[w]? = some (.locking (.timeout host)))
    (hs : (callSystem env t w).init s) :
    s.server = t.server ∧ s.workers[w]? = some (.timingOut host) ∧
      Timing env t.server w host s := by
  have hlock : t.step env (.lock w) = some s := hs
  simp only [step, hw, if_pos hfree] at hlock
  cases hlock
  have hworker : (t.workers.set w (.timingOut host))[w]? = some (.timingOut host) :=
    getElem?_set_worker hw _
  have hothers : t.Excludes w := fun v worker _ hv => hfree worker (List.mem_of_getElem? hv)
  exact ⟨rfl, hworker, hothers.set (absurd rfl) _ _, ⟨[], rfl⟩, Or.inl (.timingOut hworker)⟩

lemma Timing.callStep {server : ServerState} (h : Timing env server w host s)
    (hstep : (callSystem env t w).step s event = some s') :
    s.Calls w host ∧ s'.Excludes w ∧ CallStep env s s' w host := by
  simp only [callSystem] at hstep
  split_ifs at hstep with hcall
  have hcalls : s.Calls w host := by
    refine h.worker.resolve_right ?_
    rintro ⟨hidle, -⟩
    obtain ⟨worker, hworker, hholds⟩ := hcall
    obtain rfl := Option.some.inj (hidle.symm.trans hworker)
    cases hholds
  exact ⟨hcalls, CallStep.of_step hcalls h.excludes hstep⟩

lemma Timing.step {server : ServerState} (h : Timing env server w host s)
    (hstep : (callSystem env t w).step s event = some s') : Timing env server w host s' := by
  obtain ⟨hcalls, hexcludes, hcase⟩ := h.callStep hstep
  have hkept : s'.workers[w]? = s.workers[w]? → s'.Calls w host := by
    intro hworker
    cases hcalls with
    | timingOut hbefore => exact .timingOut (hworker.trans hbefore)
    | destroying sender hbefore => exact .destroying sender (hworker.trans hbefore)
  have hhandled := h.handled
  cases hcase with
  | other hserver hworker =>
    rw [← hserver] at hhandled
    exact ⟨hexcludes, hhandled, Or.inl (hkept hworker)⟩
  | sender identifier event hqueued hserver hworker =>
    refine ⟨hexcludes, ?_, Or.inl (hkept hworker)⟩
    rcases handleTimeoutOfHost_sender hserver with heq | hsender
    · rw [heq]
      exact hhandled
    · exact hhandled.concat hsender
  | destroyed sender sender' event hqueued hbefore hsender hserver hworker =>
    rw [← hserver] at hhandled
    exact ⟨hexcludes, hhandled, Or.inl (.destroying sender' hworker)⟩
  | finished sender hbefore hserver hworker =>
    rw [← hserver] at hhandled
    exact ⟨hexcludes, hhandled, Or.inl (.timingOut hworker)⟩
  | turned entry hbefore hentry hserver hworker =>
    rw [← handleTimeoutOfHost_turn hentry, ← hserver] at hhandled
    refine ⟨hexcludes, hhandled, Or.inl ?_⟩
    split at hworker
    · exact .destroying _ hworker
    · exact .timingOut hworker
  | returned hbefore hnone hserver hworker =>
    rw [← hserver] at hhandled hnone
    exact ⟨hexcludes, hhandled, Or.inr ⟨hworker, hnone⟩⟩

/-- When the call has returned, the tables are those that a timeout leaves. -/
lemma returned_handledBy (hfree : t.MutexFree)
    (hw : t.workers[w]? = some (.locking (.timeout host)))
    (hs : (callSystem env t w).Reachable Always s) (hidle : s.workers[w]? = some .idle) :
    HandledBy env (t.server.handleTimeoutOfHost host) s.server := by
  have htiming : Timing env t.server w host s :=
    hs.invariant (fun s hinit => (Timing.init hfree hw hinit).2.2)
      fun s event s' h _ hstep => h.step hstep
  have hnone := htiming.worker.resolve_left fun hcalls => by
    cases hcalls with
    | timingOut hbefore => cases hbefore.symm.trans hidle
    | destroying sender hbefore => cases hbefore.symm.trans hidle
  have hhandled := htiming.handled
  rwa [handleTimeoutOfHost_of_none hnone.2] at hhandled

/-! ### Calls that return -/

/-- The sender in a destructor is the one of the session. -/
lemma timeoutTurn_sender (server : ServerState) (entry : Address × Text) :
    (timeoutTurn server entry).2 = (server.sessions.lookup entry.2).bind (·.rtpSession) := by
  simp only [timeoutTurn, erasedSender, ServerState.deleteSession, Finmap.lookup_erase]

/-- The turns that are left, each with the wait for a destructor. -/
def left (w : ℕ) (host : Address) (s : Threads) : ℕ :=
  2 * s.server.sessionsByHost.countP (·.1 = host) +
    match s.workers[w]? with
    | some (.destroying _ _) => 2
    | some (.timingOut _) => 1
    | _ => 0

/-- No destructor has to wait. -/
structure NeverWaits (w : ℕ) (host : Address) (s : Threads) : Prop where
  stopped : HostStopped s.server host
  sender : ∀ sender next, s.workers[w]? = some (.destroying sender next) → sender.running = false

lemma hostStopped_sender {server server' : ServerState} {identifier : Text} {event : SenderEvent}
    (h : HostStopped server host) (hqueued : isQueued event = true)
    (hstep : server.step env (.sender identifier event) = some server') :
    HostStopped server' host := by
  obtain ⟨session, hlookup, hstep⟩ := Option.bind_eq_some_iff.mp hstep
  obtain ⟨session', hsession, rfl⟩ := Option.map_eq_some_iff.mp hstep
  intro entry hentry hhost session'' hsession'' sender' hsender'
  by_cases hid : entry.2 = identifier
  · rw [hid, Finmap.lookup_insert] at hsession''
    cases hsession''
    rw [ServerSession.stepSender, if_pos hqueued] at hsession
    obtain ⟨sender, hsender, hsession⟩ := Option.bind_eq_some_iff.mp hsession
    obtain ⟨_, hsenderStep, rfl⟩ := Option.map_eq_some_iff.mp hsession
    cases hsender'
    exact step_not_running hqueued
      (h entry hentry hhost session (hid ▸ hlookup) sender hsender) hsenderStep
  · rw [Finmap.lookup_insert_of_ne _ hid] at hsession''
    exact h entry hentry hhost session'' hsession'' sender' hsender'

lemma hostStopped_turn {server : ServerState} (h : HostStopped server host)
    (entry : Address × Text) : HostStopped (timeoutTurn server entry).1 host := by
  intro entry' hentry' hhost session hsession
  refine h entry' (List.mem_of_mem_erase hentry') hhost session ?_
  by_cases hid : entry'.2 = entry.2
  · rw [hid] at hsession
    cases (Finmap.lookup_erase _ _).symm.trans hsession
  · exact (Finmap.lookup_erase_ne hid).symm.trans hsession

lemma NeverWaits.step {server : ServerState} (h : NeverWaits w host s)
    (htiming : Timing env server w host s)
    (hstep : (callSystem env t w).step s event = some s') : NeverWaits w host s' := by
  obtain ⟨-, -, hcase⟩ := htiming.callStep hstep
  obtain ⟨hstopped, hsender⟩ := h
  cases hcase with
  | other hserver hworker =>
    rw [← hserver] at hstopped
    rw [← hworker] at hsender
    exact ⟨hstopped, hsender⟩
  | sender identifier event hqueued hserver hworker =>
    rw [← hworker] at hsender
    exact ⟨hostStopped_sender hstopped hqueued hserver, hsender⟩
  | destroyed sender sender' event hqueued hbefore hstep hserver hworker =>
    rw [← hserver] at hstopped
    refine ⟨hstopped, fun _ _ hafter => ?_⟩
    rw [hworker] at hafter
    cases hafter
    exact step_not_running hqueued (hsender sender _ hbefore) hstep
  | finished sender hbefore hserver hworker =>
    rw [← hserver] at hstopped
    refine ⟨hstopped, fun _ _ hafter => ?_⟩
    rw [hworker] at hafter
    cases hafter
  | turned entry hbefore hentry hserver hworker =>
    refine ⟨hserver ▸ hostStopped_turn hstopped entry, fun _ _ hafter => ?_⟩
    rw [hworker] at hafter
    split at hafter
    · next deleted hdeleted =>
        cases hafter
        rw [timeoutTurn_sender] at hdeleted
        obtain ⟨session, hsession, hdeleted⟩ := Option.bind_eq_some_iff.mp hdeleted
        have hhost : entry.1 = host := by simpa using List.find?_some hentry
        rw [stopDispatched_running]
        exact hstopped entry (List.mem_of_find?_eq_some hentry) hhost session hsession deleted
          hdeleted
    · cases hafter
  | returned hbefore hnone hserver hworker =>
    rw [← hserver] at hstopped
    refine ⟨hstopped, fun _ _ hafter => ?_⟩
    rw [hworker] at hafter
    cases hafter

/-- The worker comes closer to its return by its own steps. -/
lemma NeverWaits.closer {server : ServerState} (h : NeverWaits w host s)
    (htiming : Timing env server w host s) (hidle : s.workers[w]? ≠ some .idle) :
    ∃ event, ∃ s' ∈ (callSystem env t w).step s event, left w host s' < left w host s := by
  have hcalls := htiming.worker.resolve_right fun hreturned => hidle hreturned.1
  have hcall := hcalls.inCall
  cases hcalls with
  | timingOut hworker =>
    refine ⟨.turn w, ?_⟩
    simp only [callSystem, if_pos hcall, Threads.step, hworker]
    cases hentry : s.server.sessionsByHost.find? (·.1 = host) with
    | none =>
      refine ⟨_, rfl, ?_⟩
      simp only [left, getElem?_set_worker hworker, hworker]
      exact Nat.lt_succ_self _
    | some entry =>
      refine ⟨_, rfl, ?_⟩
      have hmem := List.mem_of_find?_eq_some hentry
      have hcount : s.server.sessionsByHost.countP (·.1 = host) =
          (s.server.sessionsByHost.erase entry).countP (·.1 = host) + 1 := by
        have hhost : decide (entry.1 = host) = true := by simpa using List.find?_some hentry
        have hpos : 0 < s.server.sessionsByHost.countP (·.1 = host) :=
          List.countP_pos_iff.mpr ⟨entry, hmem, hhost⟩
        rw [List.countP_erase, if_pos ⟨hmem, hhost⟩, Nat.sub_add_cancel hpos]
      simp only [left, after, getElem?_set_worker hworker, hworker, hcount, timeoutTurn]
      split <;> omega
  | destroying sender hworker =>
    have hstopped : sender.running = false := h.sender sender _ hworker
    refine ⟨.finish w, ?_⟩
    simp only [callSystem, if_pos hcall, Threads.step, hworker, hstopped]
    refine ⟨_, rfl, ?_⟩
    simp only [left, after, getElem?_set_worker hworker, hworker]
    exact Nat.lt_succ_self _

lemma alwaysReaches_idle (hfree : t.MutexFree)
    (hw : t.workers[w]? = some (.locking (.timeout host))) (hstopped : HostStopped t.server host) :
    (callSystem env t w).AlwaysReaches fun s => s.workers[w]? = some .idle := by
  refine .of_measure (I := fun s => Timing env t.server w host s ∧ NeverWaits w host s)
    (left w host) ?_ ?_ ?_
  · intro s hinit
    obtain ⟨hserver, hworker, htiming⟩ := Timing.init hfree hw hinit
    refine ⟨htiming, hserver ▸ hstopped, fun _ _ hafter => ?_⟩
    rw [hworker] at hafter
    cases hafter
  · rintro s event s' ⟨htiming, hwaits⟩ hstep
    exact ⟨htiming.step hstep, hwaits.step htiming hstep⟩
  · rintro s ⟨htiming, hwaits⟩ hidle
    exact hwaits.closer htiming hidle

/-! ### Calls that do not return -/

lemma Jammed.inCall {sender : Sender} {next : Option Address} (h : s.Jammed w sender next) :
    s.InCall w := ⟨_, h.worker, rfl⟩

/-- All other workers can be blocked on the mutex while the call goes on. -/
lemma reachable_blocked (hs : (callSystem env t w).Reachable Always s)
    (hworker : s.workers[w]? = some (.timingOut host)) (hexcludes : s.Excludes w) (n : ℕ) :
    ∃ s', (callSystem env t w).Reachable Always s' ∧ s'.server = s.server ∧
      s'.workers[w]? = some (.timingOut host) ∧ s'.Excludes w ∧
      s'.workers.length = s.workers.length ∧
      ∀ v < n, v ≠ w → ∀ worker ∈ s'.workers[v]?, ∃ task, worker = .locking task := by
  induction n with
  | zero => exact ⟨s, hs, rfl, hworker, hexcludes, rfl, nofun⟩
  | succ n ih =>
    obtain ⟨s', hs', hserver, hworker', hexcludes', hlength, hblocked⟩ := ih
    by_cases hidle : s'.workers[n]? = some .idle
    · have hne : n ≠ w := by
        rintro rfl
        cases hidle.symm.trans hworker'
      have hcall : s'.InCall w := ⟨_, hworker', rfl⟩
      have harrive : (callSystem env t w).step s' (.arrive (.timeout host)) =
          some { s' with queue := s'.queue ++ [.timeout host] } := if_pos hcall
      have harrived := System.Reachable.step hs' trivial harrive
      have htake : (callSystem env t w).step { s' with queue := s'.queue ++ [.timeout host] }
          (.take n (.timeout host)) =
          some ⟨s'.server, s'.workers.set n (.locking (.timeout host)),
            (s'.queue ++ [ServerTask.timeout host]).erase (.timeout host)⟩ := by
        have hcall' : InCall { s' with queue := s'.queue ++ [.timeout host] } w := hcall
        simp [callSystem, hcall', Threads.step, hidle, ServerTask.Locks]
      refine ⟨_, System.Reachable.step harrived trivial htake, hserver,
        (List.getElem?_set_ne hne).trans hworker', hexcludes'.set (fun _ => rfl) _ _,
        List.length_set.trans hlength, ?_⟩
      intro v hv hvw worker hmem
      rcases eq_or_ne n v with rfl | hnv
      · rw [getElem?_set_worker hidle] at hmem
        cases hmem
        exact ⟨_, rfl⟩
      · rw [List.getElem?_set_ne hnv] at hmem
        exact hblocked v (lt_of_le_of_ne (Nat.le_of_lt_succ hv) hnv.symm) hvw worker hmem
    · refine ⟨s', hs', hserver, hworker', hexcludes', hlength, ?_⟩
      intro v hv hvw worker hmem
      rcases eq_or_ne n v with rfl | hnv
      · have hfree := hexcludes' n worker hvw hmem
        cases worker with
        | idle => exact absurd hmem hidle
        | locking task => exact ⟨task, rfl⟩
        | timingOut host => cases hfree
        | destroying sender next => cases hfree
      · exact hblocked v (lt_of_le_of_ne (Nat.le_of_lt_succ hv) hnv.symm) hvw worker hmem

/-- A turn that deletes no running sender leaves those that there are. -/
lemma not_hostStopped_turn {server : ServerState} {first : Address × Text}
    (hrunning : ¬HostStopped server host) (hfirst : first.1 = host)
    (hturn : ∀ sender ∈ (timeoutTurn server first).2, sender.running = false) :
    ¬HostStopped (timeoutTurn server first).1 host := by
  simp only [HostStopped, not_forall] at hrunning
  obtain ⟨entry, hentry, hhost, session, hsession, sender, hsender, hrunning⟩ := hrunning
  have hne : entry ≠ first := by
    rintro rfl
    apply hrunning
    apply hturn
    rw [timeoutTurn_sender]
    exact Option.mem_bind_iff.mpr ⟨session, hsession, hsender⟩
  have hid : entry.2 ≠ first.2 := fun heq => hne (Prod.ext (hhost.trans hfirst.symm) heq)
  intro hstopped
  exact hrunning (hstopped entry ((List.mem_erase_of_ne hne).mpr hentry) hhost session
    ((Finmap.lookup_erase_ne hid).trans hsession) sender hsender)

lemma step_turn {first : Address × Text} (hworker : s.workers[w]? = some (.timingOut host))
    (hfind : s.server.sessionsByHost.find? (·.1 = host) = some first) :
    (callSystem env t w).step s (.turn w) =
      some (s.after w (timeoutTurn s.server first) (some host)) := by
  have hcall : s.InCall w := ⟨_, hworker, rfl⟩
  simp only [callSystem, if_pos hcall, Threads.step, hworker, hfind]

/-- After a turn that deletes no running sender the worker comes back to the loop. -/
lemma reachable_turn (hs : (callSystem env t w).Reachable Always s)
    (hworker : s.workers[w]? = some (.timingOut host)) {first : Address × Text}
    (hfind : s.server.sessionsByHost.find? (·.1 = host) = some first)
    (hstopped : ∀ sender ∈ (timeoutTurn s.server first).2, sender.running = false) :
    (callSystem env t w).Reachable Always
      ⟨(timeoutTurn s.server first).1, s.workers.set w (.timingOut host), s.queue⟩ := by
  have hturned := System.Reachable.step hs trivial (step_turn hworker hfind)
  cases hdeleted : (timeoutTurn s.server first).2 with
  | none => simpa only [after, hdeleted] using hturned
  | some sender =>
    rw [after_of_mem hdeleted] at hturned
    have hdestroying := getElem?_set_worker hworker
      (.destroying (stopDispatched sender) (some host))
    have hfinish : (callSystem env t w).step ⟨(timeoutTurn s.server first).1,
        s.workers.set w (.destroying (stopDispatched sender) (some host)), s.queue⟩
        (.finish w) = some ⟨(timeoutTurn s.server first).1,
          s.workers.set w (.timingOut host), s.queue⟩ := by
      simp only [callSystem]
      rw [if_pos ⟨_, hdestroying, rfl⟩]
      simp [Threads.step, hdestroying, stopDispatched_running, hstopped sender hdeleted, after]
    exact System.Reachable.step hturned trivial hfinish

/-- The worker gets to the first running sender and stays there. -/
lemma reachable_jammed (hs : (callSystem env t w).Reachable Always s)
    (hworker : s.workers[w]? = some (.timingOut host))
    (hblocked : ∀ v ≠ w, ∀ worker ∈ s.workers[v]?, ∃ task, worker = .locking task)
    (hrunning : ¬HostStopped s.server host) :
    ∃ s' sender, (callSystem env t w).Reachable Always s' ∧
      s'.Jammed w sender (some host) := by
  induction hn : s.server.sessionsByHost.length generalizing s with
  | zero =>
    refine absurd (fun entry hentry => ?_) hrunning
    rw [List.length_eq_zero_iff.mp hn] at hentry
    cases hentry
  | succ n ih =>
    have hothers : ∀ (worker' : Worker), ∀ v ≠ w, ∀ worker ∈ (s.workers.set w worker')[v]?,
        ∃ task, worker = .locking task := by
      intro worker' v hv worker hmem
      rw [List.getElem?_set_ne hv.symm] at hmem
      exact hblocked v hv worker hmem
    cases hfind : s.server.sessionsByHost.find? (·.1 = host) with
    | none =>
      refine absurd (fun entry hentry hhost => ?_) hrunning
      exact absurd (decide_eq_true hhost) (List.find?_eq_none.mp hfind entry hentry)
    | some first =>
      have hfirst : first.1 = host := by simpa using List.find?_some hfind
      have hlength : (timeoutTurn s.server first).1.sessionsByHost.length = n := by
        have herase := List.length_erase_add_one (List.mem_of_find?_eq_some hfind)
        exact Nat.succ_injective (herase.trans hn)
      by_cases hstopped : ∀ sender ∈ (timeoutTurn s.server first).2, sender.running = false
      · exact ih (reachable_turn hs hworker hfind hstopped) (getElem?_set_worker hworker _)
          (hothers _) (not_hostStopped_turn hrunning hfirst hstopped) hlength
      · push Not at hstopped
        obtain ⟨sender, hdeleted, hsender⟩ := hstopped
        have hturned := System.Reachable.step hs trivial (step_turn hworker hfind)
        rw [after_of_mem hdeleted] at hturned
        refine ⟨_, stopDispatched sender, hturned, getElem?_set_worker hworker _, ?_, ?_⟩
        · rw [stopDispatched_running]
          exact Bool.eq_true_of_not_eq_false hsender
        · exact fun v worker hv hmem => hothers _ v hv worker hmem

/-- A call that can always return has no running sender to delete. -/
lemma hostStopped_of_alwaysReaches (hfree : t.MutexFree)
    (hw : t.workers[w]? = some (.locking (.timeout host)))
    (h : (callSystem env t w).AlwaysReaches fun s => s.workers[w]? = some .idle) :
    HostStopped t.server host := by
  by_contra hrunning
  obtain ⟨s, hinit⟩ : ∃ s, t.step env (.lock w) = some s := by
    simp only [step, hw, if_pos hfree]
    exact ⟨_, rfl⟩
  obtain ⟨hserver, hworker, htiming⟩ := Timing.init hfree hw hinit
  obtain ⟨s₁, hs₁, hserver₁, hworker₁, -, hlength, hlocked⟩ :=
    reachable_blocked (System.Reachable.init hinit) hworker htiming.excludes s.workers.length
  have hblocked : ∀ v ≠ w, ∀ worker ∈ s₁.workers[v]?, ∃ task, worker = .locking task := by
    intro v hv worker hmem
    exact hlocked v (hlength ▸ (List.getElem?_eq_some_iff.mp hmem).1) hv worker hmem
  obtain ⟨s₂, sender, hs₂, hjammed⟩ := reachable_jammed hs₁ hworker₁ hblocked
    (by rwa [hserver₁, hserver])
  refine h.not_reachable (I := fun s => ∃ sender, s.Jammed w sender (some host)) ?_ ?_
    ⟨sender, hjammed⟩ hs₂
  · rintro s event s' ⟨sender, hjammed⟩ hstep
    simp only [callSystem, if_pos hjammed.inCall] at hstep
    obtain ⟨sender', hjammed', -⟩ := hjammed.step hstep
    exact ⟨sender', hjammed'⟩
  · rintro s ⟨sender, hjammed⟩ hidle
    cases hjammed.worker.symm.trans hidle

end Call

end Threads

/-! ### Timeouts -/

/-- What `handle_timeout_of_host` is to do, called by a worker after a run of the server. -/
structure TimesOutHost (env : Environment) (events : List ServerEvent) (t : Threads) (w : ℕ)
    (host : Address) : Prop where
  /-- Whatever the other workers do, it can still return. -/
  returns : (t.callSystem env w).AlwaysReaches fun s => s.workers[w]? = some .idle
  /-- When it has returned, the tables are those of the timeout, after handlers of senders that are
  not deleted. -/
  handled : ∀ s, (t.callSystem env w).Reachable Always s → s.workers[w]? = some .idle →
    Threads.HandledBy env (t.server.handleTimeoutOfHost host) s.server
  /-- No session that the host set up is live. -/
  deleted : ∀ identifier, creator identifier events = some host →
    identifier ∉ (t.server.handleTimeoutOfHost host).sessions
  /-- The sessions of other hosts are what they were. -/
  kept : ∀ identifier, creator identifier events ≠ some host →
    (t.server.handleTimeoutOfHost host).sessions.lookup identifier =
      t.server.sessions.lookup identifier
  /-- The host has no entry, and the entries of other hosts are what they were. -/
  entries : (t.server.handleTimeoutOfHost host).sessionsByHost =
    t.server.sessionsByHost.filter (·.1 ≠ host)

lemma timeout_deletes {env : Environment} {events : List ServerEvent} {s : ServerState}
    (h : Tracks env events s) {identifier : Text} {host : Address}
    (hcreator : creator identifier events = some host) :
    identifier ∉ (s.handleTimeoutOfHost host).sessions := by
  obtain ⟨hlookup, -⟩ := handleTimeoutOfHost_spec s host
  rw [← Finmap.lookup_eq_none, hlookup]
  split_ifs with hmem
  · rfl
  · by_contra hlive
    obtain ⟨host', hhost', hmem'⟩ := h.live identifier fun hnone =>
      hlive (Option.map_eq_none_iff.mp hnone)
    rw [hcreator] at hhost'
    cases hhost'
    exact hmem hmem'

lemma timeout_keeps {env : Environment} {events : List ServerEvent} {s : ServerState}
    (h : Tracks env events s) {identifier : Text} {host : Address}
    (hcreator : creator identifier events ≠ some host) :
    (s.handleTimeoutOfHost host).sessions.lookup identifier = s.sessions.lookup identifier := by
  obtain ⟨hlookup, -⟩ := handleTimeoutOfHost_spec s host
  rw [hlookup, if_neg fun hmem => hcreator (h.index host identifier hmem)]

/-- After every run in which no identifier is drawn twice, with any number of workers, a timeout
of a host that a worker is about to handle does what it should exactly if no session that is
entered under the host has a running sender. -/
theorem times_out_host_iff (env : Environment) {events : List ServerEvent}
    (hfresh : FreshIdentifiers events) {t : Threads}
    (hrun : (serverSystem env).run {} events = some t.server) (hfree : t.MutexFree) {w : ℕ}
    {host : Address} (hw : t.workers[w]? = some (.locking (.timeout host))) :
    TimesOutHost env events t w host ↔ HostStopped t.server host := by
  have htracks := tracks_run env hfresh hrun
  constructor
  · intro h
    exact Threads.hostStopped_of_alwaysReaches hfree hw h.returns
  · intro hstopped
    exact
      { returns := Threads.alwaysReaches_idle hfree hw hstopped
        handled := fun s hs hidle => Threads.returned_handledBy hfree hw hs hidle
        deleted := fun _ hcreator => timeout_deletes htracks hcreator
        kept := fun _ hcreator => timeout_keeps htracks hcreator
        entries := (handleTimeoutOfHost_spec t.server host).2 }

lemma mutexFree_locking (server : ServerState) (task : ServerTask) :
    Threads.MutexFree ⟨server, [.locking task], []⟩ := by
  intro worker hworker
  rw [List.mem_singleton.mp hworker]
  rfl

/-- The only worker times out the host of a session that has not been played. -/
theorem times_out_host_setup :
    ∃ s ∈ (serverSystem emptyRoot).run {}
        [.request { identifier := str "a" } setupMovie default],
      s.sessions ≠ ∅ ∧ TimesOutHost emptyRoot
        [.request { identifier := str "a" } setupMovie default]
        ⟨s, [.locking (.timeout default)], []⟩ 0 default := by
  obtain ⟨s, hrun, hlive, hstopped⟩ : ∃ s ∈ (serverSystem emptyRoot).run {}
      [.request { identifier := str "a" } setupMovie default],
      str "a" ∈ s.sessions ∧ HostStopped s default := by
    decide
  refine ⟨s, hrun, fun hempty => ?_, ?_⟩
  · rw [hempty] at hlive
    exact Finmap.notMem_empty hlive
  · exact (times_out_host_iff emptyRoot (by decide) hrun (mutexFree_locking _ _) rfl).mpr
      hstopped

/-- A session is set up and played. -/
def playEvents : List ServerEvent :=
  [.request { identifier := str "a" } setupMovie default, .request {} playMovie default]

/-- The only worker cannot return from the timeout of the host of a session that is played. -/
theorem times_out_host_not :
    FreshIdentifiers playEvents ∧
      ∃ s ∈ (serverSystem emptyRoot).run {} playEvents,
        (threadSystem emptyRoot 1).Reachable Always ⟨s, [.locking (.timeout default)], []⟩ ∧
          ¬TimesOutHost emptyRoot playEvents ⟨s, [.locking (.timeout default)], []⟩ 0 default := by
  obtain ⟨s, hrun, hrunning⟩ : ∃ s ∈ (serverSystem emptyRoot).run {} playEvents,
      ¬HostStopped s default := by
    decide
  have hplayed : (threadSystem emptyRoot 1).Reachable Always ⟨s, [.idle], []⟩ :=
    reachable_serve (.init rfl) (by decide) hrun
  have hlocks : (ServerTask.timeout default).Locks := trivial
  refine ⟨by decide, s, hrun, reachable_take [] hplayed hlocks, fun h => hrunning ?_⟩
  exact Threads.hostStopped_of_alwaysReaches (mutexFree_locking _ _) rfl h.returns

end Rtsp
