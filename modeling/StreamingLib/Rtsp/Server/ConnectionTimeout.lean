import StreamingLib.Rtsp.Server.Connection
import StreamingLib.Rtsp.Server.SessionIndex

/-!
# Connections and timeouts

The timer of `rtsp_server::tcp_connection`. A connection that has been silent for longer than the
period times out its host, and with it all sessions the host has set up, whatever its other
connections do. A host that is never timed out keeps its sessions until they are torn down.
-/

namespace Rtsp

open Peg Transition

/-! ### The life of a session -/

section Life

variable {env : Environment} {events before after : List ServerEvent} {s s' : ServerState}
  {event : ServerEvent} {identifier : Text} {host : Address}

lemma creator_of_created (hfresh : FreshIdentifiers (before ++ event :: after))
    (hcreated : event.created = some (identifier, host)) :
    creator identifier (before ++ event :: after) = some host := by
  have hbefore : FreshIdentifiers (before ++ [event]) := by
    rw [List.append_cons] at hfresh
    exact hfresh.of_before (List.prefix_append _ _)
  have hnone := hbefore.creator_eq_none hcreated
  rw [creator] at hnone ⊢
  rw [List.filterMap_append, List.lookup_append, hnone, Option.none_or,
    List.filterMap_cons_some hcreated, List.lookup_cons_self]

/-- A step after the creation of a session keeps it unless it is torn down or its host times
out. -/
lemma mem_sessions_step_iff (htracks : Tracks env events s) (hcreator : creator identifier events =
    some host) (hfresh : FreshIdentifiers (events ++ [event])) (hlast : s.step env event = some s')
    (hstep : TablesStep s s' event) :
    identifier ∈ s'.sessions ↔
      identifier ∈ s.sessions ∧ event.tornDown ≠ some identifier ∧ event ≠ .timeout host := by
  rw [← stateOf_ne_none_iff, ← stateOf_ne_none_iff]
  by_cases htimeout : ∃ host', event = .timeout host'
  · obtain ⟨host', rfl⟩ := htimeout
    cases hlast
    rw [handleTimeoutOfHost_stateOf]
    constructor
    · intro h
      have hmem : (host', identifier) ∉ s.sessionsByHost := fun hmem => h (if_pos hmem)
      rw [if_neg hmem] at h
      refine ⟨h, nofun, ?_⟩
      rintro ⟨⟩
      obtain ⟨host'', hhost, hindex⟩ := htracks.live identifier h
      rw [hcreator] at hhost
      cases hhost
      exact hmem hindex
    · rintro ⟨hlive, -, hne⟩
      rw [if_neg]
      · exact hlive
      · intro hmem
        apply hne
        have hhost := htracks.index host' identifier hmem
        rw [hcreator] at hhost
        cases hhost
        rfl
  · have hne : event ≠ .timeout host := fun h => htimeout ⟨host, h⟩
    cases hstep with
    | created created host' state hcreated htorn hstate hindex =>
      have hother : identifier ≠ created := by
        rintro rfl
        rw [hfresh.creator_eq_none hcreated] at hcreator
        cases hcreator
      rw [hstate, Function.update_of_ne hother, htorn]
      exact ⟨fun h => ⟨h, nofun, hne⟩, fun h => h.1⟩
    | deleted named hcreated htorn hstate hindex =>
      rw [hstate, htorn]
      by_cases hid : identifier = named
      · subst hid
        rw [Function.update_self]
        exact iff_of_false (absurd rfl) fun h => h.2.1 rfl
      · rw [Function.update_of_ne hid]
        exact ⟨fun h => ⟨h, fun heq => hid (Option.some.inj heq).symm, hne⟩, fun h => h.1⟩
    | timedOut host' hevent hstate hindex => exact absurd ⟨host', hevent⟩ htimeout
    | kept hcreated htorn hstate hindex =>
      rw [Ne, hstate, htorn]
      exact ⟨fun h => ⟨h, nofun, hne⟩, fun h => h.1⟩

/-- A session is live from the SETUP that creates it to the first TEARDOWN that names it or the
first timeout of its host. -/
lemma mem_sessions_iff (hfresh : FreshIdentifiers (before ++ event :: after))
    (hrun : (serverSystem env).run {} (before ++ event :: after) = some s)
    (hcreated : event.created = some (identifier, host)) :
    identifier ∈ s.sessions ↔
      ∀ e ∈ after, e.tornDown ≠ some identifier ∧ e ≠ .timeout host := by
  induction after using List.reverseRecOn generalizing s with
  | nil =>
    refine iff_of_true ?_ (fun e he => absurd he List.not_mem_nil)
    refine fresh_run_induction (I := fun events s => events = before ++ [event] →
      identifier ∈ s.sessions) hfresh hrun ?_ ?_ rfl
    · intro hnil
      cases before <;> cases hnil
    · rintro events last s s' - - - - hstep - hlast
      obtain ⟨rfl, heq⟩ := List.append_inj' hlast rfl
      cases heq
      cases hstep with
      | created created host' state hcreated' htorn hstate hindex =>
        rw [hcreated] at hcreated'
        cases hcreated'
        rw [← stateOf_ne_none_iff, hstate, Function.update_self]
        exact Option.some_ne_none state
      | deleted named hcreated' htorn hstate hindex =>
        rw [hcreated] at hcreated'
        cases hcreated'
      | timedOut host' hevent hstate hindex =>
        rw [hevent] at hcreated
        cases hcreated
      | kept hcreated' htorn hstate hindex =>
        rw [hcreated] at hcreated'
        cases hcreated'
  | append_singleton after last ih =>
    rw [← List.cons_append, ← List.append_assoc] at hfresh hrun
    have hprefix := hfresh.of_concat
    refine fresh_run_induction (I := fun events s => events = before ++ event :: after ++ [last] →
      (identifier ∈ s.sessions ↔ ∀ e ∈ after ++ [last], e.tornDown ≠ some identifier ∧
        e ≠ .timeout host)) hfresh hrun ?_ ?_ rfl
    · intro hnil
      simp at hnil
    · rintro events e s s' htracks hfresh hbefore hlast hstep - heq
      obtain ⟨rfl, hone⟩ := List.append_inj' heq rfl
      cases hone
      rw [mem_sessions_step_iff htracks (creator_of_created hprefix hcreated) hfresh hlast hstep,
        ih hprefix hbefore, List.forall_mem_append, List.forall_mem_singleton]

end Life

/-! ### The timer -/

/-- `timeout_period_`, in the nanoseconds of the steady clock. -/
def timeoutPeriod : ℕ := 240 * 10 ^ 9

/-- What the timer of a connection is at. -/
inductive TimeoutTimer
  /-- `async_wait` up to the expiry. -/
  | waiting (expiry : ℕ)
  /-- `timeout_check` has called `handle_timeout_of_host`. -/
  | timingOut (since : ℕ)
  /-- The socket is closed, or `timeout_check` has ended by an exception. -/
  | ended
deriving DecidableEq

structure TimedConnection where
  remoteAddress : Address
  lastRequestTimePoint : ℕ
  timeoutTimer : TimeoutTimer
  /-- Whether an `async_read_until` is outstanding. -/
  reading : Bool := true
  /-- Whether `remote_endpoint` has an answer. -/
  connected : Bool := true
deriving DecidableEq

namespace TimedConnection

/-- `start`. -/
def start (remoteAddress : Address) (now : ℕ) : TimedConnection where
  remoteAddress := remoteAddress
  lastRequestTimePoint := now
  timeoutTimer := .waiting (now + timeoutPeriod)

/-- `header_read` of something that is answered or throws. -/
def headerRead (c : TimedConnection) (now : ℕ) (answered : Bool) : TimedConnection :=
  { c with
    lastRequestTimePoint := now
    reading := answered }

/-- `header_read` at the end of the stream or after a reset. -/
def disconnect (c : TimedConnection) (reset : Bool) : TimedConnection :=
  { c with
    reading := false
    connected := c.connected && !reset }

/-- `timeout_check`, up to the call of `handle_timeout_of_host`. -/
def timeoutCheck (c : TimedConnection) (now expiry : ℕ) : TimedConnection :=
  { c with
    timeoutTimer :=
      if c.lastRequestTimePoint + timeoutPeriod < now then
        -- `remote_endpoint` throws for a socket that has been reset
        if c.connected then .timingOut now else .ended
      else .waiting (expiry + timeoutPeriod) }

section TimeoutCheck

variable {c : TimedConnection} {now : ℕ} (expiry : ℕ)

lemma timeoutCheck_remoteAddress :
    (c.timeoutCheck now expiry).remoteAddress = c.remoteAddress := by
  rw [timeoutCheck]

lemma timeoutCheck_lastRequestTimePoint :
    (c.timeoutCheck now expiry).lastRequestTimePoint = c.lastRequestTimePoint := by
  rw [timeoutCheck]

lemma timeoutCheck_connected : (c.timeoutCheck now expiry).connected = c.connected := by
  rw [timeoutCheck]

lemma timeoutCheck_heard (h : now ≤ c.lastRequestTimePoint + timeoutPeriod) :
    (c.timeoutCheck now expiry).timeoutTimer = .waiting (expiry + timeoutPeriod) :=
  if_neg (not_lt_of_ge h)

lemma timeoutCheck_silent (h : c.lastRequestTimePoint + timeoutPeriod < now)
    (hconnected : c.connected = true) :
    (c.timeoutCheck now expiry).timeoutTimer = .timingOut now := by
  rw [timeoutCheck, if_pos h, if_pos hconnected]

lemma timeoutCheck_reset (h : c.lastRequestTimePoint + timeoutPeriod < now)
    (hconnected : c.connected = false) :
    (c.timeoutCheck now expiry).timeoutTimer = .ended := by
  rw [timeoutCheck, if_pos h, if_neg (Bool.eq_false_iff.mp hconnected)]

/-- Only a connection that has been reset loses its timer. -/
lemma timeoutCheck_open (hconnected : c.connected = true) :
    (c.timeoutCheck now expiry).timeoutTimer ≠ .ended := by
  rcases le_or_gt now (c.lastRequestTimePoint + timeoutPeriod) with hheard | hsilent
  · rw [timeoutCheck_heard expiry hheard]
    exact nofun
  · rw [timeoutCheck_silent expiry hsilent hconnected]
    exact nofun

end TimeoutCheck

/-- The socket is closed after `handle_timeout_of_host`. -/
def close (c : TimedConnection) : TimedConnection := { c with timeoutTimer := .ended }

end TimedConnection

/-! ### The server with its connections -/

structure TimedServer where
  now : ℕ := 0
  server : ServerState := {}
  connections : List TimedConnection := []
  /-- What has happened to the server so far. -/
  handled : List ServerEvent := []

inductive TimedEvent
  | tick (elapsed : ℕ)
  | accept (remoteAddress : Address)
  /-- `header_read` of a connection, with what its stream buffer holds. -/
  | headerRead (i : ℕ) (draws : Draws) (text : Text)
  | disconnect (i : ℕ) (reset : Bool)
  | timeoutCheck (i : ℕ)
  /-- `handle_timeout_of_host` is done for a connection. -/
  | handleTimeoutOfHost (i : ℕ)
  /-- `handle_new_incoming_message` over UDP. -/
  | datagram (draws : Draws) (message : Text) (requester : Address)
  | sender (identifier : Text) (event : Rtp.SenderEvent)

namespace TimedServer

def setConnection (s : TimedServer) (i : ℕ) (c : TimedConnection) : TimedServer :=
  { s with connections := s.connections.set i c }

/-- An event of the server. -/
def serve (env : Environment) (s : TimedServer) (event : ServerEvent) : Option TimedServer :=
  (s.server.step env event).map fun server =>
    { s with
      server := server
      handled := s.handled ++ [event] }

/-- The request that a text holds, if it parses, is handled. -/
def serveText (env : Environment) (s : TimedServer) (draws : Draws) (text : Text)
    (requester : Address) : Option TimedServer :=
  if (parseRequest text).ok then
    s.serve env (.request draws (parseRequest text).attr requester)
  else some s

def step (env : Environment) (s : TimedServer) : TimedEvent → Option TimedServer
  | .tick elapsed => some { s with now := s.now + elapsed }
  | .accept remoteAddress =>
    some { s with connections := s.connections ++ [.start remoteAddress s.now] }
  | .headerRead i draws text =>
    s.connections[i]?.bind fun c =>
      if c.reading = true ∧ c.timeoutTimer ≠ .ended then
        (s.serveText env draws text c.remoteAddress).map fun s' =>
          s'.setConnection i
            (c.headerRead s.now (answer env draws c.remoteAddress s.server text).2.isOk)
      else none
  | .disconnect i reset =>
    s.connections[i]?.map fun c => s.setConnection i (c.disconnect reset)
  | .timeoutCheck i =>
    s.connections[i]?.bind fun c =>
      match c.timeoutTimer with
      | .waiting expiry =>
        if expiry ≤ s.now then some (s.setConnection i (c.timeoutCheck s.now expiry)) else none
      | .timingOut _ | .ended => none
  | .handleTimeoutOfHost i =>
    s.connections[i]?.bind fun c =>
      match c.timeoutTimer with
      | .timingOut _ =>
        (s.serve env (.timeout c.remoteAddress)).map fun s' => s'.setConnection i c.close
      | .waiting _ | .ended => none
  | .datagram draws message requester => s.serveText env draws message requester
  | .sender identifier event => s.serve env (.sender identifier event)

end TimedServer

/-- The server from its start, with no connection. -/
def timedSystem (env : Environment) : System TimedServer TimedEvent where
  init s := s = {}
  step := TimedServer.step env

/-! ### Steps -/

/-- What a step of the server does to its tables. -/
structure Serves (env : Environment) (s s' : TimedServer) (event : ServerEvent) : Prop where
  now : s'.now = s.now
  connections : s'.connections = s.connections
  server : s.server.step env event = some s'.server
  handled : s'.handled = s.handled ++ [event]

/-- A text is handled if it parses. -/
inductive ServesText (env : Environment) (s : TimedServer) (draws : Draws) (text : Text)
    (requester : Address) : TimedServer → Prop
  | ignored : ServesText env s draws text requester s
  | served {s' : TimedServer} (hok : (parseRequest text).ok = true)
      (h : Serves env s s' (.request draws (parseRequest text).attr requester)) :
      ServesText env s draws text requester s'

/-- What an event does. -/
inductive TimedStep (env : Environment) (s : TimedServer) : TimedEvent → TimedServer → Prop
  | tick (elapsed : ℕ) : TimedStep env s (.tick elapsed) { s with now := s.now + elapsed }
  | accept (remoteAddress : Address) : TimedStep env s (.accept remoteAddress)
      { s with connections := s.connections ++ [.start remoteAddress s.now] }
  | headerRead {s' : TimedServer} {i : ℕ} {c : TimedConnection} {draws : Draws} {text : Text}
      (answered : Bool) (hc : s.connections[i]? = some c) (hopen : c.timeoutTimer ≠ .ended)
      (h : ServesText env s draws text c.remoteAddress s') :
      TimedStep env s (.headerRead i draws text)
        (s'.setConnection i (c.headerRead s.now answered))
  | disconnect {i : ℕ} {c : TimedConnection} (reset : Bool) (hc : s.connections[i]? = some c) :
      TimedStep env s (.disconnect i reset) (s.setConnection i (c.disconnect reset))
  | timeoutCheck {i expiry : ℕ} {c : TimedConnection} (hc : s.connections[i]? = some c)
      (htimer : c.timeoutTimer = .waiting expiry) (hdue : expiry ≤ s.now) :
      TimedStep env s (.timeoutCheck i) (s.setConnection i (c.timeoutCheck s.now expiry))
  | timedOut {s' : TimedServer} {i since : ℕ} {c : TimedConnection}
      (hc : s.connections[i]? = some c) (htimer : c.timeoutTimer = .timingOut since)
      (h : Serves env s s' (.timeout c.remoteAddress)) :
      TimedStep env s (.handleTimeoutOfHost i) (s'.setConnection i c.close)
  | datagram {s' : TimedServer} {draws : Draws} {message : Text} {requester : Address}
      (h : ServesText env s draws message requester s') :
      TimedStep env s (.datagram draws message requester) s'
  | sender {s' : TimedServer} {identifier : Text} {event : Rtp.SenderEvent}
      (h : Serves env s s' (.sender identifier event)) :
      TimedStep env s (.sender identifier event) s'

section Step

variable {env : Environment} {s s' : TimedServer} {event : TimedEvent}

lemma Serves.of_serve {serverEvent : ServerEvent} (h : s.serve env serverEvent = some s') :
    Serves env s s' serverEvent := by
  obtain ⟨server, hserver, rfl⟩ := Option.map_eq_some_iff.mp h
  exact ⟨rfl, rfl, hserver, rfl⟩

lemma ServesText.of_serveText {draws : Draws} {text : Text} {requester : Address}
    (h : s.serveText env draws text requester = some s') :
    ServesText env s draws text requester s' := by
  unfold TimedServer.serveText at h
  split_ifs at h with hok
  · exact .served hok (.of_serve h)
  · cases h
    exact .ignored

lemma TimedStep.of_step (h : s.step env event = some s') : TimedStep env s event s' := by
  cases event with
  | tick elapsed =>
    cases h
    exact .tick elapsed
  | accept remoteAddress =>
    cases h
    exact .accept remoteAddress
  | headerRead i draws text =>
    obtain ⟨c, hc, h⟩ := Option.bind_eq_some_iff.mp h
    split_ifs at h with hopen
    obtain ⟨s₁, hserve, rfl⟩ := Option.map_eq_some_iff.mp h
    exact .headerRead _ hc hopen.2 (.of_serveText hserve)
  | disconnect i reset =>
    obtain ⟨c, hc, rfl⟩ := Option.map_eq_some_iff.mp h
    exact .disconnect reset hc
  | timeoutCheck i =>
    obtain ⟨c, hc, h⟩ := Option.bind_eq_some_iff.mp h
    cases htimer : c.timeoutTimer with
    | waiting expiry =>
      rw [htimer] at h
      dsimp only at h
      split_ifs at h with hdue
      cases h
      exact .timeoutCheck hc htimer hdue
    | timingOut since =>
      rw [htimer] at h
      cases h
    | ended =>
      rw [htimer] at h
      cases h
  | handleTimeoutOfHost i =>
    obtain ⟨c, hc, h⟩ := Option.bind_eq_some_iff.mp h
    cases htimer : c.timeoutTimer with
    | waiting expiry =>
      rw [htimer] at h
      cases h
    | timingOut since =>
      rw [htimer] at h
      obtain ⟨s₁, hserve, rfl⟩ := Option.map_eq_some_iff.mp h
      exact .timedOut hc htimer (.of_serve hserve)
    | ended =>
      rw [htimer] at h
      cases h
  | datagram draws message requester => exact .datagram (.of_serveText h)
  | sender identifier event => exact .sender (.of_serve h)

lemma mem_setConnection {i : ℕ} {c c' : TimedConnection}
    (h : c' ∈ (s.setConnection i c).connections) : c' ∈ s.connections ∨ c' = c :=
  List.mem_or_eq_of_mem_set h

lemma ServesText.now {draws : Draws} {text : Text} {requester : Address}
    (h : ServesText env s draws text requester s') : s'.now = s.now := by
  cases h with
  | ignored => rfl
  | served hok h => exact h.now

lemma ServesText.connections {draws : Draws} {text : Text} {requester : Address}
    (h : ServesText env s draws text requester s') : s'.connections = s.connections := by
  cases h with
  | ignored => rfl
  | served hok h => exact h.connections

/-! ### What has happened to the server -/

/-- The server is where its events have led. -/
def TimedServer.Recorded (env : Environment) (s : TimedServer) : Prop :=
  (serverSystem env).run {} s.handled = some s.server

lemma Serves.recorded {serverEvent : ServerEvent} (hserves : Serves env s s' serverEvent)
    (h : s.Recorded env) : s'.Recorded env := by
  rw [TimedServer.Recorded] at h ⊢
  rw [hserves.handled, System.run_concat, h]
  exact hserves.server

lemma ServesText.recorded {draws : Draws} {text : Text} {requester : Address}
    (hserves : ServesText env s draws text requester s') (h : s.Recorded env) :
    s'.Recorded env := by
  cases hserves with
  | ignored => exact h
  | served hok hserves => exact hserves.recorded h

lemma TimedStep.recorded (hstep : TimedStep env s event s') (h : s.Recorded env) :
    s'.Recorded env := by
  cases hstep with
  | tick elapsed => exact h
  | accept remoteAddress => exact h
  | headerRead answered hc hopen hserves => exact hserves.recorded h
  | disconnect reset hc => exact h
  | timeoutCheck hc htimer hdue => exact h
  | timedOut hc htimer hserves => exact hserves.recorded h
  | datagram hserves => exact hserves.recorded h
  | sender hserves => exact hserves.recorded h

lemma recorded_of_reachable {ok : TimedServer → TimedEvent → Prop}
    (hs : (timedSystem env).Reachable ok s) : s.Recorded env := by
  apply hs.invariant
  · rintro s rfl
    rfl
  · intro s event s' h _ hstep
    exact (TimedStep.of_step hstep).recorded h

end Step

/-! ### Hosts that stay active -/

section Active

variable {env : Environment} {s s' : TimedServer} {event : TimedEvent} {host : Address}

/-- Each connection of the host with a running timer has sent a request within the period, unless
it has been reset. -/
def HostActive (host : Address) (s : TimedServer) (_ : TimedEvent) : Prop :=
  ∀ c ∈ s.connections, c.remoteAddress = host → c.connected = true →
    c.timeoutTimer ≠ .ended → s.now ≤ c.lastRequestTimePoint + timeoutPeriod

instance (host : Address) (s : TimedServer) (event : TimedEvent) :
    Decidable (HostActive host s event) :=
  inferInstanceAs (Decidable (∀ _ ∈ _, _ → _ → _ → _))

/-- The host has not been timed out and is not about to be. -/
structure NotTimedOut (host : Address) (s : TimedServer) : Prop where
  handled : ServerEvent.timeout host ∉ s.handled
  connections : ∀ c ∈ s.connections, c.remoteAddress = host →
    ∀ since, c.timeoutTimer ≠ .timingOut since

lemma NotTimedOut.serves {serverEvent : ServerEvent} (h : NotTimedOut host s)
    (hserves : Serves env s s' serverEvent) (hne : serverEvent ≠ .timeout host) :
    NotTimedOut host s' := by
  refine ⟨?_, ?_⟩
  · rw [hserves.handled, List.mem_append, List.mem_singleton]
    exact fun hmem => hmem.elim h.handled fun heq => hne heq.symm
  · rw [hserves.connections]
    exact h.connections

lemma NotTimedOut.servesText {draws : Draws} {text : Text} {requester : Address}
    (h : NotTimedOut host s) (hserves : ServesText env s draws text requester s') :
    NotTimedOut host s' := by
  cases hserves with
  | ignored => exact h
  | served hok hserves => exact h.serves hserves nofun

lemma NotTimedOut.setConnection {i : ℕ} {c : TimedConnection} (h : NotTimedOut host s)
    (hc : c.remoteAddress = host → ∀ since, c.timeoutTimer ≠ .timingOut since) :
    NotTimedOut host (s.setConnection i c) := by
  refine ⟨h.handled, fun c' hmem => ?_⟩
  rcases mem_setConnection hmem with hmem | rfl
  · exact h.connections c' hmem
  · exact hc

/-- Only a connection of the host that has been silent could time it out. -/
lemma NotTimedOut.step (h : NotTimedOut host s) (hactive : HostActive host s event)
    (hstep : TimedStep env s event s') : NotTimedOut host s' := by
  cases hstep with
  | tick elapsed => exact ⟨h.handled, h.connections⟩
  | accept remoteAddress =>
    refine ⟨h.handled, fun c hmem => ?_⟩
    rcases List.mem_append.mp hmem with hmem | hmem
    · exact h.connections c hmem
    · rw [List.mem_singleton.mp hmem]
      simp [TimedConnection.start]
  | @headerRead s₁ i c draws text answered hc hopen hserves =>
    exact (h.servesText hserves).setConnection (h.connections c (List.mem_of_getElem? hc))
  | @disconnect i c reset hc =>
    exact h.setConnection (h.connections c (List.mem_of_getElem? hc))
  | @timeoutCheck i expiry c hc htimer hdue =>
    refine h.setConnection fun hhost since hsince => ?_
    rw [TimedConnection.timeoutCheck_remoteAddress] at hhost
    have hmem := List.mem_of_getElem? hc
    have hopen : c.timeoutTimer ≠ .ended := by
      rw [htimer]
      exact nofun
    rcases le_or_gt s.now (c.lastRequestTimePoint + timeoutPeriod) with hheard | hsilent
    · rw [TimedConnection.timeoutCheck_heard expiry hheard] at hsince
      cases hsince
    · cases hconnected : c.connected with
      | false =>
        rw [TimedConnection.timeoutCheck_reset expiry hsilent hconnected] at hsince
        cases hsince
      | true => exact absurd (hactive c hmem hhost hconnected hopen) (not_le_of_gt hsilent)
  | @timedOut s₁ i since c hc htimer hserves =>
    have hne : c.remoteAddress ≠ host := fun hhost =>
      h.connections c (List.mem_of_getElem? hc) hhost since htimer
    have hevent : ServerEvent.timeout c.remoteAddress ≠ .timeout host := by
      rintro ⟨⟩
      exact hne rfl
    exact (h.serves hserves hevent).setConnection fun hhost => absurd hhost hne
  | datagram hserves => exact h.servesText hserves
  | sender hserves => exact h.serves hserves nofun

/-- In every run in which each connection of a host sends a request within every 240 s or is
reset, a session that the host has set up is live exactly until it is torn down. -/
theorem active_host_keeps_session
    (hs : (timedSystem env).Reachable (HostActive host) s) (hfresh : FreshIdentifiers s.handled)
    {before after : List ServerEvent} {created : ServerEvent} {identifier : Text}
    (hsplit : s.handled = before ++ created :: after)
    (hcreated : created.created = some (identifier, host)) :
    identifier ∈ s.server.sessions ↔ ∀ e ∈ after, e.tornDown ≠ some identifier := by
  have hnot : NotTimedOut host s := by
    apply hs.invariant
    · rintro s rfl
      exact ⟨List.not_mem_nil, fun c hmem => absurd hmem List.not_mem_nil⟩
    · intro s event s' h hactive hstep
      exact h.step hactive (.of_step hstep)
  have hrun := recorded_of_reachable hs
  rw [TimedServer.Recorded, hsplit] at hrun
  rw [hsplit] at hfresh
  rw [mem_sessions_iff hfresh hrun hcreated]
  refine forall₂_congr fun e he => and_iff_left ?_
  rintro rfl
  apply hnot.handled
  rw [hsplit]
  exact List.mem_append_right _ (List.mem_cons_of_mem _ he)

/-- A SETUP and an OPTIONS over one connection, the period apart. -/
def activeEvents : List TimedEvent :=
  [.accept default, .headerRead 0 { identifier := str "a" } setupBlock, .tick timeoutPeriod,
    .timeoutCheck 0, .headerRead 0 {} optionsBlock, .tick timeoutPeriod, .timeoutCheck 0]

theorem active_host_keeps_session_movie :
    ∃ s ∈ (timedSystem emptyRoot).run {} activeEvents,
      s.now = 2 * timeoutPeriod ∧ str "a" ∈ s.server.sessions := by
  obtain ⟨s, hrun, hnow, hfresh, created, hhead, hcreated, htail⟩ :
      ∃ s ∈ (timedSystem emptyRoot).run {} activeEvents, s.now = 2 * timeoutPeriod ∧
        FreshIdentifiers s.handled ∧ ∃ created ∈ s.handled.head?,
          created.created = some (str "a", default) ∧
            ∀ e ∈ s.handled.tail, e.tornDown ≠ some (str "a") := by
    decide +kernel
  have hinit : (timedSystem emptyRoot).Reachable (HostActive default) {} := .init rfl
  have hactive : (timedSystem emptyRoot).Meets (HostActive default) {} activeEvents := by
    decide +kernel
  have hs := hinit.run hactive hrun
  have hsplit : s.handled = [] ++ created :: s.handled.tail := by
    rw [List.nil_append]
    exact List.eq_cons_of_mem_head? hhead
  exact ⟨s, hrun, hnow, (active_host_keeps_session hs hfresh hsplit hcreated).mpr htail⟩

end Active

end Rtsp
