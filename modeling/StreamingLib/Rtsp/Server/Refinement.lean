import StreamingLib.Rtsp.Server.Atomicity
import StreamingLib.Rtsp.Server.Faults
import StreamingLib.Rtsp.Server.HostIndex
import StreamingLib.Rtsp.Server.Workers

/-!
# One machine for each session

The server answers PLAY, PAUSE and TEARDOWN on a session as a machine does that only sees the SETUP
that created the session, the requests that name it and the timeouts of its host.
-/

namespace Rtsp

open Transition

/-- The methods that name a session. -/
inductive SessionMethod
  | play
  | pause
  | teardown
deriving DecidableEq

namespace SessionMethod

def name : SessionMethod → Text
  | .play => str "PLAY"
  | .pause => str "PAUSE"
  | .teardown => str "TEARDOWN"

def implementation : SessionMethod → MethodImplementation
  | .play => Rtsp.play
  | .pause => Rtsp.pause
  | .teardown => Rtsp.teardown

def all : List SessionMethod := [.play, .pause, .teardown]

end SessionMethod

/-- A request with a CSeq for a method on the session. -/
def Request.Names (request : Request) (method : SessionMethod) (identifier : Text) : Prop :=
  ((normalizeHeaders request.headers).lookup (str "cseq")).getD [] ≠ [] ∧
    request.methodOrExtension = method.name ∧
    (normalizeHeaders request.headers).lookup (str "session") = some identifier

instance (request : Request) (method : SessionMethod) (identifier : Text) :
    Decidable (request.Names method identifier) := inferInstanceAs (Decidable (_ ∧ _ ∧ _))

/-! ### The reference machine -/

/-- What concerns one session. -/
inductive SessionCommand
  /-- The SETUP that created it, and whether it was answered with 200. -/
  | created (answered : Bool)
  | request (method : SessionMethod)
  /-- Its host timed out. -/
  | timeout
deriving DecidableEq

namespace Reference

/-- The state of the machine, `none` for an absent session. -/
def step : Option SessionState → SessionCommand → Option SessionState
  | _, .created true => some .ready
  | _, .created false => some .init
  | some .ready, .request .play => some .playing
  | some .playing, .request .pause => some .ready
  | _, .request .teardown => none
  | _, .timeout => none
  | s, .request _ => s

/-- The status of the response. -/
def status : Option SessionState → SessionMethod → ℕ
  | none, _ => 454
  | some .ready, .play => 200
  | some .playing, .play => 200
  | some _, .play => 455
  | some .playing, .pause => 200
  | some _, .pause => 455
  | some _, .teardown => 200

def run (commands : List SessionCommand) : Option SessionState := commands.foldl step none

end Reference

/-! ### What concerns a session -/

/-- The identifier of the session that an event creates, with its host. -/
def ServerEvent.created : ServerEvent → Option (Text × Address)
  | .request draws message requester =>
    if CreatesSession message then some (draws.identifier, requester) else none
  | .timeout _ => none
  | .sender _ _ => none

/-- The host that set up the session. -/
def creator (identifier : Text) (events : List ServerEvent) : Option Address :=
  (events.filterMap (·.created)).lookup identifier

/-- An event of a run, and what the server answered if it was a request. -/
structure Exchange where
  event : ServerEvent
  answer : Option (Except MethodFault Response)

/-- A response with status 200. -/
def Exchange.answered (x : Exchange) : Bool :=
  match x.answer with
  | some (.ok response) => response.statusCode = 200
  | _ => false

def ServerState.exchange (env : Environment) (s : ServerState) (event : ServerEvent) : Exchange :=
  { event := event
    answer := match event with
      | .request draws message requester =>
        some (s.handleIncomingRequest env draws message requester).2
      | .timeout _ => none
      | .sender _ _ => none }

/-- The events of a run with their answers. -/
def exchanges (env : Environment) : ServerState → List ServerEvent → List Exchange
  | _, [] => []
  | s, event :: events => s.exchange env event ::
    match s.step env event with
    | none => []
    | some s' => exchanges env s' events

/-- What a session sees of an exchange, if `host` set it up. -/
def Exchange.command (identifier : Text) (host : Option Address) (x : Exchange) :
    Option SessionCommand :=
  match x.event with
  | .request draws message _ =>
    if CreatesSession message ∧ draws.identifier = identifier then some (.created x.answered)
    else (SessionMethod.all.find? fun method => message.Names method identifier).map .request
  | .timeout h => if some h = host then some .timeout else none
  | .sender _ _ => none

/-- What a session sees of a run. -/
def commands (env : Environment) (identifier : Text) (events : List ServerEvent) :
    List SessionCommand :=
  (exchanges env {} events).filterMap (·.command identifier (creator identifier events))

/-- No identifier is drawn for two sessions. -/
def FreshIdentifiers (events : List ServerEvent) : Prop :=
  (events.filterMap (·.created)).Pairwise fun x y => x.1 ≠ y.1

instance (events : List ServerEvent) : Decidable (FreshIdentifiers events) :=
  inferInstanceAs (Decidable (List.Pairwise _ _))

/-- The state of a session, nothing if it is not live. -/
def ServerState.stateOf (s : ServerState) (identifier : Text) : Option SessionState :=
  (s.sessions.lookup identifier).map (·.sessionState)

/-- The status of the response to a request, if there is one. -/
def statusOf (answer : Except MethodFault Response) : Option ℕ :=
  match answer with
  | .ok response => some response.statusCode
  | .error _ => none

/-! ### Methods on a session -/

lemma stateOf_insert (s : ServerState) (identifier : Text) (session : ServerSession)
    (byHost : List (Address × Text)) :
    ServerState.stateOf ⟨s.sessions.insert identifier session, byHost⟩ =
      Function.update s.stateOf identifier (some session.sessionState) := by
  funext identifier'
  by_cases hid : identifier' = identifier
  · subst hid
    rw [Function.update_self, ServerState.stateOf, Finmap.lookup_insert]
    rfl
  · rw [Function.update_of_ne hid, ServerState.stateOf, Finmap.lookup_insert_of_ne _ hid]
    rfl

lemma stateOf_erase (s : ServerState) (identifier : Text) (byHost : List (Address × Text)) :
    ServerState.stateOf ⟨s.sessions.erase identifier, byHost⟩ =
      Function.update s.stateOf identifier none := by
  funext identifier'
  by_cases hid : identifier' = identifier
  · subst hid
    rw [Function.update_self, ServerState.stateOf, Finmap.lookup_erase]
    rfl
  · rw [Function.update_of_ne hid, ServerState.stateOf, Finmap.lookup_erase_ne hid]
    rfl

lemma handleTimeoutOfHost_stateOf (s : ServerState) (host : Address) (identifier : Text) :
    (s.handleTimeoutOfHost host).stateOf identifier =
      if (host, identifier) ∈ s.sessionsByHost then none else s.stateOf identifier := by
  rw [ServerState.stateOf, (handleTimeoutOfHost_spec s host).1]
  split_ifs
  · rfl
  · rfl

/-- A handler of a sender changes the state of no session. -/
lemma stepSender_stateOf {env : Environment} {s s' : ServerState} {identifier : Text}
    {event : Rtp.SenderEvent} (hstep : s.step env (.sender identifier event) = some s') :
    s'.stateOf = s.stateOf ∧ s'.sessionsByHost = s.sessionsByHost := by
  simp only [ServerState.step, Option.bind_eq_some_iff, Option.map_eq_some_iff] at hstep
  obtain ⟨session, hlookup, session', hsession, rfl⟩ := hstep
  have hkept : session'.sessionState = session.sessionState := by
    unfold ServerSession.stepSender at hsession
    split_ifs at hsession
    simp only [Option.bind_eq_some_iff, Option.map_eq_some_iff] at hsession
    obtain ⟨_, _, _, _, rfl⟩ := hsession
    rfl
  refine ⟨?_, rfl⟩
  rw [stateOf_insert, hkept, Function.update_eq_self_iff, ServerState.stateOf, hlookup]
  rfl

/-- A method answers as the reference machine does, and leaves the session in its state. -/
lemma SessionMethod.call_spec (method : SessionMethod) {session : ServerSession}
    (hs : session.HasSender) {request : InternalRequest}
    (hcseq : request.2.lookup (str "cseq") ≠ none) :
    ∃ response, (method.implementation session request).2 = .ok response ∧
      response.statusCode = Reference.status (some session.sessionState) method ∧
      (method ≠ .teardown → some (method.implementation session request).1.sessionState =
        Reference.step (some session.sessionState) (.request method)) := by
  obtain ⟨cseq, hcseq⟩ := Option.ne_none_iff_exists'.mp hcseq
  obtain ⟨response, hresponse, hstatus⟩ : ∃ response,
      commonResponseSkeleton session request = .ok response ∧ response.statusCode = 200 :=
    ⟨_, by rw [commonResponseSkeleton, hcseq], rfl⟩
  cases method with
  | play =>
    cases hstate : session.sessionState with
    | init => exact ⟨notValidInThisState response, by
        simp [SessionMethod.implementation, Rtsp.play, hresponse, hstate, notValidInThisState,
          Reference.status, Reference.step]⟩
    | ready =>
      obtain ⟨sender, hsender⟩ := Option.isSome_iff_exists.mp (hs.sender (Or.inl hstate))
      exact ⟨response, by
        simp [SessionMethod.implementation, Rtsp.play, hresponse, hstate, hsender, hstatus,
          Reference.status, Reference.step]⟩
    | playing => exact ⟨response, by
        simp [SessionMethod.implementation, Rtsp.play, hresponse, hstate, hstatus,
          Reference.status, Reference.step]⟩
    | recording => exact absurd hstate hs.notRecording
  | pause =>
    cases hstate : session.sessionState with
    | init => exact ⟨notValidInThisState response, by
        simp [SessionMethod.implementation, Rtsp.pause, hresponse, hstate, notValidInThisState,
          Reference.status, Reference.step]⟩
    | ready => exact ⟨notValidInThisState response, by
        simp [SessionMethod.implementation, Rtsp.pause, hresponse, hstate, notValidInThisState,
          Reference.status, Reference.step]⟩
    | playing =>
      obtain ⟨sender, hsender⟩ := Option.isSome_iff_exists.mp (hs.sender (Or.inr hstate))
      exact ⟨response, by
        simp [SessionMethod.implementation, Rtsp.pause, hresponse, hstate, hsender, hstatus,
          Reference.status, Reference.step]⟩
    | recording => exact absurd hstate hs.notRecording
  | teardown =>
    refine ⟨response, hresponse, ?_, fun h => absurd rfl h⟩
    rw [hstatus]
    cases session.sessionState <;> rfl

lemma handleMethod_spec {s : ServerState} (hs : s.All fun _ session => session.HasSender)
    (method : SessionMethod) (identifier cseq : Text) (request : InternalRequest)
    (requester : Address) (hname : request.1.methodOrExtension = method.name)
    (hcseq : request.2.lookup (str "cseq") ≠ none) :
    statusOf (s.handleMethod method.implementation identifier cseq request requester).2 =
        some (Reference.status (s.stateOf identifier) method) ∧
      (s.handleMethod method.implementation identifier cseq request requester).1.stateOf =
        Function.update s.stateOf identifier
          (Reference.step (s.stateOf identifier) (.request method)) ∧
      (s.handleMethod method.implementation identifier cseq request requester).1.sessionsByHost =
        s.sessionsByHost := by
  unfold ServerState.handleMethod
  cases hlookup : s.sessions.lookup identifier with
  | none =>
    have hstate : s.stateOf identifier = none := by rw [ServerState.stateOf, hlookup]; rfl
    rw [hstate]
    refine ⟨rfl, ?_, rfl⟩
    cases method <;> exact (Function.update_eq_self_iff.mpr hstate.symm).symm
  | some session =>
    have hstate : s.stateOf identifier = some session.sessionState := by
      rw [ServerState.stateOf, hlookup]
      rfl
    have hsession := hs _ _ hlookup
    obtain ⟨response, hresponse, hstatus, hstep⟩ := @SessionMethod.call_spec method
      { session with lastSeenRequestAddress := requester }
      ⟨hsession.sender, hsession.notRecording⟩ request hcseq
    dsimp only [ServerState.call]
    rw [hresponse, hstate]
    dsimp only
    by_cases hmethod : method = .teardown
    · subst hmethod
      have hteardown : request.1.methodOrExtension = str "TEARDOWN" := hname
      simp only [if_pos hteardown]
      refine ⟨congrArg some hstatus, ?_, rfl⟩
      rw [ServerState.deleteSession, stateOf_erase, stateOf_insert, Function.update_idem]
      cases session.sessionState <;> rfl
    · have hother : request.1.methodOrExtension ≠ str "TEARDOWN" := by
        rw [hname]
        cases method with
        | play => decide
        | pause => decide
        | teardown => exact absurd rfl hmethod
      simp only [if_neg hother]
      refine ⟨congrArg some hstatus, ?_, trivial⟩
      rw [stateOf_insert, hstep hmethod]

lemma Request.Names.cseq_ne_none {request : Request} {method : SessionMethod}
    {identifier : Text} (h : request.Names method identifier) :
    (normalizeHeaders request.headers).lookup (str "cseq") ≠ none := by
  intro hnone
  apply h.1
  rw [hnone]
  rfl

/-- A request that names a session is handled by its method. -/
lemma handleIncomingRequest_of_names (env : Environment) (s : ServerState) (draws : Draws)
    {request : Request} {method : SessionMethod} {identifier : Text} (requester : Address)
    (h : request.Names method identifier) :
    s.handleIncomingRequest env draws request requester =
      s.handleMethod method.implementation identifier
        (((normalizeHeaders request.headers).lookup (str "cseq")).getD [])
        (request, normalizeHeaders request.headers) requester := by
  obtain ⟨hcseq, hname, hsession⟩ := h
  have hother : ∀ name ∈ [str "OPTIONS", str "DESCRIBE", str "SETUP"],
      request.methodOrExtension ≠ name := by
    rw [hname]
    cases method <;> decide
  have hmethod : (methods env draws).lookup request.methodOrExtension =
      some method.implementation := by
    rw [hname]
    cases method <;> rfl
  have hsetup := hother (str "SETUP") (by simp)
  unfold ServerState.handleIncomingRequest
  dsimp only
  rw [if_neg hcseq, if_neg (hother (str "OPTIONS") (by simp)),
    if_neg (hother (str "DESCRIBE") (by simp)), if_neg fun h => hsetup h.1, if_neg hsetup]
  rw [hsession]
  dsimp only
  rw [hmethod]

/-! ### SETUP -/

/-- A SETUP that succeeds is answered with 200. -/
lemma setup_status {env : Environment} {draws : Draws} {session : ServerSession}
    {request : InternalRequest} {response : Response}
    (h : (setup env draws session request).2 = .ok response) (hsuccess : response.IsSuccess) :
    response.statusCode = 200 := by
  obtain ⟨skeleton, hskeleton, hcase⟩ := setup_response h
  rcases hcase with hchecks | ⟨options, chosen, source, clientPort, serverPort, ssrc, -, -, -, rfl⟩
  · exact absurd hsuccess (not_isSuccess (setupChecks_error hchecks).1)
  · unfold commonResponseSkeleton at hskeleton
    split at hskeleton
    · cases hskeleton
    · cases hskeleton
      rfl

/-- A new session is ready if its SETUP is answered with 200, and in state init if not. -/
lemma setup_spec (env : Environment) (draws : Draws) {session : ServerSession}
    (hinit : session.sessionState = .init) (request : InternalRequest) :
    (setup env draws session request).1.sessionState =
      if statusOf (setup env draws session request).2 = some 200 then .ready else .init := by
  rcases setup_cases env draws session request with
    ⟨hkept, hfail⟩ | ⟨ssrc, source, fecK, response, -, hsuccess, hsetup⟩
  · rw [hkept, hinit, if_neg]
    intro hstatus
    unfold statusOf at hstatus
    split at hstatus
    · next response hresponse =>
        have h200 : response.statusCode = 200 := Option.some.inj hstatus
        refine hfail response hresponse ⟨h200.ge, ?_⟩
        rw [h200]
        norm_num
    · cases hstatus
  · have hstatus : statusOf (setup env draws session request).2 = some 200 := by
      rw [hsetup]
      exact congrArg some (setup_status (congrArg Prod.snd hsetup) hsuccess)
    rw [if_pos hstatus, hsetup]

/-- A SETUP under a fresh identifier. -/
lemma handleSetup_spec (env : Environment) {s : ServerState} {draws : Draws} {request : Request}
    (hcreates : CreatesSession request) (hfresh : s.stateOf draws.identifier = none)
    (requester : Address) :
    (s.handleIncomingRequest env draws request requester).1.stateOf =
        Function.update s.stateOf draws.identifier (Reference.step none
          (.created ((s.exchange env (.request draws request requester)).answered))) ∧
      (s.handleIncomingRequest env draws request requester).1.sessionsByHost =
        s.sessionsByHost ++ [(requester, draws.identifier)] := by
  have hlookup : s.sessions.lookup draws.identifier = none := Option.map_eq_none_iff.mp hfresh
  have hmethod : (methods env draws).lookup request.methodOrExtension = some (setup env draws) := by
    rw [hcreates.2.1]
    rfl
  have hanswered : (s.exchange env (.request draws request requester)).answered =
      decide (statusOf (s.handleIncomingRequest env draws request requester).2 = some 200) := by
    simp only [Exchange.answered, ServerState.exchange, statusOf]
    cases (s.handleIncomingRequest env draws request requester).2 with
    | error fault => rfl
    | ok response => simp
  rw [hanswered, handleIncomingRequest_of_createsSession env s draws requester hcreates]
  simp only [ServerState.handleSetup, ServerState.emplaceSession, hlookup, Option.getD_none,
    hmethod, ServerState.call]
  refine ⟨?_, trivial⟩
  rw [Finmap.insert_insert, stateOf_insert, setup_spec env draws rfl]
  split_ifs with hstatus
  · rw [decide_eq_true hstatus]
    rfl
  · rw [decide_eq_false hstatus]
    rfl

/-! ### Simulation -/

lemma exchanges_concat (env : Environment) {s s' : ServerState} {events : List ServerEvent}
    (event : ServerEvent) (h : (serverSystem env).run s events = some s') :
    exchanges env s (events ++ [event]) = exchanges env s events ++ [s'.exchange env event] := by
  induction events generalizing s with
  | nil =>
    cases h
    simp only [List.nil_append, exchanges]
    cases s'.step env event <;> rfl
  | cons first events ih =>
    obtain ⟨t, ht, h⟩ := Option.bind_eq_some_iff.mp h
    have hstep : s.step env first = some t := ht
    simp only [List.cons_append, exchanges, hstep]
    rw [ih h]

lemma creator_concat (identifier : Text) (events : List ServerEvent) (event : ServerEvent) :
    creator identifier (events ++ [event]) =
      (creator identifier events).or (event.created.toList.lookup identifier) := by
  rw [creator, List.filterMap_append, List.lookup_append]
  cases h : event.created <;> simp [creator, h]

/-- The identifier of a last SETUP was not drawn before. -/
lemma FreshIdentifiers.creator_eq_none {events : List ServerEvent} {event : ServerEvent}
    (h : FreshIdentifiers (events ++ [event])) {identifier : Text} {host : Address}
    (hcreated : event.created = some (identifier, host)) : creator identifier events = none := by
  rw [FreshIdentifiers, List.filterMap_append, List.pairwise_append] at h
  obtain ⟨-, -, hlast⟩ := h
  rw [creator, List.lookup_eq_none_iff]
  intro entry hentry
  have hne := hlast entry hentry (identifier, host) (by simp [hcreated])
  simpa using hne.symm

lemma FreshIdentifiers.of_concat {events : List ServerEvent} {event : ServerEvent}
    (h : FreshIdentifiers (events ++ [event])) : FreshIdentifiers events := by
  rw [FreshIdentifiers, List.filterMap_append, List.pairwise_append] at h
  exact h.1

/-- Where an event concerns a session, its state goes on as that of the machine. -/
def Follows (identifier : Text) (host : Option Address) (x : Exchange)
    (before after : ServerState) : Prop :=
  after.stateOf identifier = ((x.command identifier host).elim (before.stateOf identifier)
    (Reference.step (before.stateOf identifier)))

/-- The tables and the machines after a run. -/
structure Tracks (env : Environment) (events : List ServerEvent) (s : ServerState) : Prop where
  /-- Entries are under the host that set up the session. -/
  index : ∀ host identifier, (host, identifier) ∈ s.sessionsByHost →
    creator identifier events = some host
  /-- A live session is indexed. -/
  live : ∀ identifier, s.stateOf identifier ≠ none →
    ∃ host, creator identifier events = some host ∧ (host, identifier) ∈ s.sessionsByHost
  state : ∀ identifier host, (creator identifier events = none ∨ creator identifier events = host) →
    Reference.run ((exchanges env {} events).filterMap (·.command identifier host)) =
      s.stateOf identifier

lemma tracks_init (env : Environment) : Tracks env [] {} where
  index _ _ h := by cases h
  live identifier h := by
    rw [ServerState.stateOf, Finmap.lookup_empty] at h
    exact absurd rfl h
  state identifier _ _ := by
    rw [ServerState.stateOf, Finmap.lookup_empty]
    rfl

section Step

variable {env : Environment} {events : List ServerEvent} {s s' : ServerState} {event : ServerEvent}

/-- A session that was never created is not live. -/
lemma Tracks.dead (h : Tracks env events s) {identifier : Text}
    (hfresh : creator identifier events = none) : s.stateOf identifier = none := by
  by_contra hlive
  obtain ⟨host, hhost, -⟩ := h.live identifier hlive
  rw [hfresh] at hhost
  cases hhost

/-- The machines follow an event if every session does. -/
lemma Tracks.state_concat (h : Tracks env events s)
    (hrun : (serverSystem env).run {} events = some s)
    (hfollows : ∀ identifier host, (creator identifier (events ++ [event]) = none ∨
      creator identifier (events ++ [event]) = host) →
      Follows identifier host (s.exchange env event) s s') (identifier : Text)
    (host : Option Address) (hhost : creator identifier (events ++ [event]) = none ∨
      creator identifier (events ++ [event]) = host) :
    Reference.run ((exchanges env {} (events ++ [event])).filterMap
      (·.command identifier host)) = s'.stateOf identifier := by
  have hbefore : creator identifier events = none ∨ creator identifier events = host := by
    rw [creator_concat] at hhost
    cases hcreator : creator identifier events with
    | none => exact Or.inl rfl
    | some host' =>
      rw [hcreator, Option.some_or] at hhost
      exact Or.inr (hhost.resolve_left nofun)
  have hlast := h.state identifier host hbefore
  rw [exchanges_concat env event hrun, List.filterMap_append, Reference.run, List.foldl_append,
    ← Reference.run, hlast]
  rw [hfollows identifier host hhost]
  cases hcommand : (s.exchange env event).command identifier host <;> simp [hcommand]

/-- An event that creates no session and leaves the index alone. -/
lemma Tracks.keep (h : Tracks env events s) (hrun : (serverSystem env).run {} events = some s)
    (hcreated : event.created = none) (hindex : s'.sessionsByHost = s.sessionsByHost)
    (hlive : ∀ identifier, s.stateOf identifier = none → s'.stateOf identifier = none)
    (hfollows : ∀ identifier host, Follows identifier host (s.exchange env event) s s') :
    Tracks env (events ++ [event]) s' := by
  have hcreator : ∀ identifier, creator identifier (events ++ [event]) =
      creator identifier events := by
    intro identifier
    rw [creator_concat, hcreated]
    exact Option.or_none
  refine ⟨?_, ?_, h.state_concat hrun fun identifier host _ => hfollows identifier host⟩
  · intro host identifier hmem
    rw [hindex] at hmem
    rw [hcreator]
    exact h.index host identifier hmem
  · intro identifier hstate
    rw [hindex, hcreator]
    exact h.live identifier fun hnone => hstate (hlive identifier hnone)

/-- A request for one method on one session is no request for another. -/
lemma Request.Names.unique {message : Request} {method method' : SessionMethod}
    {identifier identifier' : Text} (h : message.Names method identifier)
    (h' : message.Names method' identifier') : method = method' ∧ identifier = identifier' := by
  obtain ⟨-, hname, hsession⟩ := h
  obtain ⟨-, hname', hsession'⟩ := h'
  refine ⟨?_, Option.some.inj (hsession.symm.trans hsession')⟩
  rw [hname] at hname'
  revert hname'
  cases method <;> cases method' <;> first | exact fun _ => rfl | decide

lemma Request.Names.not_createsSession {message : Request} {method : SessionMethod}
    {identifier : Text} (h : message.Names method identifier) : ¬CreatesSession message :=
  fun hcreates => Option.some_ne_none _ (h.2.2.symm.trans hcreates.2.2)

/-- What a session sees of a request that names one. -/
lemma command_of_names {message : Request} {method : SessionMethod} {named : Text}
    (h : message.Names method named) (s : ServerState) (draws : Draws) (requester : Address)
    (identifier : Text) (host : Option Address) :
    (s.exchange env (.request draws message requester)).command identifier host =
      if identifier = named then some (.request method) else none := by
  have hcreates := h.not_createsSession
  simp only [Exchange.command, ServerState.exchange, hcreates, false_and, if_false]
  split_ifs with hid
  · subst hid
    have hfind : (SessionMethod.all.find? fun method => message.Names method identifier) =
        some method := by
      cases hfind : SessionMethod.all.find? fun method => message.Names method identifier with
      | none =>
        refine absurd (decide_eq_true h) (List.find?_eq_none.mp hfind method ?_)
        cases method <;> simp [SessionMethod.all]
      | some method' =>
        have hfound : message.Names method' identifier := by simpa using List.find?_some hfind
        rw [(h.unique hfound).1]
    rw [hfind]
    rfl
  · rw [Option.map_eq_none_iff, List.find?_eq_none]
    intro method' _ hnames
    exact hid (h.unique (of_decide_eq_true hnames)).2.symm

/-- What a session sees of a request that names none. -/
lemma command_of_not_names {message : Request}
    (h : ∀ method identifier, ¬message.Names method identifier) (s : ServerState) (draws : Draws)
    (requester : Address) (identifier : Text) (host : Option Address) :
    (s.exchange env (.request draws message requester)).command identifier host =
      if CreatesSession message ∧ draws.identifier = identifier then
        some (.created (s.exchange env (.request draws message requester)).answered)
      else none := by
  have hfind : (SessionMethod.all.find? fun method => message.Names method identifier) = none :=
    List.find?_eq_none.mpr fun method _ hnames => h method identifier (of_decide_eq_true hnames)
  simp only [Exchange.command, ServerState.exchange]
  rw [hfind]
  rfl

/-- A request that neither creates a session nor names one leaves the tables alone. -/
lemma handleIncomingRequest_of_not_names {message : Request}
    (hcreates : ¬CreatesSession message)
    (hnames : ∀ method identifier, ¬message.Names method identifier) (s : ServerState)
    (draws : Draws) (requester : Address) :
    (s.handleIncomingRequest env draws message requester).1 = s := by
  apply handleIncomingRequest_of_not_locks
  rintro ⟨hcseq, ⟨hsetup, hsession⟩ | ⟨hmethod, hsession⟩⟩
  · exact hcreates ⟨hcseq, hsetup, hsession⟩
  · obtain ⟨identifier, hidentifier⟩ := Option.ne_none_iff_exists'.mp hsession
    simp only [List.mem_cons, List.not_mem_nil, or_false] at hmethod
    rcases hmethod with hmethod | hmethod | hmethod
    · exact hnames .teardown identifier ⟨hcseq, hmethod, hidentifier⟩
    · exact hnames .play identifier ⟨hcseq, hmethod, hidentifier⟩
    · exact hnames .pause identifier ⟨hcseq, hmethod, hidentifier⟩

/-! ### Steps -/

/-- A SETUP under an identifier that no session had. -/
lemma Tracks.created (h : Tracks env events s) (hrun : (serverSystem env).run {} events = some s)
    {draws : Draws} {message : Request} {requester : Address} (hcreates : CreatesSession message)
    (hfresh : creator draws.identifier events = none) :
    Tracks env (events ++ [.request draws message requester])
      (s.handleIncomingRequest env draws message requester).1 := by
  have hdead := h.dead hfresh
  obtain ⟨hstate, hindex⟩ := handleSetup_spec env hcreates hdead requester
  have hcreated : (ServerEvent.request draws message requester).created =
      some (draws.identifier, requester) := if_pos hcreates
  have hcreator : ∀ identifier, creator identifier
      (events ++ [.request draws message requester]) =
      if identifier = draws.identifier then some requester else creator identifier events := by
    intro identifier
    rw [creator_concat, hcreated]
    split_ifs with hid
    · rw [hid, hfresh, Option.none_or]
      simp
    · have hother : (identifier == draws.identifier) = false := beq_false_of_ne hid
      simp [List.lookup_cons, hother]
  refine ⟨?_, ?_, h.state_concat hrun ?_⟩
  · intro host identifier hmem
    rw [hindex, List.mem_append, List.mem_singleton] at hmem
    rw [hcreator]
    rcases hmem with hmem | hmem
    · have hhost := h.index host identifier hmem
      rw [if_neg, hhost]
      rintro rfl
      rw [hfresh] at hhost
      cases hhost
    · cases hmem
      rw [if_pos rfl]
  · intro identifier hlive
    rw [hindex, hcreator]
    by_cases hid : identifier = draws.identifier
    · subst hid
      exact ⟨requester, if_pos rfl, List.mem_append_right _ (List.mem_singleton_self _)⟩
    · rw [hstate, Function.update_of_ne hid] at hlive
      obtain ⟨host, hhost, hmem⟩ := h.live identifier hlive
      exact ⟨host, (if_neg hid).trans hhost, List.mem_append_left _ hmem⟩
  · intro identifier host _
    rw [Follows, command_of_not_names fun method named hnames =>
      hnames.not_createsSession hcreates, hstate]
    by_cases hid : draws.identifier = identifier
    · subst hid
      rw [if_pos ⟨hcreates, rfl⟩, Function.update_self, hdead]
      rfl
    · rw [if_neg fun h => hid h.2, Function.update_of_ne (Ne.symm hid)]
      rfl

/-- A request for a method on a session. -/
lemma Tracks.names (h : Tracks env events s) (hrun : (serverSystem env).run {} events = some s)
    (hsender : s.All fun _ session => session.HasSender) {draws : Draws} {message : Request}
    {requester : Address} {method : SessionMethod} {named : Text}
    (hnames : message.Names method named) :
    Tracks env (events ++ [.request draws message requester])
      (s.handleIncomingRequest env draws message requester).1 := by
  have hmethod := handleIncomingRequest_of_names env s draws requester hnames
  obtain ⟨-, hstate, hindex⟩ := handleMethod_spec hsender method named
    (((normalizeHeaders message.headers).lookup (str "cseq")).getD [])
    (message, normalizeHeaders message.headers) requester hnames.2.1 hnames.cseq_ne_none
  rw [hmethod]
  refine h.keep hrun (if_neg hnames.not_createsSession) hindex ?_ ?_
  · intro identifier hdead
    rw [hstate]
    by_cases hid : identifier = named
    · subst hid
      rw [Function.update_self, hdead]
      cases method <;> rfl
    · rw [Function.update_of_ne hid, hdead]
  · intro identifier host
    rw [Follows, command_of_names hnames, hstate]
    by_cases hid : identifier = named
    · subst hid
      rw [if_pos rfl, Function.update_self]
      rfl
    · rw [if_neg hid, Function.update_of_ne hid]
      rfl

/-- A timeout of a host. -/
lemma Tracks.timeout (h : Tracks env events s) (hrun : (serverSystem env).run {} events = some s)
    (timedOut : Address) :
    Tracks env (events ++ [.timeout timedOut]) (s.handleTimeoutOfHost timedOut) := by
  have hindex := (handleTimeoutOfHost_spec s timedOut).2
  have hstate := handleTimeoutOfHost_stateOf s timedOut
  have hcreator : ∀ identifier, creator identifier (events ++ [.timeout timedOut]) =
      creator identifier events := by
    intro identifier
    rw [creator_concat]
    exact Option.or_none
  refine ⟨?_, ?_, h.state_concat hrun ?_⟩
  · intro host identifier hmem
    rw [hindex] at hmem
    rw [hcreator]
    exact h.index host identifier (List.mem_of_mem_filter hmem)
  · intro identifier hlive
    rw [hstate] at hlive
    have hkept : (timedOut, identifier) ∉ s.sessionsByHost := fun hmem => hlive (if_pos hmem)
    rw [if_neg hkept] at hlive
    obtain ⟨host, hhost, hmem⟩ := h.live identifier hlive
    rw [hcreator, hindex]
    refine ⟨host, hhost, List.mem_filter.mpr ⟨hmem, decide_eq_true ?_⟩⟩
    rintro rfl
    exact hkept hmem
  · intro identifier host hhost
    rw [hcreator] at hhost
    rw [Follows, hstate]
    change _ = (if some timedOut = host then some SessionCommand.timeout else none).elim _ _
    by_cases hmine : some timedOut = host
    · subst hmine
      rw [if_pos rfl]
      change _ = none
      split_ifs with hmem
      · rfl
      · by_contra hlive
        obtain ⟨host, hcreated, hindexed⟩ := h.live identifier hlive
        rw [hcreated] at hhost
        rcases hhost with hhost | hhost <;> cases hhost
        exact hmem hindexed
    · rw [if_neg hmine, if_neg]
      · rfl
      · intro hmem
        rw [h.index _ _ hmem] at hhost
        exact hmine (hhost.resolve_left nofun)

/-- A handler of a sender. -/
lemma Tracks.sender (h : Tracks env events s) (hrun : (serverSystem env).run {} events = some s)
    {identifier : Text} {event : Rtp.SenderEvent}
    (hstep : s.step env (.sender identifier event) = some s') :
    Tracks env (events ++ [.sender identifier event]) s' := by
  obtain ⟨hstate, hindex⟩ := stepSender_stateOf hstep
  refine h.keep hrun rfl hindex ?_ ?_
  · intro _ hdead
    rw [hstate, hdead]
  · intro _ _
    rw [Follows, hstate]
    rfl

/-- The machines follow every event. -/
lemma Tracks.step (h : Tracks env events s) (hrun : (serverSystem env).run {} events = some s)
    (hsender : s.All fun _ session => session.HasSender)
    (hfresh : FreshIdentifiers (events ++ [event])) (hstep : s.step env event = some s') :
    Tracks env (events ++ [event]) s' := by
  cases event with
  | request draws message requester =>
    cases hstep
    by_cases hcreates : CreatesSession message
    · exact h.created hrun hcreates (hfresh.creator_eq_none (if_pos hcreates))
    · by_cases hnames : ∃ method identifier, message.Names method identifier
      · obtain ⟨method, named, hnames⟩ := hnames
        exact h.names hrun hsender hnames
      · push Not at hnames
        rw [handleIncomingRequest_of_not_names hcreates hnames]
        refine h.keep hrun (if_neg hcreates) rfl (fun _ hdead => hdead) ?_
        intro identifier host
        rw [Follows, command_of_not_names hnames, if_neg fun h => hcreates h.1]
        rfl
  | timeout host =>
    cases hstep
    exact h.timeout hrun host
  | sender identifier event => exact h.sender hrun hstep

end Step

/-! ### Runs -/

lemma tracks_run (env : Environment) {events : List ServerEvent} (hfresh : FreshIdentifiers events)
    {s : ServerState} (hrun : (serverSystem env).run {} events = some s) : Tracks env events s := by
  induction events using List.reverseRecOn generalizing s with
  | nil =>
    cases hrun
    exact tracks_init env
  | append_singleton events event ih =>
    rw [System.run_concat, Option.bind_eq_some_iff] at hrun
    obtain ⟨t, hrun, hstep⟩ := hrun
    have hinit : (serverSystem env).Reachable Always {} := .init rfl
    have hsender := (sender_invariant env).reachable
      (hinit.run (System.meets_always _ _ _) hrun)
    exact (ih hfresh.of_concat hrun).step hrun hsender hfresh hstep

/-- After every run in which no identifier is drawn twice, a session is in the state of its
reference machine, and PLAY, PAUSE and TEARDOWN on it are answered with the status of the
machine. -/
theorem session_refinement (env : Environment) {events : List ServerEvent}
    (hfresh : FreshIdentifiers events) {s : ServerState}
    (hrun : (serverSystem env).run {} events = some s) (identifier : Text) :
    s.stateOf identifier = Reference.run (commands env identifier events) ∧
      ∀ draws request requester method, request.Names method identifier →
        statusOf (s.handleIncomingRequest env draws request requester).2 =
          some (Reference.status (Reference.run (commands env identifier events)) method) := by
  have hstate : Reference.run (commands env identifier events) = s.stateOf identifier :=
    (tracks_run env hfresh hrun).state identifier _ (Or.inr rfl)
  refine ⟨hstate.symm, ?_⟩
  intro draws request requester method hnames
  have hinit : (serverSystem env).Reachable Always {} := .init rfl
  have hsender := (sender_invariant env).reachable (hinit.run (System.meets_always _ _ _) hrun)
  rw [hstate, handleIncomingRequest_of_names env s draws requester hnames]
  exact (handleMethod_spec hsender method identifier _ _ requester hnames.2.1
    hnames.cseq_ne_none).1

/-- A session is set up and played, and its host times out. -/
def timeoutEvents : List ServerEvent :=
  [.request { identifier := str "a" } setupMovie default, .request {} playMovie default,
    .timeout default]

theorem session_refinement_timeout :
    ∃ s ∈ (serverSystem emptyRoot).run {} timeoutEvents,
      commands emptyRoot (str "a") timeoutEvents =
        [.created true, .request .play, .timeout] ∧
      statusOf (s.handleIncomingRequest emptyRoot {} teardownMovie default).2 = some 454 := by
  obtain ⟨s, hrun⟩ := Option.isSome_iff_exists.mp
    (by decide : ((serverSystem emptyRoot).run {} timeoutEvents).isSome)
  have hcommands : commands emptyRoot (str "a") timeoutEvents =
      [.created true, .request .play, .timeout] := by
    decide
  have hfresh : FreshIdentifiers timeoutEvents := by decide
  have hteardown := (session_refinement emptyRoot hfresh hrun (str "a")).2 {} teardownMovie default
    .teardown (by decide)
  rw [hcommands] at hteardown
  exact ⟨s, hrun, hcommands, hteardown⟩

end Rtsp
