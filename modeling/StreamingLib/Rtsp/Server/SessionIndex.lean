import StreamingLib.Rtsp.Server.Refinement

/-!
# The index by host over a run

SETUP enters a session in both tables and a timeout takes it out of both. TEARDOWN deletes it from
the table of sessions only, its entry under the host stays.
-/

namespace Rtsp

open Transition

/-- The session that an event tears down if it is live. -/
def ServerEvent.tornDown : ServerEvent → Option Text
  | .request _ message _ => Rtsp.tornDown message
  | .timeout _ => none
  | .sender _ _ => none

lemma stateOf_eq_none_iff {s : ServerState} {identifier : Text} :
    s.stateOf identifier = none ↔ identifier ∉ s.sessions := by
  rw [ServerState.stateOf, Option.map_eq_none_iff, Finmap.lookup_eq_none]

lemma stateOf_ne_none_iff {s : ServerState} {identifier : Text} :
    s.stateOf identifier ≠ none ↔ identifier ∈ s.sessions :=
  stateOf_eq_none_iff.not.trans not_not

/-! ### Steps -/

/-- What an event does to the two tables. -/
inductive TablesStep (s s' : ServerState) (event : ServerEvent) : Prop
  | created (identifier : Text) (host : Address) (state : SessionState)
      (hcreated : event.created = some (identifier, host)) (htorn : event.tornDown = none)
      (hstate : s'.stateOf = Function.update s.stateOf identifier (some state))
      (hindex : s'.sessionsByHost = s.sessionsByHost ++ [(host, identifier)])
  | deleted (identifier : Text) (hcreated : event.created = none)
      (htorn : event.tornDown = some identifier)
      (hstate : s'.stateOf = Function.update s.stateOf identifier none)
      (hindex : s'.sessionsByHost = s.sessionsByHost)
  | timedOut (host : Address) (hevent : event = .timeout host)
      (hstate : ∀ identifier, s'.stateOf identifier =
        if (host, identifier) ∈ s.sessionsByHost then none else s.stateOf identifier)
      (hindex : s'.sessionsByHost = s.sessionsByHost.filter (·.1 ≠ host))
  | kept (hcreated : event.created = none) (htorn : event.tornDown = none)
      (hstate : ∀ identifier, s'.stateOf identifier = none ↔ s.stateOf identifier = none)
      (hindex : s'.sessionsByHost = s.sessionsByHost)

/-- Only a request that names a session for TEARDOWN tears one down. -/
lemma tornDown_eq_some_iff {message : Request} {identifier : Text} :
    tornDown message = some identifier ↔ message.Names .teardown identifier := by
  unfold tornDown Request.Names
  split_ifs with h
  · exact ⟨fun hsession => ⟨h.1, h.2, hsession⟩, fun hnames => hnames.2.2⟩
  · exact ⟨nofun, fun hnames => absurd ⟨hnames.1, hnames.2.1⟩ h⟩

lemma Request.Names.tornDown_eq_none {message : Request} {method : SessionMethod}
    {identifier : Text} (h : message.Names method identifier) (hmethod : method ≠ .teardown) :
    tornDown message = none := by
  rw [Option.eq_none_iff_forall_ne_some]
  intro identifier' htorn
  exact hmethod (h.unique (tornDown_eq_some_iff.mp htorn)).1

section Step

variable {env : Environment} {events : List ServerEvent} {s s' : ServerState} {event : ServerEvent}

lemma TablesStep.of_created (h : Tracks env events s) {draws : Draws} {message : Request}
    {requester : Address} (hcreates : CreatesSession message)
    (hfresh : creator draws.identifier events = none) :
    TablesStep s (s.handleIncomingRequest env draws message requester).1
      (.request draws message requester) := by
  have hdead := h.dead hfresh
  have htorn : tornDown message = none := by
    rw [Option.eq_none_iff_forall_ne_some]
    intro identifier htorn
    exact (tornDown_eq_some_iff.mp htorn).not_createsSession hcreates
  obtain ⟨hstate, hindex⟩ := handleSetup_spec env hcreates hdead requester
  cases hanswered : (s.exchange env (.request draws message requester)).answered with
  | true =>
    rw [hanswered] at hstate
    exact .created _ _ .ready (if_pos hcreates) htorn hstate hindex
  | false =>
    rw [hanswered] at hstate
    exact .created _ _ .init (if_pos hcreates) htorn hstate hindex

lemma TablesStep.of_names (hsender : s.All fun _ session => session.HasSender) (draws : Draws)
    {message : Request} (requester : Address) {method : SessionMethod} {named : Text}
    (hnames : message.Names method named) :
    TablesStep s (s.handleIncomingRequest env draws message requester).1
      (.request draws message requester) := by
  obtain ⟨-, hstate, hindex⟩ := handleMethod_spec hsender method named
    (((normalizeHeaders message.headers).lookup (str "cseq")).getD [])
    (message, normalizeHeaders message.headers) requester hnames.2.1 hnames.cseq_ne_none
  rw [handleIncomingRequest_of_names env s draws requester hnames]
  have hcreated : (ServerEvent.request draws message requester).created = none :=
    if_neg hnames.not_createsSession
  by_cases hmethod : method = .teardown
  · subst hmethod
    have hnone : Reference.step (s.stateOf named) (.request .teardown) = none := by
      cases s.stateOf named with
      | none => rfl
      | some state => cases state <;> rfl
    rw [hnone] at hstate
    exact .deleted named hcreated (tornDown_eq_some_iff.mpr hnames) hstate hindex
  · refine .kept hcreated (hnames.tornDown_eq_none hmethod) (fun identifier => ?_) hindex
    rw [hstate]
    by_cases hid : identifier = named
    · subst hid
      rw [Function.update_self]
      cases s.stateOf identifier with
      | none => cases method <;> exact iff_of_true rfl rfl
      | some state =>
        cases method with
        | play | pause => cases state <;> exact iff_of_false nofun nofun
        | teardown => exact absurd rfl hmethod
    · rw [Function.update_of_ne hid]

/-- What an event does, if no identifier was drawn twice. -/
lemma TablesStep.of_step (h : Tracks env events s)
    (hsender : s.All fun _ session => session.HasSender)
    (hfresh : FreshIdentifiers (events ++ [event])) (hstep : s.step env event = some s') :
    TablesStep s s' event := by
  cases event with
  | request draws message requester =>
    cases hstep
    by_cases hcreates : CreatesSession message
    · exact .of_created h hcreates (hfresh.creator_eq_none (if_pos hcreates))
    · by_cases hnames : ∃ method identifier, message.Names method identifier
      · obtain ⟨method, named, hnames⟩ := hnames
        exact .of_names hsender draws requester hnames
      · push Not at hnames
        have htorn : tornDown message = none := by
          rw [Option.eq_none_iff_forall_ne_some]
          exact fun identifier htorn => hnames _ _ (tornDown_eq_some_iff.mp htorn)
        rw [handleIncomingRequest_of_not_names hcreates hnames]
        exact .kept (if_neg hcreates) htorn (fun _ => Iff.rfl) rfl
  | timeout host =>
    cases hstep
    exact .timedOut host rfl (handleTimeoutOfHost_stateOf s host)
      (handleTimeoutOfHost_spec s host).2
  | sender identifier event =>
    obtain ⟨hstate, hindex⟩ := stepSender_stateOf hstep
    exact .kept rfl rfl (fun _ => by rw [hstate]) hindex

end Step

/-! ### Runs -/

section Run

variable {env : Environment} {events : List ServerEvent} {s : ServerState}

/-- What holds at first and is kept by every step of a run with fresh identifiers. -/
lemma fresh_run_induction {I : List ServerEvent → ServerState → Prop}
    (hfresh : FreshIdentifiers events) (hrun : (serverSystem env).run {} events = some s)
    (hinit : I [] {})
    (hstep : ∀ events event s s', Tracks env events s → FreshIdentifiers (events ++ [event]) →
      (serverSystem env).run {} events = some s → s.step env event = some s' →
      TablesStep s s' event → I events s → I (events ++ [event]) s') : I events s := by
  induction events using List.reverseRecOn generalizing s with
  | nil =>
    cases hrun
    exact hinit
  | append_singleton events event ih =>
    rw [System.run_concat, Option.bind_eq_some_iff] at hrun
    obtain ⟨t, hrun, hlast⟩ := hrun
    have hstart : (serverSystem env).Reachable Always {} := .init rfl
    have hsender := (sender_invariant env).reachable
      (hstart.run (System.meets_always _ _ _) hrun)
    have htracks := tracks_run env hfresh.of_concat hrun
    exact hstep events event t s htracks hfresh hrun hlast
      (.of_step htracks hsender hfresh hlast) (ih hfresh.of_concat hrun)

/-- No session has two entries. -/
lemma index_nodup (hfresh : FreshIdentifiers events)
    (hrun : (serverSystem env).run {} events = some s) :
    (s.sessionsByHost.map Prod.snd).Nodup := by
  refine fresh_run_induction (I := fun _ s => (s.sessionsByHost.map Prod.snd).Nodup) hfresh hrun
    List.nodup_nil ?_
  rintro events event s s' htracks hfresh - - hstep hnodup
  cases hstep with
  | created identifier host state hcreated htorn hstate hindex =>
    rw [hindex, List.map_append, List.nodup_append]
    refine ⟨hnodup, List.nodup_singleton _, ?_⟩
    rintro _ hmem _ hlast rfl
    obtain ⟨⟨host', identifier'⟩, hentry, rfl⟩ := List.mem_map.mp hmem
    obtain rfl := List.mem_singleton.mp hlast
    have hcreator := htracks.index host' identifier' hentry
    rw [hfresh.creator_eq_none hcreated] at hcreator
    cases hcreator
  | deleted identifier hcreated htorn hstate hindex =>
    rw [hindex]
    exact hnodup
  | timedOut host hevent hstate hindex =>
    rw [hindex]
    exact (List.filter_sublist.map Prod.snd).nodup hnodup
  | kept hcreated htorn hstate hindex =>
    rw [hindex]
    exact hnodup

/-- The index has the entry of each live session under the host that set it up, and no other. -/
structure Mirrors (events : List ServerEvent) (s : ServerState) : Prop where
  live : ∀ identifier ∈ s.sessions, ∃ host, creator identifier events = some host ∧
    s.sessionsByHost.filter (·.2 = identifier) = [(host, identifier)]
  dead : ∀ identifier, identifier ∉ s.sessions →
    s.sessionsByHost.filter (·.2 = identifier) = []

/-- Every entry is that of a live session. -/
def NoStaleEntry (s : ServerState) : Prop :=
  ∀ host identifier, (host, identifier) ∈ s.sessionsByHost → s.stateOf identifier ≠ none

/-- If no session has two entries, the entry of a session is all that the index has of it. -/
lemma filter_eq_singleton {entries : List (Address × Text)}
    (hnodup : (entries.map Prod.snd).Nodup) {host : Address} {identifier : Text}
    (hmem : (host, identifier) ∈ entries) :
    entries.filter (·.2 = identifier) = [(host, identifier)] := by
  induction entries with
  | nil => cases hmem
  | cons entry entries ih =>
    rw [List.map_cons, List.nodup_cons] at hnodup
    obtain ⟨hfirst, hrest⟩ := hnodup
    rcases List.mem_cons.mp hmem with rfl | hmem
    · rw [List.filter_cons_of_pos (by simp), List.filter_eq_nil_iff.mpr]
      intro other hother heq
      exact hfirst (List.mem_map.mpr ⟨other, hother, of_decide_eq_true heq⟩)
    · rw [List.filter_cons_of_neg, ih hrest hmem]
      intro heq
      apply hfirst
      rw [of_decide_eq_true heq]
      exact List.mem_map.mpr ⟨_, hmem, rfl⟩

/-- All sessions that are live have their entry, so only stale entries are in the way. -/
lemma mirrors_iff (hfresh : FreshIdentifiers events)
    (hrun : (serverSystem env).run {} events = some s) : Mirrors events s ↔ NoStaleEntry s := by
  have hnodup := index_nodup hfresh hrun
  have htracks := tracks_run env hfresh hrun
  constructor
  · intro h host identifier hmem
    rw [stateOf_ne_none_iff]
    by_contra hdead
    have hfilter : (host, identifier) ∈ s.sessionsByHost.filter (·.2 = identifier) :=
      List.mem_filter.mpr ⟨hmem, by simp⟩
    rw [h.dead identifier hdead] at hfilter
    cases hfilter
  · intro h
    refine ⟨fun identifier hlive => ?_, fun identifier hdead => ?_⟩
    · obtain ⟨host, hhost, hmem⟩ := htracks.live identifier (stateOf_ne_none_iff.mpr hlive)
      exact ⟨host, hhost, filter_eq_singleton hnodup hmem⟩
    · rw [List.filter_eq_nil_iff]
      rintro ⟨host, identifier'⟩ hmem heq
      obtain rfl : identifier' = identifier := of_decide_eq_true heq
      exact h host identifier' hmem (stateOf_eq_none_iff.mpr hdead)

/-- An event that tears down no live session. -/
def TearsDownNoSession (s : ServerState) (event : ServerEvent) : Prop :=
  ∀ identifier ∈ event.tornDown, identifier ∉ s.sessions

instance (s : ServerState) (event : ServerEvent) : Decidable (TearsDownNoSession s event) :=
  inferInstanceAs (Decidable (∀ _ ∈ _, _))

lemma tearsDownNoSession_of_none {event : ServerEvent} (htorn : event.tornDown = none) :
    TearsDownNoSession s event := by
  intro identifier hmem
  rw [htorn] at hmem
  cases hmem

/-- An index without stale entries stays so unless a live session is torn down. -/
lemma TablesStep.noStaleEntry_iff {s' : ServerState} {event : ServerEvent}
    (hstep : TablesStep s s' event) (htracks : Tracks env events s) (h : NoStaleEntry s) :
    NoStaleEntry s' ↔ TearsDownNoSession s event := by
  cases hstep with
  | created identifier host state hcreated htorn hstate hindex =>
    refine iff_of_true ?_ (tearsDownNoSession_of_none htorn)
    intro host' identifier' hmem
    rw [hindex, List.mem_append, List.mem_singleton] at hmem
    rw [hstate]
    by_cases hid : identifier' = identifier
    · rw [hid, Function.update_self]
      exact Option.some_ne_none state
    · rw [Function.update_of_ne hid]
      refine h host' identifier' (hmem.resolve_right fun heq => hid (congrArg Prod.snd heq))
  | deleted identifier hcreated htorn hstate hindex =>
    constructor
    · -- the entry of the session stays
      intro hnone named hnamed hlive
      rw [htorn] at hnamed
      cases hnamed
      obtain ⟨host, -, hmem⟩ := htracks.live identifier (stateOf_ne_none_iff.mpr hlive)
      apply hnone host identifier (hindex ▸ hmem)
      rw [hstate, Function.update_self]
    · intro hdead host' identifier' hmem
      rw [hindex] at hmem
      have hlive := h host' identifier' hmem
      rw [hstate, Function.update_of_ne]
      · exact hlive
      · rintro rfl
        exact hdead identifier' htorn (stateOf_ne_none_iff.mp hlive)
  | timedOut host hevent hstate hindex =>
    refine iff_of_true ?_ (tearsDownNoSession_of_none (by rw [hevent]; rfl))
    intro host' identifier' hmem
    rw [hindex] at hmem
    obtain ⟨hmem, hne⟩ := List.mem_filter.mp hmem
    rw [hstate, if_neg]
    · exact h host' identifier' hmem
    · -- a session has one host
      intro hmine
      have hsame := htracks.index host identifier' hmine
      rw [htracks.index host' identifier' hmem] at hsame
      exact of_decide_eq_true hne (Option.some.inj hsame)
  | kept hcreated htorn hstate hindex =>
    refine iff_of_true ?_ (tearsDownNoSession_of_none htorn)
    intro host' identifier' hmem
    rw [hindex] at hmem
    rw [Ne, hstate]
    exact h host' identifier' hmem

/-- Every entry is that of a live session after each event of a run exactly if no event tears down
a live session. -/
lemma noStaleEntry_run_iff (hfresh : FreshIdentifiers events)
    (hrun : (serverSystem env).run {} events = some s) :
    (∀ before s', before <+: events → (serverSystem env).run {} before = some s' →
      NoStaleEntry s') ↔ (serverSystem env).Meets TearsDownNoSession {} events := by
  refine fresh_run_induction (I := fun events s => (∀ before s', before <+: events →
    (serverSystem env).run {} before = some s' → NoStaleEntry s') ↔
    (serverSystem env).Meets TearsDownNoSession {} events) hfresh hrun ?_ ?_
  · refine iff_of_true ?_ trivial
    intro before s' hpre hbefore
    obtain rfl := List.prefix_nil.mp hpre
    cases hbefore
    exact fun _ _ hmem => nomatch hmem
  · intro events event s s' htracks hfresh hrun hlast hstep ih
    have hconcat : (serverSystem env).run {} (events ++ [event]) = some s' := by
      rw [System.run_concat, hrun]
      exact hlast
    have hone := hstep.noStaleEntry_iff htracks
    rw [System.meets_concat_iff hrun, ← ih]
    constructor
    · intro h
      have hbefore : ∀ before s', before <+: events →
          (serverSystem env).run {} before = some s' → NoStaleEntry s' :=
        fun before s' hpre => h before s' (hpre.trans (List.prefix_append _ _))
      exact ⟨hbefore, (hone (hbefore events s (List.prefix_refl _) hrun)).mp
        (h _ s' (List.prefix_refl _) hconcat)⟩
    · rintro ⟨hbefore, hevent⟩ before t hpre ht
      rcases List.prefix_concat_iff.mp hpre with rfl | hpre
      · obtain rfl := Option.some.inj (hconcat.symm.trans ht)
        exact (hone (hbefore events s (List.prefix_refl _) hrun)).mpr hevent
      · exact hbefore before t hpre ht

lemma FreshIdentifiers.of_before {before : List ServerEvent} (h : FreshIdentifiers events)
    (hpre : before <+: events) : FreshIdentifiers before :=
  List.Pairwise.sublist (hpre.sublist.filterMap _) h

/-- In every run in which no identifier is drawn twice, the index mirrors the live sessions after
each event exactly if no event tears down a live session. -/
theorem index_mirrors_iff (env : Environment) {events : List ServerEvent}
    (hfresh : FreshIdentifiers events) {s : ServerState}
    (hrun : (serverSystem env).run {} events = some s) :
    (∀ before s', before <+: events → (serverSystem env).run {} before = some s' →
      Mirrors before s') ↔ (serverSystem env).Meets TearsDownNoSession {} events := by
  rw [← noStaleEntry_run_iff hfresh hrun]
  refine forall_congr' fun before => forall_congr' fun s' => forall_congr' fun hpre => ?_
  exact forall_congr' fun hbefore => mirrors_iff (hfresh.of_before hpre) hbefore

end Run

/-- A session is set up and played, and its host times out. -/
theorem index_mirrors_timeout :
    FreshIdentifiers timeoutEvents ∧
      ∀ before s, before <+: timeoutEvents →
        (serverSystem emptyRoot).run {} before = some s → Mirrors before s := by
  have hfresh : FreshIdentifiers timeoutEvents := by decide
  obtain ⟨s, hrun⟩ := Option.isSome_iff_exists.mp
    (by decide : ((serverSystem emptyRoot).run {} timeoutEvents).isSome)
  exact ⟨hfresh, (index_mirrors_iff emptyRoot hfresh hrun).mpr (by decide)⟩

/-- A session is set up and torn down. -/
def setupTeardownEvents : List ServerEvent :=
  [.request { identifier := str "a" } setupMovie default, .request {} teardownMovie default]

/-- The session is gone and its entry is still there. -/
theorem index_not_mirrors :
    FreshIdentifiers setupTeardownEvents ∧
      ∃ s ∈ (serverSystem emptyRoot).run {} setupTeardownEvents,
        str "a" ∉ s.sessions ∧ s.sessionsByHost = [(default, str "a")] ∧
          ¬Mirrors setupTeardownEvents s := by
  obtain ⟨s, hrun⟩ := Option.isSome_iff_exists.mp
    (by decide : ((serverSystem emptyRoot).run {} setupTeardownEvents).isSome)
  have htables : ∀ s ∈ (serverSystem emptyRoot).run {} setupTeardownEvents,
      str "a" ∉ s.sessions ∧ s.sessionsByHost = [(default, str "a")] := by
    decide
  obtain ⟨hdead, hentry⟩ := htables s hrun
  refine ⟨by decide, s, hrun, hdead, hentry, fun h => ?_⟩
  have hnone := h.dead (str "a") hdead
  rw [hentry] at hnone
  revert hnone
  decide

end Rtsp
