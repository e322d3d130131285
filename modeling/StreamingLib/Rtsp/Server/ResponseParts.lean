import StreamingLib.Rtsp.Message.OneLine
import StreamingLib.Rtsp.Server.Answers

/-!
# The parts of a response

A response consists of texts of the server and of texts that it repeats. As values of its headers
the server repeats values of the request, and in a reason, behind a text of its own, the URI, the
method or what is left of a value. So what all values of the request have, the values of its
response have as well.
-/

namespace Rtsp

open Peg

/-! ### Option tags -/

/-- What `+token` reads is a token. -/
lemma token_ok {s : Text} (h : ((plus token).run s []).ok = true) :
    IsToken ((plus token).run s []).attr := by
  cases s with
  | nil =>
    rw [(token_fails rfl []).1] at h
    cases h
  | cons c s =>
    cases hc : isTokenChar c with
    | false =>
      rw [(token_fails (by simpa using hc) []).1] at h
      cases h
    | true =>
      have hrest : ((c :: s).dropWhile isTokenChar).head?.all (!isTokenChar ·) = true := by
        have hstop := List.head?_dropWhile_not isTokenChar (c :: s)
        cases hdrop : ((c :: s).dropWhile isTokenChar).head? with
        | none => rfl
        | some d =>
          rw [hdrop] at hstop
          simpa using hstop
      have htoken : IsToken ((c :: s).takeWhile isTokenChar) :=
        ⟨by simp [hc], List.all_eq_true.mp List.all_takeWhile⟩
      have hmatches := token_matches htoken hrest []
      rw [List.takeWhile_append_dropWhile] at hmatches
      rw [hmatches.run_ok.2.2]
      exact htoken

lemma pushBack_keeps_of_ok {α : Type} [Inhabited α] {p : Parser UInt8 α} {I : α → Prop}
    (h : ∀ s, (p.run s default).ok = true → I (p.run s default).attr) :
    (pushBack p).Keeps fun l => ∀ a ∈ l, I a := by
  intro s l hl
  simp only [pushBack]
  split_ifs with hok
  · exact List.forall_mem_append.mpr ⟨hl, List.forall_mem_singleton.mpr (h s hok)⟩
  · exact hl

lemma require_keeps : require_.Keeps fun tags => ∀ tag ∈ tags, IsToken tag :=
  (pushBack_keeps_of_ok fun _ => token_ok).list (lit_keeps _ _)

/-! ### The transport -/

lemma portGen_chars (p : Port) : ∀ c ∈ portGen p, isCntrl c = false := by
  have htype : ∀ c ∈ portTypeGen p.type ++ str "=", isCntrl c = false := by
    cases p.type <;> decide +kernel
  refine List.forall_mem_append.mpr ⟨htype, ?_⟩
  cases p.portNumbers with
  | number n => exact numeral_chars _
  | range first second =>
    have hdash : ∀ c ∈ str "-", isCntrl c = false := by decide +kernel
    exact List.forall_mem_append.mpr
      ⟨List.forall_mem_append.mpr ⟨numeral_chars _, hdash⟩, numeral_chars _⟩

/-- The transport that SETUP answers with, whatever was requested. -/
lemma generateTransportHeader_isFieldValue {requested : Transport} {draws : Draws}
    {chosen : TransportSpec} (h : getAcceptableTransport requested draws = some chosen) :
    IsFieldValue (generateTransportHeader ⟨[chosen]⟩) := by
  obtain ⟨clientPort, ssrc, port, rfl⟩ := getAcceptableTransport_eq h
  have htext : generateTransportHeader ⟨[{
        transportProtocol := str "RTP"
        profile := str "AVP"
        lowerTransport := some (str "UDP")
        parameters := [.string (str "unicast"), .port ⟨.client, .number clientPort⟩, .ssrc ssrc,
          .port port] }]⟩ =
      str "RTP/AVP/UDP;unicast;" ++ portGen ⟨.client, .number clientPort⟩ ++ str ";ssrc=" ++
        numeral hexDigitChar 16 ssrc.toNat ++ str ";" ++ portGen port := by
    simp [generateTransportHeader, List.intercalate, transportSpecGen, parameterGen, str]
  have hssrc : ∀ c ∈ numeral hexDigitChar 16 ssrc.toNat, isCntrl c = false := by
    intro c hc
    obtain ⟨d, hd, rfl⟩ := mem_numeral (by norm_num) hc
    interval_cases d <;> decide
  have hbegin : IsFieldValue (str "RTP/AVP/UDP;unicast;") := by decide
  have hname : ∀ c ∈ str ";ssrc=", isCntrl c = false := by decide +kernel
  have hsemicolon : ∀ c ∈ str ";", isCntrl c = false := by decide +kernel
  rw [htext]
  exact ((((hbegin.append (portGen_chars _)).append hname).append hssrc).append
    hsemicolon).append (portGen_chars port)

/-! ### Responses -/

/-- A property of values: the values of the server have it, and what has it stands on one line. -/
structure ValueProperty (V : Text → Prop) : Prop where
  fieldValue : ∀ {w}, IsFieldValue w → V w
  oneLine : ∀ {w}, V w → OneLine w

lemma oneLine_valueProperty : ValueProperty OneLine := ⟨IsFieldValue.oneLine, id⟩

lemma isFieldValue_valueProperty : ValueProperty IsFieldValue := ⟨id, IsFieldValue.oneLine⟩

/-- A response with the version of the server and a reason of its own, whose values have the
property. -/
structure Response.Composed (V : Text → Prop) (r : Response) : Prop where
  major : r.rtspVersionMajor = commonRtspMajorVersion
  minor : r.rtspVersionMinor = commonRtspMinorVersion
  status : 100 ≤ r.statusCode ∧ r.statusCode ≤ 999
  reason : IsReason r.reasonPhrase
  names : ∀ header ∈ r.headers, IsToken header.1
  values : ∀ header ∈ r.headers, V header.2

/-- A request whose values have the property, and that has no line end in what else a response
repeats of it. -/
structure InternalRequest.Gives (V : Text → Prop) (request : InternalRequest) : Prop where
  method : Rtsp.OneLine request.1.methodOrExtension
  uri : Rtsp.OneLine request.1.uri
  values : ∀ {key value}, request.2.lookup key = some value → V value

lemma InternalRequest.Gives.getD {V : Text → Prop} {request : InternalRequest}
    (h : request.Gives V) {key : Text} (hne : (request.2.lookup key).getD [] ≠ []) :
    V ((request.2.lookup key).getD []) := by
  cases hlookup : request.2.lookup key with
  | none =>
    rw [hlookup] at hne
    exact absurd rfl hne
  | some value => exact h.values hlookup

section Composed

variable {V : Text → Prop} {response : Response} {w : Text}

/-- A response with another status and reason. -/
lemma Response.Composed.refuse (h : response.Composed V) {statusCode : ℕ}
    (hstatus : 100 ≤ statusCode ∧ statusCode ≤ 999) (hw : IsReason w) :
    Response.Composed V { response with statusCode := statusCode, reasonPhrase := w } :=
  ⟨h.major, h.minor, hstatus, hw, h.names, h.values⟩

lemma Response.Composed.append (h : response.Composed V) {headers : RawHeaders}
    (hnames : ∀ header ∈ headers, IsToken header.1) (hvalues : ∀ header ∈ headers, V header.2) :
    Response.Composed V { response with headers := response.headers ++ headers } :=
  ⟨h.major, h.minor, h.status, h.reason, List.forall_mem_append.mpr ⟨h.names, hnames⟩,
    List.forall_mem_append.mpr ⟨h.values, hvalues⟩⟩

lemma refusal_composed {cseq : Text} (hcseq : V cseq) {statusCode : ℕ}
    (hstatus : 100 ≤ statusCode ∧ statusCode ≤ 999) (hw : IsReason w) :
    (refusal cseq statusCode w).Composed V :=
  ⟨rfl, rfl, hstatus, hw, List.forall_mem_singleton.mpr (by decide : IsToken (str "CSeq")),
    List.forall_mem_singleton.mpr hcseq⟩

lemma notImplemented_composed {cseq method : Text} (hcseq : V cseq) (hmethod : OneLine method) :
    (notImplemented cseq method).Composed V := by
  have hbegin : IsReason (str "\"") := by decide
  exact refusal_composed hcseq (by norm_num) ((hbegin.append hmethod).append (by decide))

end Composed

/-! ### Methods -/

section Methods

variable {V : Text → Prop} {env : Environment} {draws : Draws} {session : ServerSession}
  {request : InternalRequest} {response refusal : Response}

lemma commonResponseSkeleton_composed (hrequest : request.Gives V)
    (hidentifier : V session.identifier)
    (h : commonResponseSkeleton session request = .ok response) : response.Composed V := by
  unfold commonResponseSkeleton at h
  split at h
  · cases h
  · next cseq hcseq =>
      cases h
      refine ⟨rfl, rfl, by norm_num, (by decide : IsReason (str "OK")), ?_, ?_⟩
      · exact List.forall_mem_cons.mpr ⟨(by decide : IsToken (str "CSeq")),
          List.forall_mem_singleton.mpr (by decide : IsToken (str "Session"))⟩
      · exact List.forall_mem_cons.mpr ⟨hrequest.values hcseq,
          List.forall_mem_singleton.mpr hidentifier⟩

lemma setupOptions_composed (hV : ValueProperty V) (hrequest : request.Gives V)
    (hresponse : response.Composed V)
    (h : setupOptions env request.2 response = .error refusal) : refusal.Composed V := by
  unfold setupOptions at h
  split at h
  · cases h
  next required hrequired =>
  dsimp only at h
  split_ifs at h
  · cases h
    exact hresponse.refuse (by norm_num)
      (IsReason.append (by decide) ((hV.oneLine (hrequest.values hrequired)).rest _ _))
  · cases h
    refine (hresponse.refuse (by norm_num)
      (by decide : IsReason (str "Option not supported"))).append ?_ ?_
    · intro header hmem
      obtain ⟨tag, -, rfl⟩ := List.mem_map.mp hmem
      exact (by decide : IsToken (str "Unsupported"))
    · intro header hmem
      obtain ⟨tag, htag, rfl⟩ := List.mem_map.mp hmem
      have htoken : IsToken tag := require_keeps.phrase space required [] (List.forall_mem_nil _)
        tag (List.mem_of_mem_filter htag)
      exact hV.fieldValue htoken.isFieldValue
  split at h
  · cases h
    exact hresponse.refuse (by norm_num) (by decide)
  · next value hvalue =>
    split_ifs at h
    cases h
    exact hresponse.refuse (by norm_num)
      (IsReason.append (by decide) ((hV.oneLine (hrequest.values hvalue)).rest _ _))

lemma setupTransport_composed (hV : ValueProperty V) (hrequest : request.Gives V)
    (hresponse : response.Composed V) (h : setupTransport request.2 response = .error refusal) :
    refusal.Composed V := by
  unfold setupTransport at h
  split at h
  · cases h
  next value hvalue =>
  dsimp only at h
  split_ifs at h
  cases h
  exact hresponse.refuse (by norm_num)
    (IsReason.append (by decide) ((hV.oneLine (hrequest.values hvalue)).rest _ _))

lemma setupChecks_composed (hV : ValueProperty V) (hrequest : request.Gives V)
    (hresponse : response.Composed V)
    (h : setupChecks env draws session request response = .error refusal) :
    refusal.Composed V := by
  simp only [setupChecks] at h
  cases hoptions : setupOptions env request.2 response with
  | error refusal' =>
    rw [hoptions] at h
    cases h
    exact setupOptions_composed hV hrequest hresponse hoptions
  | ok options =>
    rw [hoptions] at h
    cases htransport : setupTransport request.2 response with
    | error refusal' =>
      rw [htransport] at h
      cases h
      exact setupTransport_composed hV hrequest hresponse htransport
    | ok transport =>
      rw [htransport] at h
      simp only [bind, Except.bind] at h
      cases hchosen : getAcceptableTransport transport draws with
      | none =>
        rw [hchosen] at h
        cases h
        exact hresponse.refuse (by norm_num) (by decide)
      | some chosen =>
        rw [hchosen] at h
        dsimp only at h
        split_ifs at h
        · cases h
          exact hresponse.refuse (by norm_num) (by decide)
        · cases hsource : getJpegStream env request.1.uri with
          | none =>
            rw [hsource] at h
            cases h
            have hbegin : IsReason (str "Ressource \"") := by decide
            exact hresponse.refuse (by norm_num)
              ((hbegin.append hrequest.uri).append (by decide))
          | some source =>
            rw [hsource] at h
            cases h

lemma setup_composed (hV : ValueProperty V) (hrequest : request.Gives V)
    (hidentifier : V session.identifier)
    (h : (setup env draws session request).2 = .ok response) : response.Composed V := by
  obtain ⟨skeleton, hskeleton, hcase⟩ := setup_response h
  have hanswer := commonResponseSkeleton_composed hrequest hidentifier hskeleton
  rcases hcase with hchecks | ⟨options, chosen, source, clientPort, serverPort, ssrc, hchecks, -, -,
    rfl⟩
  · exact setupChecks_composed hV hrequest hanswer hchecks
  · have hchosen := @setupChecks_headers env draws session request skeleton
    rw [hchecks] at hchosen
    obtain ⟨requested, hchosen⟩ := hchosen
    exact hanswer.append (List.forall_mem_singleton.mpr (by decide : IsToken (str "Transport")))
      (List.forall_mem_singleton.mpr
        (hV.fieldValue (generateTransportHeader_isFieldValue hchosen)))

/-- The response of PLAY and PAUSE. -/
lemma skeleton_composed (hrequest : request.Gives V) (hidentifier : V session.identifier)
    (h : ∃ skeleton, commonResponseSkeleton session request = .ok skeleton ∧
      (response = skeleton ∨ response = notValidInThisState skeleton)) : response.Composed V := by
  obtain ⟨skeleton, hskeleton, rfl | rfl⟩ := h
  · exact commonResponseSkeleton_composed hrequest hidentifier hskeleton
  · exact (commonResponseSkeleton_composed hrequest hidentifier hskeleton).refuse (by norm_num)
      (by decide)

lemma options_composed (hV : ValueProperty V) (hrequest : request.Gives V)
    (h : options request = .ok response) : response.Composed V := by
  unfold options at h
  split at h
  · cases h
  · next cseq hcseq =>
      cases h
      refine ⟨rfl, rfl, by norm_num, (by decide : IsReason (str "OK")), ?_, ?_⟩
      · exact List.forall_mem_cons.mpr ⟨(by decide : IsToken (str "CSeq")),
          List.forall_mem_singleton.mpr (by decide : IsToken (str "Public"))⟩
      · exact List.forall_mem_cons.mpr ⟨hrequest.values hcseq, List.forall_mem_singleton.mpr
          (hV.fieldValue (by decide : IsFieldValue (str "SETUP, TEARDOWN, PLAY, PAUSE")))⟩

lemma method_composed (hV : ValueProperty V) {entry : Text × MethodImplementation}
    (hmem : entry ∈ methods env draws) (hrequest : request.Gives V)
    (hidentifier : V session.identifier)
    (h : (entry.2 session request).2 = .ok response) : response.Composed V := by
  simp only [methods, List.mem_cons, List.not_mem_nil, or_false] at hmem
  rcases hmem with rfl | rfl | rfl | rfl | rfl
  · exact options_composed hV hrequest h
  · exact setup_composed hV hrequest hidentifier h
  · exact commonResponseSkeleton_composed hrequest hidentifier h
  · exact skeleton_composed hrequest hidentifier (play_response h)
  · exact skeleton_composed hrequest hidentifier (pause_response h)

end Methods

/-! ### Requests -/

section Requests

variable {V : Text → Prop} {env : Environment} {draws : Draws} {s : ServerState}
  {requester : Address} {response : Response}

lemma handleMethod_composed (hV : ValueProperty V)
    (hs : s.All fun identifier session => session.identifier = identifier)
    {method : MethodImplementation} {identifier cseq : Text} {request : InternalRequest}
    (hmem : (request.1.methodOrExtension, method) ∈ methods env draws)
    (hrequest : request.Gives V) (hcseq : V cseq) (hidentifier : V identifier)
    (h : (s.handleMethod method identifier cseq request requester).2 = .ok response) :
    response.Composed V := by
  unfold ServerState.handleMethod at h
  cases hlookup : s.sessions.lookup identifier with
  | none =>
    rw [hlookup] at h
    cases h
    exact refusal_composed hcseq (by norm_num) (by decide)
  | some session =>
    rw [hlookup] at h
    dsimp only [ServerState.call] at h
    have hsession : V session.identifier := hs identifier session hlookup ▸ hidentifier
    have hmethod := @method_composed V env draws
      { session with lastSeenRequestAddress := requester } request response hV _ hmem hrequest
      hsession
    cases hresult : (method { session with lastSeenRequestAddress := requester } request).2 with
    | error fault =>
      rw [hresult] at h
      cases h
    | ok answer =>
      rw [hresult] at h
      dsimp only at h
      split_ifs at h <;> exact hmethod (hresult.trans h)

lemma handleSetup_composed (hV : ValueProperty V)
    (hs : s.All fun identifier session => session.identifier = identifier)
    {request : InternalRequest} (hrequest : request.Gives V) (hdrawn : V draws.identifier)
    (h : (s.handleSetup env draws request requester).2 = .ok response) : response.Composed V := by
  unfold ServerState.handleSetup at h
  dsimp only at h
  cases hmethod : (methods env draws).lookup request.1.methodOrExtension with
  | none =>
    rw [hmethod] at h
    cases h
  | some method =>
    rw [hmethod] at h
    exact method_composed hV (mem_methods hmethod) hrequest
      ((emplaceSession_identifier hs draws.identifier).symm ▸ hdrawn) h

/-- The values of a response have what the values of its request and the drawn identifier have. -/
theorem handleIncomingRequest_composed (hV : ValueProperty V)
    (hs : s.All fun identifier session => session.identifier = identifier) {request : Request}
    (hrequest : InternalRequest.Gives V (request, normalizeHeaders request.headers))
    (hdrawn : V draws.identifier)
    (h : (s.handleIncomingRequest env draws request requester).2 = .ok response) :
    response.Composed V := by
  unfold ServerState.handleIncomingRequest at h
  dsimp only at h
  split_ifs at h with hmissing hoptions hdescribe haggregate hsetup
  · cases h
    exact ⟨rfl, rfl, by norm_num, by decide, List.forall_mem_nil _, List.forall_mem_nil _⟩
  · exact options_composed hV hrequest h
  · cases h
    exact notImplemented_composed (hrequest.getD hmissing) hrequest.method
  · cases h
    exact refusal_composed (hrequest.getD hmissing) (by norm_num) (by decide)
  · exact handleSetup_composed hV hs hrequest hdrawn h
  · cases hidentifier : (normalizeHeaders request.headers).lookup (str "session") with
    | none =>
      rw [hidentifier] at h
      cases h
      exact refusal_composed (hrequest.getD hmissing) (by norm_num) (by decide)
    | some identifier =>
      rw [hidentifier] at h
      cases hmethod : (methods env draws).lookup request.methodOrExtension with
      | none =>
        rw [hmethod] at h
        cases h
        exact notImplemented_composed (hrequest.getD hmissing) hrequest.method
      | some method =>
        rw [hmethod] at h
        exact handleMethod_composed hV hs (mem_methods hmethod) hrequest
          (hrequest.getD hmissing) (hrequest.values hidentifier) h

end Requests

end Rtsp
