import StreamingLib.Rtsp.Client.State
import StreamingLib.Rtsp.Headers.TransportRoundTrip

/-!
# The transport of the server

What the client makes of the Transport header that SETUP answers with.
-/

namespace Rtsp

open Peg

/-! ### The header of SETUP -/

/-- A refusal for its options has no other headers than unsupported tags. -/
lemma setupOptions_error_headers {env : Environment} {headers : NormalizedHeaders}
    {response refusal : Response} (h : setupOptions env headers response = .error refusal) :
    ∃ tags : List Text, refusal.headers =
      response.headers ++ tags.map fun tag => (str "Unsupported", tag) := by
  unfold setupOptions at h
  split at h
  · cases h
  dsimp only at h
  split_ifs at h
  · cases h
    exact ⟨[], by simp⟩
  · cases h
    exact ⟨_, rfl⟩
  split at h
  · cases h
    exact ⟨[], by simp⟩
  split_ifs at h
  cases h
  exact ⟨[], by simp⟩

lemma setupTransport_error_headers {headers : NormalizedHeaders} {response refusal : Response}
    (h : setupTransport headers response = .error refusal) :
    refusal.headers = response.headers := by
  unfold setupTransport at h
  split at h
  · cases h
  dsimp only at h
  split_ifs at h
  cases h
  rfl

/-- What the checks of SETUP find: a transport that is acceptable, or a refusal. -/
lemma setupChecks_headers {env : Environment} {draws : Draws} {session : ServerSession}
    {request : InternalRequest} {response : Response} :
    match setupChecks env draws session request response with
    | .error refusal => ∃ tags : List Text, refusal.headers =
        response.headers ++ tags.map fun tag => (str "Unsupported", tag)
    | .ok (_, chosen, _) => ∃ requested, getAcceptableTransport requested draws = some chosen := by
  simp only [setupChecks]
  cases hoptions : setupOptions env request.2 response with
  | error refusal => exact setupOptions_error_headers hoptions
  | ok options =>
    cases htransport : setupTransport request.2 response with
    | error refusal =>
      exact ⟨[], by simpa using setupTransport_error_headers htransport⟩
    | ok transport =>
      simp only [bind, Except.bind]
      cases hchosen : getAcceptableTransport transport draws with
      | none => exact ⟨[], by simp⟩
      | some chosen =>
        dsimp only
        split_ifs
        · exact ⟨[], by simp⟩
        · cases getJpegStream env request.1.uri with
          | none => exact ⟨[], by simp⟩
          | some source => exact ⟨transport, hchosen⟩

/-- The transport that SETUP answers with. -/
lemma getAcceptableTransport_eq {requested : Transport} {draws : Draws} {chosen : TransportSpec}
    (h : getAcceptableTransport requested draws = some chosen) :
    ∃ clientPort ssrc serverPort, chosen =
      { transportProtocol := str "RTP"
        profile := str "AVP"
        lowerTransport := some (str "UDP")
        parameters := [.string (str "unicast"), .port ⟨.client, .number clientPort⟩, .ssrc ssrc,
          .port serverPort] } := by
  unfold getAcceptableTransport at h
  obtain ⟨spec, -, rfl⟩ := Option.map_eq_some_iff.mp h
  have hssrc : ∃ ssrc, (spec.parameters.find? (·.isSsrc)).getD (.ssrc draws.ssrc) =
      Parameter.ssrc ssrc := by
    cases hfind : spec.parameters.find? (·.isSsrc) with
    | none => exact ⟨_, rfl⟩
    | some p =>
      have hp := List.find?_some hfind
      cases p with
      | ssrc value => exact ⟨value, rfl⟩
      | ttl value | port value | mode value | string value => cases hp
  have hport : ∀ clientPort : UInt16, ∃ port,
      (spec.parameters.find? (·.isPort .server)).getD
        (.port ⟨.server, .number (clientPort + 2)⟩) = Parameter.port port := by
    intro clientPort
    cases hfind : spec.parameters.find? (·.isPort .server) with
    | none => exact ⟨_, rfl⟩
    | some p =>
      have hp := List.find?_some hfind
      cases p with
      | port value => exact ⟨value, rfl⟩
      | ttl value | ssrc value | mode value | string value => cases hp
  obtain ⟨ssrc, hssrc⟩ := hssrc
  obtain ⟨port, hport⟩ := hport (chosenClientPort spec.parameters draws)
  refine ⟨chosenClientPort spec.parameters draws, ssrc, port, ?_⟩
  dsimp only
  rw [hssrc, hport]

/-- SETUP answers with the transport whose parameters its sender is built with. -/
lemma setup_transport {env : Environment} {draws : Draws} {session session' : ServerSession}
    {request : InternalRequest} {response : Response} {header : Text}
    (h : setup env draws session request = (session', .ok response))
    (hheader : (str "Transport", header) ∈ response.headers) :
    ∃ options chosen source skeleton clientPort serverPort ssrc,
      setupChecks env draws session request skeleton = .ok (options, chosen, source) ∧
      senderParameters chosen = .ok (clientPort, serverPort, ssrc) ∧
      session'.rtpSession = some (.new ssrc source (options.map (·.fecK)) draws.sequenceNumber
        draws.fecSequenceNumber) ∧
      header = generateTransportHeader ⟨[chosen]⟩ := by
  have hname : str "Transport" ≠ str "CSeq" ∧ str "Transport" ≠ str "Session" ∧
      str "Transport" ≠ str "Unsupported" := by decide
  obtain ⟨skeleton, hskeleton, hcase⟩ := setup_response (congrArg Prod.snd h)
  rw [h] at hcase
  have hheaders : ∀ value, (str "Transport", value) ∉ skeleton.headers := by
    intro value hmem
    unfold commonResponseSkeleton at hskeleton
    split at hskeleton
    · cases hskeleton
    · cases hskeleton
      rcases List.mem_cons.mp hmem with hmem | hmem
      · exact hname.1 (congrArg Prod.fst hmem)
      · exact hname.2.1 (congrArg Prod.fst (List.mem_singleton.mp hmem))
  rcases hcase with hchecks |
    ⟨options, chosen, source, clientPort, serverPort, ssrc, hchecks, hparameters, hsession, rfl⟩
  · have hrefused := @setupChecks_headers env draws session request skeleton
    rw [hchecks] at hrefused
    obtain ⟨tags, htags⟩ := hrefused
    rw [htags] at hheader
    rcases List.mem_append.mp hheader with hmem | hmem
    · exact absurd hmem (hheaders header)
    · obtain ⟨tag, -, htag⟩ := List.mem_map.mp hmem
      exact absurd (congrArg Prod.fst htag).symm hname.2.2
  · rcases List.mem_append.mp hheader with hmem | hmem
    · exact absurd hmem (hheaders header)
    · exact ⟨options, chosen, source, skeleton, clientPort, serverPort, ssrc, hchecks,
        hparameters, congrArg (·.rtpSession) hsession,
        congrArg Prod.snd (List.mem_singleton.mp hmem)⟩

/-! ### The reading of the client -/

/-- What is negotiated consists of tokens, ports and an ssrc. -/
lemma wellFormed_negotiated (clientPort : UInt16) (ssrc : UInt32) (port : Port) :
    Transport.WellFormed ⟨[{
      transportProtocol := str "RTP"
      profile := str "AVP"
      lowerTransport := some (str "UDP")
      parameters := [.string (str "unicast"), .port ⟨.client, .number clientPort⟩, .ssrc ssrc,
        .port port] }]⟩ := by
  have htokens : IsToken (str "RTP") ∧ IsToken (str "AVP") ∧ IsToken (str "UDP") ∧
      IsToken (str "unicast") := by decide
  intro s hs
  rw [List.mem_singleton.mp hs]
  refine ⟨htokens.1, htokens.2.1, ?_, ?_⟩
  · intro l hl
    cases hl
    exact htokens.2.2.1
  · simp only [List.forall_mem_cons]
    exact ⟨htokens.2.2.2, trivial, trivial, trivial, List.forall_mem_nil _⟩

/-- The client recovers the parameters of a chosen transport exactly where the source is written
with eight digits. -/
lemma processServerTransportHeader_iff {requested : Transport} {draws : Draws}
    {chosen : TransportSpec} (hchosen : getAcceptableTransport requested draws = some chosen)
    {clientPort serverPort : UInt16} {ssrc : UInt32}
    (hparameters : senderParameters chosen = .ok (clientPort, serverPort, ssrc)) :
    processServerTransportHeader (generateTransportHeader ⟨[chosen]⟩) = .ok ⟨clientPort, ssrc⟩ ↔
      0x10000000 ≤ ssrc.toNat := by
  obtain ⟨clientPort', ssrc', port, rfl⟩ := getAcceptableTransport_eq hchosen
  obtain ⟨rfl, rfl⟩ : clientPort' = clientPort ∧ ssrc' = ssrc := by
    rcases port with ⟨type, n | ⟨first, second⟩⟩
    · cases hparameters
      exact ⟨rfl, rfl⟩
    · cases hparameters
  have hwf := wellFormed_negotiated clientPort' ssrc' port
  by_cases hssrc : 0x10000000 ≤ ssrc'.toNat
  · refine iff_of_true ?_ hssrc
    have hread := transportGrammar_matches hwf (by simp) (by
      simp only [List.forall_mem_cons, TransportSpec.FillsDigits]
      exact ⟨⟨trivial, trivial, hssrc, trivial, List.forall_mem_nil _⟩, List.forall_mem_nil _⟩)
      default
    obtain ⟨hok, -, hattr⟩ := hread.run_ok
    unfold processServerTransportHeader
    dsimp only
    rw [hok, hattr]
    rfl
  · refine iff_of_false ?_ hssrc
    obtain ⟨before, hbefore⟩ : ∃ before : List Parameter,
        before = [.string (str "unicast"), .port ⟨.client, .number clientPort'⟩] := ⟨_, rfl⟩
    have hfull : ∀ p ∈ before, p.FillsDigits := by
      simp only [hbefore, List.forall_mem_cons]
      exact ⟨trivial, trivial, List.forall_mem_nil _⟩
    obtain ⟨x, hread⟩ := @transportGrammar_matches_of_short _ hwf [] [] _ rfl
      (List.forall_mem_nil _) before [.port port] ssrc' (by rw [hbefore]; rfl) hfull
      (not_le.mp hssrc) default
    obtain ⟨hok, -, hattr⟩ := hread.run_ok
    unfold processServerTransportHeader
    dsimp only
    rw [hok, hattr, hbefore]
    intro h
    cases h

/-- A well-formed value is read back from its header exactly where it has a specification and each
`ssrc` is written with eight digits, and from the header of SETUP the client recovers the port and
the source of the sender exactly where that is so for this source. -/
theorem transport_round_trip_iff {t : Transport} (ht : t.WellFormed) :
    (transportGrammar.Matches (generateTransportHeader t) default [] t ↔
      t.specifications ≠ [] ∧ ∀ s ∈ t.specifications, s.FillsDigits) ∧
    ∀ env draws session request session' response header,
      setup env draws session request = (session', .ok response) →
      (str "Transport", header) ∈ response.headers →
      ∃ options chosen source skeleton clientPort serverPort ssrc,
        setupChecks env draws session request skeleton = .ok (options, chosen, source) ∧
        senderParameters chosen = .ok (clientPort, serverPort, ssrc) ∧
        session'.rtpSession = some (.new ssrc source (options.map (·.fecK)) draws.sequenceNumber
          draws.fecSequenceNumber) ∧
        (processServerTransportHeader header = .ok ⟨clientPort, ssrc⟩ ↔
          0x10000000 ≤ ssrc.toNat) := by
  refine ⟨transportGrammar_matches_iff ht default, ?_⟩
  intro env draws session request session' response header hsetup hheader
  obtain ⟨options, chosen, source, skeleton, clientPort, serverPort, ssrc, hchecks, hparameters,
    hsender, rfl⟩ := setup_transport hsetup hheader
  have hchosen := @setupChecks_headers env draws session request skeleton
  rw [hchecks] at hchosen
  obtain ⟨requested, hchosen⟩ := hchosen
  exact ⟨options, chosen, source, skeleton, clientPort, serverPort, ssrc, hchecks, hparameters,
    hsender, processServerTransportHeader_iff hchosen hparameters⟩

/-- A value with parameters of all kinds. -/
def sampleTransport (ssrc : UInt32) : Transport where
  specifications := [
    { transportProtocol := str "RTP"
      profile := str "AVP"
      lowerTransport := some (str "UDP")
      parameters := [.ttl 127, .port ⟨.general, .number 42⟩, .port ⟨.client, .range 5 1337⟩,
        .mode (str "PLAY"), .ssrc ssrc, .string (str "unicast")] },
    { transportProtocol := str "RTP"
      profile := str "AVP"
      lowerTransport := none
      parameters := [] }]

lemma sampleTransport_wellFormed (ssrc : UInt32) : (sampleTransport ssrc).WellFormed := by
  have htokens : IsToken (str "RTP") ∧ IsToken (str "AVP") ∧ IsToken (str "UDP") ∧
      IsToken (str "unicast") := by decide
  obtain ⟨hrtp, havp, hudp, hunicast⟩ := htokens
  have hmode : IsQuotable (str "PLAY") := ⟨by decide, by decide +kernel⟩
  intro s hs
  rcases List.mem_cons.mp hs with rfl | hs
  · refine ⟨hrtp, havp, ?_, ?_⟩
    · intro l hl
      cases hl
      exact hudp
    · simp only [List.forall_mem_cons]
      exact ⟨show 127 < 1000 by decide, trivial, trivial, hmode, trivial, hunicast,
        List.forall_mem_nil _⟩
  · rw [List.mem_singleton.mp hs]
    exact ⟨hrtp, havp, nofun, List.forall_mem_nil _⟩

theorem transport_round_trip_sample :
    transportGrammar.Matches (generateTransportHeader (sampleTransport 0xDEADBEEF)) default []
      (sampleTransport 0xDEADBEEF) := by
  refine (transport_round_trip_iff (sampleTransport_wellFormed 0xDEADBEEF)).1.mpr
    ⟨by simp [sampleTransport], ?_⟩
  simp only [sampleTransport, List.forall_mem_cons, TransportSpec.FillsDigits]
  have hssrc : 0x10000000 ≤ (0xDEADBEEF : UInt32).toNat := by decide
  exact ⟨⟨trivial, trivial, trivial, trivial, hssrc, trivial, List.forall_mem_nil _⟩,
    List.forall_mem_nil _, List.forall_mem_nil _⟩

/-- A small `ssrc` is cut off with all that follows. -/
theorem transport_not_read_back :
    ¬∀ t : Transport, t.WellFormed →
      transportGrammar.Matches (generateTransportHeader t) default [] t := by
  intro h
  have hread := h (sampleTransport 1) (sampleTransport_wellFormed 1)
  have hrest : (transportGrammar.run (generateTransportHeader (sampleTransport 1))
      default).rest ≠ [] := by
    decide
  exact hrest hread.run_ok.2.1

end Rtsp
