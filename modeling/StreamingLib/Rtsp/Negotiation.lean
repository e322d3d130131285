import StreamingLib.Rtsp.Methods

/-!
# Transport negotiation

`get_acceptable_transport` answers the first specification it supports. Of a range of client ports
it takes the first port, yet it hands a range of server ports on to SETUP, which needs one number,
and it counts to the server port with 16 bits.
-/

namespace Rtsp

open Peg

namespace TransportSpec

/-- The specification asks for a server port. -/
def NamesServerPort (spec : TransportSpec) : Prop := ∃ p ∈ spec.parameters, p.isPort .server

/-- What SETUP relies on in the answer to a specification. -/
def Serves (chosen spec : TransportSpec) : Prop :=
  ∃ clientPort ssrc serverPort,
    chosen.parameters = [.string (str "unicast"), .port ⟨.client, .number clientPort⟩, .ssrc ssrc,
      .port ⟨.server, .number serverPort⟩] ∧
    senderParameters chosen = .ok (clientPort, serverPort, ssrc) ∧
    (¬spec.NamesServerPort → serverPort.toNat = clientPort.toNat + 2)

/-- The first server port that is asked for is a single number. Without any, the client port that
is asked for leaves room for the server port above it. -/
structure AsksSinglePorts (spec : TransportSpec) : Prop where
  server : ∀ port, spec.parameters.find? (·.isPort .server) = some (.port port) →
    ∃ n, port.portNumbers = .number n
  client : ¬spec.NamesServerPort → ∀ port,
    spec.parameters.find? (·.isPort .client) = some (.port port) →
      port.firstNumber.toNat + 2 < 2 ^ 16

variable {spec : TransportSpec}

lemma not_namesServerPort_iff :
    ¬spec.NamesServerPort ↔ spec.parameters.find? (·.isPort .server) = none := by
  simp [NamesServerPort]

end TransportSpec

lemma Parameter.isPort_iff {type : PortType} {p : Parameter} :
    p.isPort type ↔ ∃ numbers, p = .port ⟨type, numbers⟩ := by
  cases p with
  | port port =>
    obtain ⟨type', numbers⟩ := port
    simp [Parameter.isPort]
  | ttl value | ssrc value | mode value | string value => simp [Parameter.isPort]

lemma find?_isPort {type : PortType} {ps : List Parameter} {p : Parameter}
    (h : ps.find? (·.isPort type) = some p) : ∃ numbers, p = .port ⟨type, numbers⟩ :=
  Parameter.isPort_iff.mp (List.find?_some h)

/-- The source that is answered. -/
lemma exists_chosenSsrc (ps : List Parameter) (drawn : UInt32) :
    ∃ ssrc, (ps.find? (·.isSsrc)).getD (.ssrc drawn) = .ssrc ssrc := by
  cases hfind : ps.find? (·.isSsrc) with
  | none => exact ⟨drawn, rfl⟩
  | some p =>
    have hp := List.find?_some hfind
    cases p with
    | ssrc value => exact ⟨value, rfl⟩
    | ttl value | port value | mode value | string value => cases hp

/-- Two is added to the client port without wrapping where there is room. -/
lemma toNat_add_two_iff (port : UInt16) :
    (port + 2).toNat = port.toNat + 2 ↔ port.toNat + 2 < 2 ^ 16 := by
  have hlt := port.toNat_lt
  rw [UInt16.toNat_add]
  change (port.toNat + 2) % 2 ^ 16 = _ ↔ _
  omega

/-- The drawn ports leave room, so only a port that is asked for can be too high. -/
lemma chosenClientPort_add_two_iff {draws : Draws} (hdraws : draws.clientPort.toNat ≤ 65525)
    (ps : List Parameter) :
    (chosenClientPort ps draws).toNat + 2 < 2 ^ 16 ↔
      ∀ port, ps.find? (·.isPort .client) = some (.port port) →
        port.firstNumber.toNat + 2 < 2 ^ 16 := by
  unfold chosenClientPort
  cases hfind : ps.find? (·.isPort .client) with
  | none => exact iff_of_true (by dsimp only; omega) nofun
  | some p =>
    obtain ⟨numbers, rfl⟩ := find?_isPort hfind
    simp

/-- The answer to the first supported specification. -/
lemma serves_iff {draws : Draws} (hdraws : draws.clientPort.toNat ≤ 65525)
    {requested : Transport} {spec chosen : TransportSpec}
    (hspec : requested.specifications.find? (·.isAcceptable) = some spec)
    (hchosen : getAcceptableTransport requested draws = some chosen) :
    chosen.Serves spec ↔ spec.AsksSinglePorts := by
  simp only [getAcceptableTransport, hspec, Option.map_some, Option.some.injEq] at hchosen
  obtain ⟨ssrc, hssrc⟩ := exists_chosenSsrc spec.parameters draws.ssrc
  have hroom := chosenClientPort_add_two_iff hdraws spec.parameters
  rw [hssrc] at hchosen
  generalize chosenClientPort spec.parameters draws = clientPort at hchosen hroom
  cases hserver : spec.parameters.find? (·.isPort .server) with
  | none =>
    have hnone := TransportSpec.not_namesServerPort_iff.mpr hserver
    rw [hserver, Option.getD_none] at hchosen
    subst hchosen
    constructor
    · rintro ⟨clientPort', ssrc', serverPort, hparameters, -, hsum⟩
      simp only [List.cons.injEq, Parameter.port.injEq, Port.mk.injEq, PortNumbers.number.injEq,
        true_and, and_true] at hparameters
      obtain ⟨rfl, -, rfl⟩ := hparameters
      refine ⟨by simp [hserver], fun _ => hroom.mp ?_⟩
      exact (toNat_add_two_iff clientPort).mp (hsum hnone)
    · intro h
      refine ⟨clientPort, ssrc, clientPort + 2, rfl, rfl, fun _ => ?_⟩
      exact (toNat_add_two_iff clientPort).mpr (hroom.mpr (h.client hnone))
  | some p =>
    have hsome : spec.NamesServerPort := by
      rw [← not_not (a := spec.NamesServerPort), TransportSpec.not_namesServerPort_iff, hserver]
      nofun
    obtain ⟨numbers, rfl⟩ := find?_isPort hserver
    rw [hserver, Option.getD_some] at hchosen
    subst hchosen
    constructor
    · rintro ⟨clientPort', ssrc', serverPort, hparameters, -, -⟩
      simp only [List.cons.injEq, Parameter.port.injEq, Port.mk.injEq, true_and,
        and_true] at hparameters
      refine ⟨fun port hport => ?_, fun hnone => absurd hsome hnone⟩
      rw [hserver] at hport
      cases hport
      exact ⟨serverPort, hparameters.2.2⟩
    · intro h
      obtain ⟨serverPort, hserverPort⟩ := h.server _ hserver
      dsimp only at hserverPort
      subst hserverPort
      exact ⟨clientPort, ssrc, serverPort, rfl, rfl, fun hnone => absurd hsome hnone⟩

/-- SETUP gets the parameters that it relies on exactly where the first specification that is
supported asks for a single server port, or for none and for a client port with room above it. -/
theorem negotiation_serves_iff (requested : Transport) {draws : Draws}
    (hdraws : 49152 ≤ draws.clientPort.toNat ∧ draws.clientPort.toNat ≤ 65525) :
    (∀ chosen, getAcceptableTransport requested draws = some chosen →
      ∃ spec, requested.specifications.find? (·.isAcceptable) = some spec ∧
        chosen.Serves spec) ↔
    ∀ spec, requested.specifications.find? (·.isAcceptable) = some spec →
      spec.AsksSinglePorts := by
  constructor
  · intro h spec hspec
    have hchosen : ∃ chosen, getAcceptableTransport requested draws = some chosen := by
      rw [getAcceptableTransport, hspec]
      exact ⟨_, rfl⟩
    obtain ⟨chosen, hchosen⟩ := hchosen
    obtain ⟨spec', hspec', hserves⟩ := h chosen hchosen
    rw [hspec] at hspec'
    cases hspec'
    exact (serves_iff hdraws.2 hspec hchosen).mp hserves
  · intro h chosen hchosen
    obtain ⟨spec, hspec, -⟩ := Option.map_eq_some_iff.mp hchosen
    exact ⟨spec, hspec, (serves_iff hdraws.2 hspec hchosen).mpr (h spec hspec)⟩

/-- A request without ports. -/
theorem negotiation_serves_iff_unicast :
    let spec : TransportSpec :=
      { transportProtocol := str "RTP", profile := str "AVP", lowerTransport := none
        parameters := [.string (str "unicast")] }
    ∀ chosen, getAcceptableTransport ⟨[spec]⟩ {} = some chosen →
      ∃ spec', [spec].find? (·.isAcceptable) = some spec' ∧ chosen.Serves spec' := by
  intro spec
  refine (negotiation_serves_iff ⟨[spec]⟩ (by decide)).mpr fun spec' hspec' => ?_
  obtain rfl := List.mem_singleton.mp (List.mem_of_find?_eq_some hspec')
  exact ⟨by simp [spec, Parameter.isPort], fun _ => by simp [spec, Parameter.isPort]⟩

/-- Of a range of server ports SETUP can take no number, and above the client port 65534 the server
port is 0. -/
theorem negotiation_serves_not :
    let range := (phraseParse transportGrammar).run
      (str "RTP/AVP;unicast;client_port=50000-50001;server_port=6000-6001") default
    let high := (phraseParse transportGrammar).run
      (str "RTP/AVP;unicast;client_port=65534") default
    (range.ok ∧ range.rest = [] ∧
      (getAcceptableTransport range.attr {}).map senderParameters = some (.error .badGet)) ∧
    (high.ok ∧ high.rest = [] ∧
      (getAcceptableTransport high.attr {}).map (fun chosen => chosen.parameters.getLast?) =
        some (some (.port ⟨.server, .number 0⟩))) := by
  decide

end Rtsp
