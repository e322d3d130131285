import StreamingLib.Rtp.MediaPackets

/-!
# Frame conservation

The packets that were shown, those in the frame buffer and those in the incoming buffer are the
accepted packets in the order of their arrival, each behind the packet that was recovered for the
gap before it.
-/

namespace Rtp

open Transition

/-! ### Runs -/

/-- An accepted packet. -/
structure Arrival where
  packet : CustomJpegPacket
  /-- The packet recovered for the gap that it closes. -/
  recovered : Option CustomJpegPacket := none
deriving DecidableEq

def Arrival.packets (a : Arrival) : List CustomJpegPacket := a.recovered.toList ++ [a.packet]

/-- A new arrival, and the recovered packet for the one that came in `mediaPacketDelay` places
ago. -/
def arrive (arrivals : List Arrival) (packet : CustomJpegPacket)
    (recovered : Option CustomJpegPacket) : List Arrival :=
  let arrivals : List Arrival := arrivals ++ [{ packet := packet }]
  match recovered with
  | none => arrivals
  | some q => arrivals.modify (arrivals.length - mediaPacketDelay) fun a =>
      { a with recovered := some q }

/-- The packet that is recovered for a gap of one. -/
def recoveredInGap (buffer : List MediaPacket) (fecBuffer : List (CustomFecPacket × Octets)) :
    Option CustomJpegPacket :=
  if gap buffer = some 2 then
    match recoveredPacket buffer fecBuffer with
    | .ok (some q) => some q.1
    | _ => none
  else none

/-- A buffer with the recovered packet, if there is one, in its place. -/
def insertRecovered (buffer : List CustomJpegPacket) (recovered : Option CustomJpegPacket) :
    List CustomJpegPacket :=
  match recovered with
  | none => buffer
  | some q => buffer.insertIdx (buffer.length - mediaPacketDelay) q

namespace Receiver

/-- The packet that is recovered when a packet has got into the incoming buffer. -/
def recovers (r : Receiver) (message : Octets) (packet : CustomJpegPacket) :
    Option CustomJpegPacket :=
  let buffer := r.jpegPacketIncomingBuffer ++ [(packet, message)]
  if bufferSize ≤ buffer.length then recoveredInGap buffer r.fecPacketIncomingBuffer else none

/-- The packets shown and to be shown. -/
def stream (r : Receiver) : List CustomJpegPacket :=
  r.shown ++ r.jpegPacketFrameBuffer ++ r.jpegPacketIncomingBuffer.map Prod.fst

end Receiver

/-- A receiver with what it has accepted. -/
structure Reception where
  receiver : Receiver
  /-- The accepted packets in the order of their arrival. -/
  accepted : List CustomJpegPacket := []
  /-- The accepted packets with those recovered for them. -/
  arrivals : List Arrival := []
deriving DecidableEq

inductive ReceiverEvent
  | datagram (error : Bool) (received : Octets)
  | tick (error : Bool)
  | setStatisticsHandler (present : Bool)
deriving DecidableEq

/-- The datagram that is handled. -/
def ReceiverEvent.message : ReceiverEvent → Option Octets
  | .datagram false message => some message
  | _ => none

/-- A datagram that is received without an error. -/
def Reception.receive (s : Reception) (received : Octets) : Reception :=
  let receiver := (s.receiver.handleNewIncomingMessage received).1
  match s.receiver.accepted received with
  | none => { s with receiver := receiver }
  | some packet =>
    { receiver := receiver
      accepted := s.accepted ++ [packet]
      arrivals := arrive s.arrivals packet (s.receiver.recovers received packet) }

def Reception.step (s : Reception) : ReceiverEvent → Option Reception
  | .datagram true _ => some s
  | .datagram false received => some (s.receive received)
  | .tick error => some { s with receiver := (s.receiver.displayNextFrameTimerHandler error).1 }
  | .setStatisticsHandler present =>
    some { s with receiver := { s.receiver with statisticsHandler := present } }

/-- A new receiver. -/
def receptionSystem : System Reception ReceiverEvent where
  init s := ∃ ssrc statisticsHandler,
    s = { receiver := { ssrc := ssrc, statisticsHandler := statisticsHandler } }
  step := Reception.step

/-! ### Handlers -/

namespace Receiver

lemma stream_moveFront (r : Receiver) : r.moveFront.stream = r.stream := by
  unfold moveFront
  cases h : r.jpegPacketIncomingBuffer with
  | nil => rfl
  | cons packet buffer => simp [stream, h]

lemma stream_displayNextFrameTimerHandler (r : Receiver) (error : Bool) :
    (r.displayNextFrameTimerHandler error).1.stream = r.stream := by
  unfold displayNextFrameTimerHandler
  split_ifs
  · rfl
  · cases h : r.jpegPacketFrameBuffer with
    | nil => rfl
    | cons packet buffer => simp [stream, h]

/-- The recovered packet of a gap goes into the incoming buffer, in whichever way the handler
ends. -/
lemma stream_closeGap (r : Receiver) :
    r.closeGap.1.stream = r.shown ++ r.jpegPacketFrameBuffer ++
      insertRecovered (r.jpegPacketIncomingBuffer.map Prod.fst)
        (recoveredInGap r.jpegPacketIncomingBuffer r.fecPacketIncomingBuffer) := by
  unfold recoveredInGap
  rcases closeGap_cases r with ⟨hgap, h⟩ | ⟨d, hgap, hd, h⟩ | ⟨d, hgap, hd, h⟩ |
    ⟨hgap, ⟨fault, hrecovered, h⟩ | ⟨hrecovered, h⟩ | ⟨q, hrecovered, h⟩⟩ <;> rw [h, hgap]
  · rfl
  · rw [if_neg fun htwo => hd.ne (Option.some.inj htwo)]
    rfl
  · rw [if_neg fun htwo => hd.ne' (Option.some.inj htwo)]
    rfl
  · rw [if_pos rfl, hrecovered]
    rfl
  · rw [if_pos rfl, hrecovered]
    rfl
  · rw [if_pos rfl, hrecovered]
    simp only [stream, insertRecovered, List.map_insertIdx, List.length_map]

/-- What a datagram does to the stream. -/
lemma stream_handleNewJpegPacket (r : Receiver) (message : Octets) :
    (r.handleNewJpegPacket message).1.stream =
      match r.accepted message with
      | none => r.stream
      | some packet => r.shown ++ r.jpegPacketFrameBuffer ++ insertRecovered
          (r.jpegPacketIncomingBuffer.map Prod.fst ++ [packet]) (r.recovers message packet) := by
  cases hmedia : mediaPacket r.ssrc message with
  | none =>
    have haccepted : r.accepted message = none := by
      rw [accepted_eq, hmedia]
      rfl
    rw [(handleNewJpegPacket_of_no_media hmedia).1, haccepted]
  | some packet =>
    rcases hupdate : updateUtility r.jpegSequenceUtility packet.header.sequenceNumber with
      ⟨utility, - | -⟩
    · rw [handleNewJpegPacket_of_rejected hmedia hupdate,
        accepted_of_rejected hmedia (congrArg Prod.snd hupdate)]
      rfl
    · have hlength : (r.jpegPacketIncomingBuffer ++ [(packet, message)]).length =
          r.jpegPacketIncomingBuffer.length + 1 := List.length_append
      have hrecovers : r.recovers message packet =
          if bufferSize ≤ r.jpegPacketIncomingBuffer.length + 1 then
            recoveredInGap (r.jpegPacketIncomingBuffer ++ [(packet, message)])
              r.fecPacketIncomingBuffer
          else none := by
        rw [← hlength]
        rfl
      rw [handleNewJpegPacket_of_accepted hmedia hupdate,
        accepted_of_media hmedia (congrArg Prod.snd hupdate)]
      dsimp only
      rw [hrecovers]
      by_cases hshort : r.jpegPacketIncomingBuffer.length + 1 < bufferSize
      · rw [if_pos hshort, if_neg (not_le.mpr hshort)]
        simp [stream, insertRecovered, append]
      · have hgap := stream_closeGap (r.append utility (packet, message))
        rw [if_neg hshort, if_pos (not_lt.mp hshort)]
        refine (Eq.trans ?_ hgap).trans ?_
        · rcases (r.append utility (packet, message)).closeGap with ⟨r', - | fault⟩
          · exact stream_moveFront r'
          · rfl
        · simp only [append, List.map_append]
          rfl

/-- Only a JPEG packet changes the stream. -/
lemma stream_handleNewIncomingMessage (r : Receiver) (message : Octets) :
    (r.handleNewIncomingMessage message).1.stream = (r.handleNewJpegPacket message).1.stream :=
  handleNewIncomingMessage_frame stream (fun _ _ _ => rfl) (fun _ _ => rfl) r message

end Receiver

/-! ### Steps -/

/-- Only a datagram changes more than the frame buffer and the settings. -/
lemma Reception.step_cases {s s' : Reception} {e : ReceiverEvent} (h : s.step e = some s') :
    (∃ message, e.message = some message ∧ s' = s.receive message) ∨
      e.message = none ∧ s'.accepted = s.accepted ∧ s'.receiver.stream = s.receiver.stream ∧
        ∃ handler, s'.receiver.mediaPart =
          { s.receiver.mediaPart with statisticsHandler := handler } := by
  cases e with
  | datagram error received =>
    cases error with
    | true =>
      cases h
      exact Or.inr ⟨rfl, rfl, rfl, s.receiver.statisticsHandler, rfl⟩
    | false =>
      cases h
      exact Or.inl ⟨received, rfl, rfl⟩
  | tick error =>
    cases h
    refine Or.inr ⟨rfl, rfl, s.receiver.stream_displayNextFrameTimerHandler error,
      s.receiver.statisticsHandler, ?_⟩
    exact s.receiver.mediaPart_displayNextFrameTimerHandler error
  | setStatisticsHandler present =>
    cases h
    exact Or.inr ⟨rfl, rfl, rfl, present, rfl⟩

lemma Reception.receive_receiver (s : Reception) (received : Octets) :
    (s.receive received).receiver = (s.receiver.handleNewIncomingMessage received).1 := by
  unfold receive
  cases s.receiver.accepted received <;> rfl

lemma Reception.receive_accepted (s : Reception) (received : Octets) :
    (s.receive received).accepted = s.accepted ++ (s.receiver.accepted received).toList := by
  unfold receive
  cases s.receiver.accepted received with
  | none => exact (List.append_nil _).symm
  | some packet => rfl

/-! ### Arrivals -/

lemma insertIdx_append {α : Type} (xs ys : List α) (a : α) :
    (xs ++ ys).insertIdx xs.length a = xs ++ a :: ys := by
  induction xs with
  | nil => rfl
  | cons x xs ih => rw [List.cons_append, List.length_cons, List.insertIdx_succ_cons, ih,
      List.cons_append]

lemma modify_append {α : Type} (xs ys : List α) (a : α) (f : α → α) :
    (xs ++ a :: ys).modify xs.length f = xs ++ f a :: ys := by
  induction xs with
  | nil => rfl
  | cons x xs ih => rw [List.cons_append, List.length_cons, List.modify_succ_cons, ih,
      List.cons_append]

lemma fromEnd_append {α : Type} (xs ys : List α) (a : α) :
    fromEnd (xs ++ a :: ys) (ys.length + 1) = some a := by
  unfold fromEnd
  rw [if_pos (by simp), List.length_append, List.length_cons, Nat.add_sub_cancel_right]
  simp

/-- Arrivals without recovered packets. -/
lemma flatMap_packets {arrivals : List Arrival} (h : ∀ a ∈ arrivals, a.recovered = none) :
    arrivals.flatMap Arrival.packets = arrivals.map (·.packet) := by
  induction arrivals with
  | nil => rfl
  | cons a arrivals ih =>
    rw [List.flatMap_cons, Arrival.packets, h a List.mem_cons_self, List.map_cons,
      ih fun b hb => h b (List.mem_cons_of_mem a hb)]
    rfl

lemma length_flatMap_packets_le (arrivals : List Arrival) :
    (arrivals.flatMap Arrival.packets).length ≤ 2 * arrivals.length := by
  induction arrivals with
  | nil => rfl
  | cons a arrivals ih =>
    have ha : a.packets.length ≤ 2 := by
      unfold Arrival.packets
      cases a.recovered <;> simp
    rw [List.flatMap_cons, List.length_append, List.length_cons]
    omega

/-- The arrivals that may still be moved apart by a recovered packet. -/
def recent (arrivals : List Arrival) : List Arrival :=
  arrivals.drop (arrivals.length - (mediaPacketDelay - 1))

/-- Each recovered packet is for a gap of one between the packet before it in the stream and the one
behind it. -/
def ClosesGaps (arrivals : List Arrival) : Prop :=
  ∀ before a after, arrivals = before ++ a :: after → a.recovered ≠ none →
    ∃ x, (before.flatMap Arrival.packets).getLast? = some x ∧
      a.packet.header.sequenceNumber.toNat = x.header.sequenceNumber.toNat + 2

section Arrive

variable {arrivals : List Arrival} {packet : CustomJpegPacket}

lemma mem_recent_concat {x a : Arrival} (h : a ∈ recent (arrivals ++ [x])) :
    a ∈ recent arrivals ∨ a = x := by
  unfold recent at h
  rw [List.drop_append, List.mem_append] at h
  rcases h with h | h
  · refine Or.inl (List.drop_subset_drop_left arrivals ?_ h)
    rw [List.length_append]
    omega
  · exact Or.inr (List.mem_singleton.mp (List.mem_of_mem_drop h))

lemma ClosesGaps.concat (h : ClosesGaps arrivals) :
    ClosesGaps (arrivals ++ [{ packet := packet }]) := by
  intro before a after heq hrecovered
  rcases after.eq_nil_or_concat with rfl | ⟨after, b, rfl⟩
  · obtain ⟨-, hlast⟩ := List.append_inj' heq rfl
    cases hlast
    exact absurd rfl hrecovered
  · rw [List.concat_eq_append, ← List.cons_append, ← List.append_assoc] at heq
    exact h before a after (List.append_inj' heq rfl).1 hrecovered

/-- The last twenty arrivals, where the first of them may close a gap. -/
lemma exists_closing (hlen : mediaPacketDelay ≤ arrivals.length + 1)
    (hrecent : ∀ a ∈ recent arrivals, a.recovered = none) :
    ∃ before g after, arrivals ++ [{ packet := packet }] = before ++ g :: after ∧
      after.length = mediaPacketDelay - 1 ∧ g.recovered = none ∧
      ∀ a ∈ after, a.recovered = none := by
  obtain ⟨all, hall⟩ : ∃ all, all = arrivals ++ [({ packet := packet } : Arrival)] := ⟨_, rfl⟩
  have hlength : all.length = arrivals.length + 1 := by simp [hall]
  rw [← hlength] at hlen
  have hdrop : all.drop (all.length - mediaPacketDelay) =
      recent arrivals ++ [{ packet := packet }] := by
    rw [hall, recent, List.drop_append_of_le_length]
    · simp [mediaPacketDelay]
    · rw [← hall, hlength]
      simp only [mediaPacketDelay]
      omega
  have hnone : ∀ a ∈ all.drop (all.length - mediaPacketDelay), a.recovered = none := by
    intro a ha
    rw [hdrop, List.mem_append, List.mem_singleton] at ha
    rcases ha with ha | rfl
    · exact hrecent a ha
    · rfl
  have hcount : (all.drop (all.length - mediaPacketDelay)).length = mediaPacketDelay := by
    rw [List.length_drop]
    exact Nat.sub_sub_self hlen
  obtain ⟨g, after, hsplit⟩ := List.exists_cons_of_length_eq_add_one hcount
  rw [hsplit] at hnone hcount
  refine ⟨all.take (all.length - mediaPacketDelay), g, after, ?_, ?_, ?_, ?_⟩
  · rw [← hall, ← hsplit, List.take_append_drop]
  · exact Nat.succ.inj hcount
  · exact hnone g List.mem_cons_self
  · exact fun a ha => hnone a (List.mem_cons_of_mem g ha)

end Arrive

lemma fromEnd_map (buffer : List MediaPacket) (n : ℕ) :
    fromEnd (buffer.map Prod.fst) n = (fromEnd buffer n).map Prod.fst := by
  unfold fromEnd
  rw [List.length_map]
  split_ifs
  · exact List.getElem?_map ..
  · rfl

/-- The two entries before the last `n`. -/
lemma exists_last_pair {α : Type} {l : List α} {n : ℕ} (h : n + 2 ≤ l.length) :
    ∃ before x y post, l = before ++ x :: y :: post ∧ post.length = n := by
  have hcount : (l.drop (l.length - (n + 2))).length = n + 1 + 1 := by
    rw [List.length_drop]
    exact Nat.sub_sub_self h
  obtain ⟨x, rest, hx⟩ := List.exists_cons_of_length_eq_add_one hcount
  rw [hx] at hcount
  obtain ⟨y, post, rfl⟩ := List.exists_cons_of_length_eq_add_one (Nat.succ.inj hcount)
  refine ⟨l.take (l.length - (n + 2)), x, y, post, ?_, Nat.succ.inj (Nat.succ.inj hcount)⟩
  rw [← hx, List.take_append_drop]

/-- The two packets of the check are the last but twenty and nineteen. -/
lemma gap_of_split {buffer : List MediaPacket} {older newer : List CustomJpegPacket}
    {previous closing : CustomJpegPacket}
    (hbuffer : buffer.map Prod.fst = older ++ previous :: closing :: newer)
    (hnewer : newer.length = mediaPacketDelay - 1) :
    gap buffer = some ((closing.number : ℤ) - previous.number) := by
  have hfirst : fromEnd (buffer.map Prod.fst) mediaPacketDelay = some closing := by
    have h := fromEnd_append (older ++ [previous]) newer closing
    rw [hnewer, ← List.append_cons] at h
    rw [hbuffer]
    exact h
  have hsecond : fromEnd (buffer.map Prod.fst) (mediaPacketDelay + 1) = some previous := by
    have h := fromEnd_append older (closing :: newer) previous
    rw [List.length_cons, hnewer] at h
    rw [hbuffer]
    exact h
  rw [fromEnd_map, Option.map_eq_some_iff] at hfirst hsecond
  obtain ⟨x, hx, rfl⟩ := hfirst
  obtain ⟨y, hy, rfl⟩ := hsecond
  exact Receiver.gap_eq hx hy

/-- The two packets of a gap, and the buffer around them. -/
lemma gap_eq_some {buffer : List MediaPacket} {d : ℤ} (hlen : bufferSize ≤ buffer.length)
    (hgap : gap buffer = some d) :
    ∃ older previous closing newer, buffer.map Prod.fst = older ++ previous :: closing :: newer ∧
      newer.length = mediaPacketDelay - 1 ∧
      (closing.header.sequenceNumber.toNat : ℤ) - previous.header.sequenceNumber.toNat = d := by
  have hcount : mediaPacketDelay - 1 + 2 ≤ (buffer.map Prod.fst).length := by
    rw [List.length_map]
    exact le_trans (by decide) hlen
  obtain ⟨older, previous, closing, newer, hsplit, hnewer⟩ := exists_last_pair hcount
  have hdiff := gap_of_split hsplit hnewer
  rw [hgap] at hdiff
  exact ⟨older, previous, closing, newer, hsplit, hnewer, (Option.some.inj hdiff).symm⟩

section Recovered

variable {arrivals : List Arrival} {packet q : CustomJpegPacket} {moved : List CustomJpegPacket}
  {buffer : List MediaPacket}

/-- The recovered packet gets into the stream where it stands among the arrivals. -/
lemma arrive_recovered (hstream : moved ++ buffer.map Prod.fst =
      (arrivals ++ [({ packet := packet } : Arrival)]).flatMap Arrival.packets)
    (hlen : bufferSize ≤ buffer.length) (hgap : gap buffer = some 2)
    (hrecent : ∀ a ∈ recent arrivals, a.recovered = none) :
    ∃ before g after, arrivals ++ [{ packet := packet }] = before ++ g :: after ∧
      arrive arrivals packet (some q) = before ++ { g with recovered := some q } :: after ∧
      after.length = mediaPacketDelay - 1 ∧ (∀ a ∈ after, a.recovered = none) ∧
      moved ++ insertRecovered (buffer.map Prod.fst) (some q) =
        (arrive arrivals packet (some q)).flatMap Arrival.packets ∧
      ∃ x, (before.flatMap Arrival.packets).getLast? = some x ∧
        g.packet.header.sequenceNumber.toNat = x.header.sequenceNumber.toNat + 2 := by
  have hcount : mediaPacketDelay ≤ arrivals.length + 1 := by
    have h := length_flatMap_packets_le (arrivals ++ [({ packet := packet } : Arrival)])
    rw [← hstream, List.length_append, List.length_map, List.length_append,
      List.length_singleton] at h
    simp only [bufferSize, mediaPacketDelay] at hlen ⊢
    omega
  obtain ⟨before, g, after, hsplit, hafter, hg, hnone⟩ := exists_closing hcount hrecent
  obtain ⟨older, previous, closing, newer, hbuffer, hnewer, hdiff⟩ := gap_eq_some hlen hgap
  have hstream' : (moved ++ older ++ [previous]) ++ (closing :: newer) =
      before.flatMap Arrival.packets ++ (g.packet :: after.map (·.packet)) := by
    have hpackets : (g :: after).flatMap Arrival.packets = g.packet :: after.map (·.packet) := by
      apply flatMap_packets
      intro a ha
      rcases List.mem_cons.mp ha with rfl | ha
      · exact hg
      · exact hnone a ha
    rw [← hpackets, ← List.flatMap_append, ← hsplit, ← hstream, hbuffer]
    simp
  obtain ⟨hbefore, hnew⟩ := List.append_inj' hstream' (by simp [hnewer, hafter])
  obtain ⟨rfl, rfl⟩ := List.cons.inj hnew
  have harrive : arrive arrivals packet (some q) =
      before ++ { g with recovered := some q } :: after := by
    have hplace : (before ++ g :: after).length - mediaPacketDelay = before.length := by
      rw [List.length_append, List.length_cons, hafter]
      exact Nat.add_sub_cancel before.length mediaPacketDelay
    simp only [arrive]
    rw [hsplit, hplace, modify_append]
  refine ⟨before, g, after, hsplit, harrive, hafter, hnone, ?_, previous, ?_, ?_⟩
  · have hplace : (buffer.map Prod.fst).length - mediaPacketDelay =
        (older ++ [previous]).length := by
      rw [hbuffer, List.append_cons, List.length_append, List.length_cons, List.length_map, hafter]
      exact Nat.add_sub_cancel _ mediaPacketDelay
    rw [insertRecovered, hplace, hbuffer, List.append_cons, insertIdx_append, harrive,
      List.flatMap_append, ← hbefore, List.flatMap_cons, flatMap_packets hnone, Arrival.packets]
    simp
  · rw [← hbefore, List.getLast?_concat]
  · omega

/-- A gap that was closed before stays closed, and the new one is. -/
lemma closesGaps_recovered {before after : List Arrival} {g : Arrival}
    (hcloses : ClosesGaps (before ++ g :: after)) (hnone : ∀ a ∈ after, a.recovered = none)
    (hg : ∃ x, (before.flatMap Arrival.packets).getLast? = some x ∧
      g.packet.header.sequenceNumber.toNat = x.header.sequenceNumber.toNat + 2) :
    ClosesGaps (before ++ { g with recovered := some q } :: after) := by
  intro before' a after' heq hrecovered
  rcases List.append_eq_append_iff.mp heq with ⟨more, hmore, hrest⟩ | ⟨more, hmore, hrest⟩
  · rcases more with - | ⟨b, more⟩
    · obtain ⟨rfl, -⟩ := List.cons.inj hrest
      rw [hmore, List.append_nil]
      exact hg
    · obtain ⟨-, rfl⟩ := List.cons.inj hrest
      exact absurd (hnone a (List.mem_append_right _ List.mem_cons_self)) hrecovered
  · rcases more with - | ⟨b, more⟩
    · obtain ⟨rfl, -⟩ := List.cons.inj hrest
      rw [List.append_nil] at hmore
      rw [← hmore]
      exact hg
    · obtain ⟨rfl, rfl⟩ := List.cons.inj hrest
      apply hcloses before' _ (more ++ g :: after) _ hrecovered
      rw [hmore]
      simp

end Recovered

/-! ### Conservation -/

/-- Nothing is lost, duplicated or reordered. -/
structure Conserved (s : Reception) : Prop where
  stream : s.receiver.stream = s.arrivals.flatMap Arrival.packets
  accepted : s.arrivals.map (·.packet) = s.accepted
  closes : ClosesGaps s.arrivals
  recent : ∀ a ∈ recent s.arrivals, a.recovered = none

/-- A packet gets into the stream. -/
lemma Conserved.arrive {s : Reception} (h : Conserved s) {message : Octets}
    {packet : CustomJpegPacket} {receiver : Receiver}
    (hreceiver : receiver.stream = s.receiver.shown ++ s.receiver.jpegPacketFrameBuffer ++
      insertRecovered (s.receiver.jpegPacketIncomingBuffer.map Prod.fst ++ [packet])
        (s.receiver.recovers message packet)) :
    Conserved
      { receiver := receiver
        accepted := s.accepted ++ [packet]
        arrivals := Rtp.arrive s.arrivals packet (s.receiver.recovers message packet) } := by
  have hbuffer : s.receiver.jpegPacketIncomingBuffer.map Prod.fst ++ [packet] =
      (s.receiver.jpegPacketIncomingBuffer ++ [(packet, message)]).map Prod.fst := by
    rw [List.map_append, List.map_singleton]
  rw [hbuffer] at hreceiver
  have hstream : s.receiver.shown ++ s.receiver.jpegPacketFrameBuffer ++
      (s.receiver.jpegPacketIncomingBuffer ++ [(packet, message)]).map Prod.fst =
        (s.arrivals ++ [({ packet := packet } : Arrival)]).flatMap Arrival.packets := by
    rw [List.flatMap_append, ← h.stream, ← hbuffer, ← List.append_assoc]
    rfl
  cases hrecovers : s.receiver.recovers message packet with
  | none =>
    rw [hrecovers] at hreceiver
    refine ⟨hreceiver.trans hstream, ?_, h.closes.concat, ?_⟩
    · simp [Rtp.arrive, h.accepted]
    · intro a ha
      rcases mem_recent_concat ha with ha | rfl
      · exact h.recent a ha
      · rfl
  | some q =>
    obtain ⟨hlen, hgap⟩ : bufferSize ≤ (s.receiver.jpegPacketIncomingBuffer ++
        [(packet, message)]).length ∧
        gap (s.receiver.jpegPacketIncomingBuffer ++ [(packet, message)]) = some 2 := by
      simp only [Receiver.recovers, recoveredInGap] at hrecovers
      split_ifs at hrecovers with hlen hgap
      exact ⟨hlen, hgap⟩
    obtain ⟨before, g, after, hsplit, harrive, hafter, hnone, hinserted, hg⟩ :=
      arrive_recovered (q := q) hstream hlen hgap h.recent
    rw [hrecovers] at hreceiver
    refine ⟨hreceiver.trans hinserted, ?_, ?_, ?_⟩
    · have hmap := congrArg (List.map (·.packet)) hsplit
      simp only [List.map_append, List.map_cons, List.map_nil, h.accepted] at hmap
      simp only [harrive, List.map_append, List.map_cons, ← hmap]
    · rw [harrive]
      exact closesGaps_recovered (hsplit ▸ h.closes.concat) hnone hg
    · intro a ha
      apply hnone a
      dsimp only at ha
      rw [harrive, Rtp.recent, List.length_append, List.length_cons, hafter] at ha
      have hplace : (before ++ [{ g with recovered := some q }]).length =
          before.length + (mediaPacketDelay - 1 + 1) - (mediaPacketDelay - 1) := by
        rw [List.length_append, ← Nat.add_assoc, Nat.add_right_comm, Nat.add_sub_cancel]
        rfl
      have hdrop : List.drop _ (_ ++ after) = after := List.drop_left' hplace
      rw [← List.append_cons] at hdrop
      rwa [hdrop] at ha

lemma conserved_of_reachable {s : Reception} (hs : receptionSystem.Reachable Always s) :
    Conserved s := by
  apply hs.invariant
  · rintro s ⟨ssrc, statisticsHandler, rfl⟩
    refine ⟨rfl, rfl, ?_, ?_⟩
    · intro before a after heq
      exact absurd heq.symm (by simp)
    · intro a ha
      cases ha
  · intro s event s' h _ hstep
    cases event with
    | datagram error received =>
      cases error with
      | true =>
        cases hstep
        exact h
      | false =>
        cases hstep
        have hstream := (s.receiver.stream_handleNewIncomingMessage received).trans
          (s.receiver.stream_handleNewJpegPacket received)
        unfold Reception.receive
        cases haccepted : s.receiver.accepted received with
        | none =>
          rw [haccepted] at hstream
          exact ⟨hstream.trans h.stream, h.accepted, h.closes, h.recent⟩
        | some packet =>
          rw [haccepted] at hstream
          exact h.arrive hstream
    | tick error =>
      cases hstep
      exact ⟨(s.receiver.stream_displayNextFrameTimerHandler error).trans h.stream, h.accepted,
        h.closes, h.recent⟩
    | setStatisticsHandler present =>
      cases hstep
      exact ⟨h.stream, h.accepted, h.closes, h.recent⟩

/-- In every state that can be reached, the packets that were shown, the frame buffer and the
incoming buffer are the accepted packets in the order of their arrival, with each recovered packet
directly before the packet that closed its gap; a datagram that is not accepted changes nothing of
this. -/
theorem frame_conservation {s : Reception} (hs : receptionSystem.Reachable Always s) :
    s.receiver.stream = s.arrivals.flatMap Arrival.packets ∧
      s.arrivals.map (·.packet) = s.accepted ∧ ClosesGaps s.arrivals ∧
      ∀ received, s.receiver.accepted received = none →
        (s.receiver.handleNewIncomingMessage received).1.stream = s.receiver.stream := by
  have h := conserved_of_reachable hs
  refine ⟨h.stream, h.accepted, h.closes, ?_⟩
  intro received hrejected
  rw [s.receiver.stream_handleNewIncomingMessage, s.receiver.stream_handleNewJpegPacket, hrejected]

/-- Three FEC packets of groups of two, and the media packets up to a number without the lost
ones. -/
def lossyDatagrams (lost : List ℕ) (n : ℕ) : List ReceiverEvent :=
  [30, 32, 34].zipIdx.map (fun (k, i) => .datagram false
    ((fullFecPacket [sentPacket 7 k [0xFF, 0xD9], sentPacket 7 (k + 1) [0xFF, 0xD9]]
      (UInt16.ofNat i)).getD [])) ++
  ((List.range' 1 n).filter (· ∉ lost)).map fun k =>
    .datagram false (raw (sentPacket 7 (UInt16.ofNat k) [0xFF, 0xD9]))

/-- One packet is recovered, one is shown, and then a packet of another source comes. -/
theorem frame_conservation_recovered :
    ∃ s ∈ receptionSystem.run { receiver := { ssrc := 7 } }
        (lossyDatagrams [32] 52 ++ [.tick false]),
      s.receiver.corrected = 1 ∧ s.receiver.shown.length = 1 ∧
      s.receiver.stream = s.arrivals.flatMap Arrival.packets ∧
      s.arrivals.map (·.packet) = s.accepted ∧ ClosesGaps s.arrivals ∧
      (s.receiver.handleNewIncomingMessage
        (raw (sentPacket 8 53 [0xFF, 0xD9]))).1.stream = s.receiver.stream := by
  obtain ⟨s, hrun, hcorrected, hshown, hrejected⟩ :
      ∃ s ∈ receptionSystem.run { receiver := { ssrc := 7 } }
          (lossyDatagrams [32] 52 ++ [.tick false]),
        s.receiver.corrected = 1 ∧ s.receiver.shown.length = 1 ∧
        s.receiver.accepted (raw (sentPacket 8 53 [0xFF, 0xD9])) = none := by
    decide +kernel
  have hinit : receptionSystem.Reachable Always { receiver := { ssrc := 7 } } :=
    .init ⟨7, false, rfl⟩
  obtain ⟨hstream, haccepted, hcloses, hsame⟩ :=
    frame_conservation (hinit.run (System.meets_always _ _ _) hrun)
  exact ⟨s, hrun, hcorrected, hshown, hstream, haccepted, hcloses, hsame _ hrejected⟩

end Rtp
