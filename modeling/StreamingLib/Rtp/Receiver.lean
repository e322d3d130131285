import StreamingLib.Rtp.FecRecovery
import StreamingLib.Transition.Runs

/-!
# The JPEG receiver

`unicast_jpeg_rtp_receiver` of `rtp_endsystem.cpp`. All its handlers run on one strand, which calls
them at once and lets their exceptions through. Where the code would step outside a buffer or use an
empty optional, the handler ends like one that throws.
-/

namespace Rtp

/-! ### Sequence numbers -/

/-- `rtp_receiver_squence_utility`. -/
structure SequenceUtility where
  maxSeq : UInt16
  cycles : UInt32 := 0
  baseSeq : UInt32
  badSeq : UInt32
  probation : UInt32
  received : UInt32 := 0
deriving DecidableEq

namespace SequenceUtility

def rtpSeqMod : UInt32 := 65536
def maxDropout : ℕ := 3000
def maxMisorder : UInt32 := 100
def minSequential : UInt32 := 2

def initSeq (u : SequenceUtility) (seq : UInt16) : SequenceUtility :=
  { u with
    baseSeq := seq.toUInt32
    maxSeq := seq
    badSeq := rtpSeqMod + 1
    cycles := 0
    received := 0 }

/-- The constructor. -/
def new (seq : UInt16) : SequenceUtility where
  maxSeq := seq - 1
  baseSeq := seq.toUInt32
  badSeq := rtpSeqMod + 1
  probation := minSequential

/-- Whether the sequence number is valid; the comparison with the next number is one of
`int`s. -/
def updateSeq (u : SequenceUtility) (seq : UInt16) : SequenceUtility × Bool :=
  let udelta := seq - u.maxSeq
  if u.probation ≠ 0 then
    if seq.toNat = u.maxSeq.toNat + 1 then
      let u := { u with probation := u.probation - 1, maxSeq := seq }
      if u.probation = 0 then
        let u := u.initSeq seq
        ({ u with received := u.received + 1 }, true)
      else (u, false)
    else ({ u with probation := minSequential - 1, maxSeq := seq }, false)
  else if udelta.toNat < maxDropout then
    let u := if seq < u.maxSeq then { u with cycles := u.cycles + rtpSeqMod } else u
    ({ u with maxSeq := seq, received := u.received + 1 }, true)
  else if udelta.toUInt32 ≤ rtpSeqMod - maxMisorder then
    if seq.toUInt32 = u.badSeq then
      let u := u.initSeq seq
      ({ u with received := u.received + 1 }, true)
    else ({ u with badSeq := (seq.toUInt32 + 1) &&& (rtpSeqMod - 1) }, false)
  else ({ u with received := u.received + 1 }, true)

def expected (u : SequenceUtility) : UInt64 :=
  (u.cycles + u.maxSeq.toUInt32).toUInt64 - u.baseSeq.toUInt64 + 1

/-- The sum is one of 32 bits. -/
def extendedMax (u : SequenceUtility) : UInt64 := (u.cycles + u.maxSeq.toUInt32).toUInt64

def lost (u : SequenceUtility) : UInt64 := u.expected - u.received.toUInt64

def receivedPackets (u : SequenceUtility) : UInt32 := u.received

def highestSeqSeen (u : SequenceUtility) : UInt16 := u.maxSeq

end SequenceUtility

/-! ### The receiver -/

/-- How a handler of the receiver ends without returning. -/
inductive ReceiverFault
  /-- `std::runtime_error` with the message of an error. -/
  | socketError
  /-- `std::runtime_error` "Got jpeg rtp packet with wrong ssrc, dropping" or the same for FEC. -/
  | wrongSsrc
  /-- `std::out_of_range` of an `at`. -/
  | outOfRange
  /-- An iterator outside its buffer. -/
  | outsideBuffer
  /-- `fec_reconstruction` throws or steps outside a buffer. -/
  | reconstruction
  /-- An empty optional is used. -/
  | noUtility
deriving DecidableEq

/-- What the statistics handler is called with. -/
structure Statistics where
  received : UInt64
  expected : UInt64
  corrected : UInt64
  uncorrectable : UInt64
deriving DecidableEq

/-- A packet with the bytes it was read from. -/
abbrev MediaPacket := CustomJpegPacket × Octets

structure Receiver where
  ssrc : UInt32
  /-- Whether there is a `statistics_handler_`. -/
  statisticsHandler : Bool := false
  jpegSequenceUtility : Option SequenceUtility := none
  fecSequenceUtility : Option SequenceUtility := none
  jpegPacketFrameBuffer : List CustomJpegPacket := []
  jpegPacketIncomingBuffer : List MediaPacket := []
  fecPacketIncomingBuffer : List (CustomFecPacket × Octets) := []
  corrected : UInt64 := 0
  uncorrectable : UInt64 := 0
  /-- The packets whose data were given to `frame_handler_`. -/
  shown : List CustomJpegPacket := []
  /-- The calls of the statistics handler. -/
  reported : List Statistics := []
deriving DecidableEq

def bufferSize : ℕ := 50

def mediaPacketDelay : ℕ := 20

/-- `end() - n`. -/
def fromEnd {α : Type} (l : List α) (n : ℕ) : Option α :=
  if n ≤ l.length then l[l.length - n]? else none

/-- What an iterator `i` places after the beginning points to. -/
def atPlace {α : Type} (l : List α) (i : ℤ) : Option α := if 0 ≤ i then l[i.toNat]? else none

/-! ### Recovery -/

/-- Whether the sequence number is one of the 49 from the base on. -/
def CustomFecPacket.InRange (fec : CustomFecPacket) (toRecover : ℤ) : Prop :=
  fec.header.snBaseField.toNat ≤ toRecover ∧ toRecover ≤ fec.header.snBaseField.toNat + 48

instance (fec : CustomFecPacket) (toRecover : ℤ) : Decidable (fec.InRange toRecover) :=
  inferInstanceAs (Decidable (_ ∧ _))

/-- The place of the sequence number in the mask. -/
def CustomFecPacket.seqI (fec : CustomFecPacket) (toRecover : ℤ) : ℕ :=
  (toRecover - fec.header.snBaseField.toNat).toNat

/-- `std::bitset<64>::test` of the bit for place `i`. -/
def CustomFecLevelHeader.protects (level : CustomFecLevelHeader) (i : ℕ) : Bool :=
  level.maskField.toNat.testBit (63 - i)

/-- The first FEC packet, from the newest one, that protects the sequence number, with its first
level. -/
def findFecPacket (toRecover : ℤ) : List (CustomFecPacket × Octets) →
    Except ReceiverFault (Option ((CustomFecPacket × Octets) × CustomFecLevelHeader))
  | [] => .ok none
  | fec :: rest =>
    if fec.1.InRange toRecover then
      match fec.1.levels[0]? with
      | none => .error .outOfRange
      | some (level, _) =>
        if level.protects (fec.1.seqI toRecover) then .ok (some (fec, level))
        else findFecPacket toRecover rest
    else findFecPacket toRecover rest

/-- Where the media packets of a group are looked for in a buffer of `size` packets, with their
sequence numbers: those before the lost one, then those after it. -/
def mediaPlaces (level : CustomFecLevelHeader) (size : ℕ) (toRecover : ℤ) (seqI : ℕ) :
    List (ℤ × ℤ) :=
  ((List.range seqI).filter level.protects).map (fun u : ℕ =>
    ((size : ℤ) - mediaPacketDelay - seqI + u, toRecover - seqI + u)) ++
  ((List.range' (seqI + 1) (63 - seqI)).filter level.protects).map fun u : ℕ =>
    ((size : ℤ) - mediaPacketDelay + (u - seqI - 1), toRecover + (u - seqI))

/-- The media packets at some places, nothing as soon as one has another sequence number. -/
def selectMedia (buffer : List MediaPacket) :
    List (ℤ × ℤ) → Except ReceiverFault (Option (List MediaPacket))
  | [] => .ok (some [])
  | (i, n) :: places =>
    match atPlace buffer i with
    | none => .error .outsideBuffer
    | some packet =>
      if packet.1.header.sequenceNumber.toNat = n then
        (selectMedia buffer places).map (Option.map (packet :: ·))
      else .ok none

/-- The packet that `recover_packet_by_fec` inserts, if it returns true. -/
def recoveredPacket (buffer : List MediaPacket) (fecBuffer : List (CustomFecPacket × Octets)) :
    Except ReceiverFault (Option MediaPacket) :=
  match fromEnd buffer mediaPacketDelay with
  | none => .error .outsideBuffer
  | some closing =>
    let toRecover : ℤ := closing.1.header.sequenceNumber.toNat - 1
    match findFecPacket toRecover fecBuffer.reverse with
    | .error fault => .error fault
    | .ok none => .ok none
    | .ok (some (fec, level)) =>
      match selectMedia buffer (mediaPlaces level buffer.length toRecover
        (fec.1.seqI toRecover)) with
      | .error fault => .error fault
      | .ok none => .ok none
      | .ok (some mediaPackets) =>
        match fecReconstruction fec mediaPackets with
        | none => .error .reconstruction
        | some packet => .ok (some (removePadding packet))

/-- `update_seq` of a utility that starts with the first packet. -/
def updateUtility (utility : Option SequenceUtility) (seq : UInt16) : SequenceUtility × Bool :=
  (utility.getD (.new seq)).updateSeq seq

/-- The difference of the sequence numbers of two packets that are to be shown soon. -/
def gap (buffer : List MediaPacket) : Option ℤ := do
  let packet ← fromEnd buffer mediaPacketDelay
  let previous ← fromEnd buffer (mediaPacketDelay + 1)
  some ((packet.1.header.sequenceNumber.toNat : ℤ) - previous.1.header.sequenceNumber.toNat)

namespace Receiver

def recoverPacketByFec (r : Receiver) : Receiver × Except ReceiverFault Bool :=
  match recoveredPacket r.jpegPacketIncomingBuffer r.fecPacketIncomingBuffer with
  | .error fault => (r, .error fault)
  | .ok none => (r, .ok false)
  | .ok (some packet) =>
    ({ r with
      jpegPacketIncomingBuffer := r.jpegPacketIncomingBuffer.insertIdx
        (r.jpegPacketIncomingBuffer.length - mediaPacketDelay) packet }, .ok true)

/-! ### Datagrams -/

/-- The oldest packet moves on to the frame buffer. -/
def moveFront (r : Receiver) : Receiver :=
  match r.jpegPacketIncomingBuffer with
  | [] => r
  | packet :: buffer =>
    { r with
      jpegPacketFrameBuffer := r.jpegPacketFrameBuffer ++ [packet.1]
      jpegPacketIncomingBuffer := buffer }

/-- The part of `handle_new_jpeg_packet` that looks for a gap. -/
def closeGap (r : Receiver) : Receiver × Option ReceiverFault :=
  match gap r.jpegPacketIncomingBuffer with
  | none => (r, some .outsideBuffer)
  | some gap =>
    if gap = 2 then
      match r.recoverPacketByFec with
      | (r, .error fault) => (r, some fault)
      | (r, .ok true) => ({ r with corrected := r.corrected + 1 }, none)
      | (r, .ok false) => ({ r with uncorrectable := r.uncorrectable + 1 }, none)
    else if gap > 2 then ({ r with uncorrectable := r.uncorrectable + 1 }, none)
    else (r, none)

def handleNewJpegPacket (r : Receiver) (message : Octets) :
    Receiver × Except ReceiverFault Bool :=
  match customJpegPacketGrammar {} message with
  | .error _ => (r, .ok false)
  | .ok (jpegPacket, _) =>
    if jpegPacket.header.ssrc ≠ r.ssrc then (r, .error .wrongSsrc)
    else if jpegPacket.data.length < 2 then (r, .error .outOfRange)
    else
      match updateUtility r.jpegSequenceUtility jpegPacket.header.sequenceNumber with
      | (utility, false) => ({ r with jpegSequenceUtility := some utility }, .ok true)
      | (utility, true) =>
        let r := { r with
          jpegSequenceUtility := some utility
          jpegPacketIncomingBuffer := r.jpegPacketIncomingBuffer ++ [(jpegPacket, message)] }
        if r.jpegPacketIncomingBuffer.length < bufferSize then (r, .ok true)
        else
          match r.closeGap with
          | (r, some fault) => (r, .error fault)
          | (r, none) => (r.moveFront, .ok true)

def handleNewFecPacket (r : Receiver) (message : Octets) : Receiver × Except ReceiverFault Bool :=
  match customFecPacketGrammar {} message with
  | .error _ => (r, .ok false)
  | .ok (fecPacket, _) =>
    if fecPacket.header.payloadTypeField ≠ 100 then (r, .ok false)
    else if fecPacket.header.ssrc ≠ r.ssrc then (r, .error .wrongSsrc)
    else
      match updateUtility r.fecSequenceUtility fecPacket.header.sequenceNumber with
      | (utility, false) => ({ r with fecSequenceUtility := some utility }, .ok true)
      | (utility, true) =>
        let buffer := r.fecPacketIncomingBuffer ++ [(fecPacket, message)]
        ({ r with
          fecSequenceUtility := some utility
          fecPacketIncomingBuffer := if buffer.length > bufferSize then buffer.tail else buffer },
          .ok true)

/-- The call of the statistics handler, if there is one. -/
def report (r : Receiver) : Receiver × Option ReceiverFault :=
  if r.statisticsHandler then
    match r.jpegSequenceUtility with
    | none => (r, some .noUtility)
    | some utility =>
      ({ r with reported := r.reported ++ [{
          received := utility.received.toUInt64
          expected := utility.expected
          corrected := r.corrected
          uncorrectable := r.uncorrectable }] }, none)
  else (r, none)

def handleNewIncomingMessage (r : Receiver) (message : Octets) : Receiver × Option ReceiverFault :=
  match r.handleNewJpegPacket message with
  | (r, .error fault) => (r, some fault)
  | (r, .ok true) => r.report
  | (r, .ok false) =>
    match r.handleNewFecPacket message with
    | (r, .error fault) => (r, some fault)
    | (r, .ok _) => r.report

end Receiver

/-- `shared_udp_socket`. -/
structure UdpSocket where
  /-- Whether an `async_receive_from` is outstanding. -/
  receiving : Bool
deriving DecidableEq

def UdpSocket.startAsyncReceive (socket : UdpSocket) : UdpSocket :=
  { socket with receiving := true }

namespace Receiver

def handleIncomingUdpTraffic (r : Receiver) (error : Bool) (received : Octets)
    (incomingSocket : UdpSocket) : Receiver × UdpSocket × Option ReceiverFault :=
  if error then (r, incomingSocket, some .socketError)
  else
    match r.handleNewIncomingMessage received with
    | (r, some fault) => (r, incomingSocket, some fault)
    | (r, none) => (r, incomingSocket.startAsyncReceive, none)

/-- `display_next_frame_timer_handler`. -/
def displayNextFrameTimerHandler (r : Receiver) (error : Bool) : Receiver × Option ReceiverFault :=
  if error then (r, some .socketError)
  else
    match r.jpegPacketFrameBuffer with
    | [] => (r, none)
    | packet :: buffer =>
      ({ r with jpegPacketFrameBuffer := buffer, shown := r.shown ++ [packet] }, none)

end Receiver

end Rtp
