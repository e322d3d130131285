import StreamingLib.Peg.Numeral
import StreamingLib.Rtp.FecGenerator
import StreamingLib.Rtsp.Definitions
import StreamingLib.Transition.Runs

/-!
# The JPEG sender

`unicast_jpeg_rtp_sender` of `rtp_endsystem.cpp` with its strand and its timer. The closures that
`start` and `stop` dispatch wait on the strand. A wait on the timer is pending until it expires or
is cancelled; then its handler is queued, and no later cancel changes what it will be called with.
-/

namespace Rtp

/-! ### The mjpeg source -/

/-- `std::istream` without skipped whitespace: what is left to read, and whether no read has
failed so far. -/
structure IStream where
  chars : Octets
  good : Bool := true
deriving DecidableEq

/-- `std::istream::read`. -/
def IStream.read (st : IStream) (n : ℕ) : Octets × IStream :=
  if st.good then (st.chars.take n, ⟨st.chars.drop n, n ≤ st.chars.length⟩) else ([], st)

/-- One step of `std::istream_iterator<uint8_t>`. -/
def IStream.get (st : IStream) : Option UInt8 × IStream :=
  match st.good, st.chars with
  | true, c :: cs => (some c, { st with chars := cs })
  | _, _ => (none, { st with good := false })

/-- `std::copy_n` after the character `last`; an iterator past the end still gives its last
character. -/
def IStream.copyAfter : ℕ → UInt8 → IStream → Octets × IStream
  | 0, _, st => ([], st)
  | n + 1, last, st =>
    match st.get with
    | (some c, st) => let (cs, st) := copyAfter n c st; (c :: cs, st)
    | (none, st) => let (cs, st) := copyAfter n last st; (last :: cs, st)

/-- What `send_next_packet_handler` finds in its source. -/
inductive Frame
  | noLength
  | badLength
  | endOfFile
  | data (data : Octets)
deriving DecidableEq

/-- The length of a frame, in decimal digits at the start of five characters. `uint_fast32_t` has
the range of `uint_fast16_t`. -/
def frameLength (chars : Octets) : Option ℕ :=
  let r := (Peg.uint Rtsp.digitValue 10 Rtsp.uintFast16Max 1 none).run chars 0
  if r.ok then some r.attr else none

def IStream.readFrame (st : IStream) : Frame × IStream :=
  match st.read 5 with
  | (chars, st) =>
    if chars.length ≠ 5 then (.noLength, st)
    else match frameLength chars with
      | none => (.badLength, st)
      | some n =>
        match st.get with
        | (none, st) => (.endOfFile, st)
        | (some c, st) =>
          if n = 0 then (.data [], st)
          else let (cs, st) := st.copyAfter (n - 1) c; (.data (c :: cs), st)

/-! ### The sender -/

/-- What `start` and `stop` dispatch. -/
inductive Closure
  | arm
  | cancel
deriving DecidableEq

/-- `boost::asio::steady_timer`: waits that have not completed, and completions whose handler is
still queued, without error and with `operation_aborted`. -/
structure Timer where
  pending : ℕ := 0
  fired : ℕ := 0
  aborted : ℕ := 0
deriving DecidableEq

def Timer.cancel (t : Timer) : Timer := { t with pending := 0, aborted := t.aborted + t.pending }

/-- A new expiry time, which cancels pending waits, and `async_wait`. -/
def Timer.arm (t : Timer) : Timer := { t.cancel with pending := 1 }

def Timer.expire (t : Timer) : Timer := { t with pending := 0, fired := t.fired + t.pending }

structure Sender where
  ssrc : UInt32
  jpegSource : IStream
  /-- Whether there is a `channel_failure_distribution_`. -/
  channelFailure : Bool
  fecGenerator : Option FecGenerator
  currentSequenceNumber : UInt16
  currentFecSequenceNumber : UInt16
  running : Bool := false
  strand : List Closure := []
  timer : Timer := {}
  /-- The datagrams given to `async_send_to`. -/
  sent : List Octets := []
deriving DecidableEq

/-- The constructor, without FEC or with it if there are options of the drop rate and `fec_k`. The
sequence numbers are drawn at random. -/
def Sender.new (ssrc : UInt32) (jpegSource : IStream) (fecK : Option UInt16)
    (sequenceNumber fecSequenceNumber : UInt16) : Sender :=
  { ssrc := ssrc
    jpegSource := jpegSource
    channelFailure := fecK.isSome
    fecGenerator := fecK.map FecGenerator.new
    currentSequenceNumber := sequenceNumber
    currentFecSequenceNumber := fecSequenceNumber }

def Sender.start (s : Sender) : Sender :=
  if s.running then s else { s with running := true, strand := s.strand ++ [.arm] }

def Sender.stop (s : Sender) : Sender :=
  if s.running then { s with strand := s.strand ++ [.cancel] } else s

/-- What `send_next_packet_handler` throws. -/
inductive SenderFault
  /-- `std::runtime_error` "Could not parse jpeg frame length". -/
  | frameLength
  | fec (fault : FecFault)
deriving DecidableEq

/-- A datagram is sent unless the channel simulation drops it. -/
def Sender.sendTo (s : Sender) (drop : Bool) (datagram : Octets) : Sender :=
  if s.channelFailure && drop then s else { s with sent := s.sent ++ [datagram] }

/-- The FEC part of `send_next_packet_handler`. -/
def Sender.sendFec (s : Sender) (buffer : Octets) (timestamp : UInt32) (drop : Bool) :
    Sender × Option SenderFault :=
  match s.fecGenerator with
  | none => (s, none)
  | some g =>
    match g.generateNextFecPacket buffer s.currentSequenceNumber with
    | (g, .error fault) => ({ s with fecGenerator := some g }, some (.fec fault))
    | (g, .ok none) => ({ s with fecGenerator := some g }, none)
    | (g, .ok (some packet)) =>
      let s := { s with fecGenerator := some g }
      if s.channelFailure && drop then (s, none)
      else
        let header : Header :=
          { sequenceNumber := s.currentFecSequenceNumber, ssrc := s.ssrc, payloadTypeField := 100,
            timestamp := timestamp }
        ({ s with
          currentFecSequenceNumber := s.currentFecSequenceNumber + 1
          sent := s.sent ++ [(standardRtpHeaderGenerator header).2 ++ packet] }, none)

/-- `send_next_packet_handler` and the exception it exits by, if any. The two draws of the channel
simulation are given. -/
def Sender.sendNextPacketHandler (s : Sender) (error : Bool) (dropMedia dropFec : Bool) :
    Sender × Option SenderFault :=
  if error then ({ s with running := false }, none)
  else
    match s.jpegSource.readFrame with
    | (.noLength, source) => ({ s with jpegSource := source, running := false }, none)
    | (.badLength, source) => ({ s with jpegSource := source, running := false }, some .frameLength)
    | (.endOfFile, source) => ({ s with jpegSource := source, running := false }, none)
    | (.data data, source) =>
      let packet := sentPacket s.ssrc s.currentSequenceNumber data
      let buffer := (customJpegPacketGenerator packet).2
      let s := { s with jpegSource := source }.sendTo dropMedia buffer
      match s.sendFec buffer packet.header.timestamp dropFec with
      | (s, some fault) => (s, some fault)
      | (s, none) =>
        ({ s with
          currentSequenceNumber := s.currentSequenceNumber + 1
          timer := s.timer.arm }, none)

/-! ### Runs -/

/-- The steps of a sender. -/
inductive SenderEvent
  | start
  | stop
  /-- The strand runs its next closure. -/
  | strand
  /-- The expiry time is reached. -/
  | expire
  /-- The handler of an expired wait runs. -/
  | handler (dropMedia dropFec : Bool)
  /-- The handler of a cancelled wait runs. -/
  | abortedHandler
deriving DecidableEq

def Closure.run (c : Closure) (t : Timer) : Timer :=
  match c with
  | .arm => t.arm
  | .cancel => t.cancel

def Sender.step (s : Sender) : SenderEvent → Option Sender
  | .start => some s.start
  | .stop => some s.stop
  | .strand =>
    match s.strand with
    | [] => none
    | c :: cs => some { s with strand := cs, timer := c.run s.timer }
  | .expire => if s.timer.pending = 0 then none else some { s with timer := s.timer.expire }
  | .handler dropMedia dropFec =>
    if s.timer.fired = 0 then none
    else
      let s := { s with timer := { s.timer with fired := s.timer.fired - 1 } }
      some (s.sendNextPacketHandler false dropMedia dropFec).1
  | .abortedHandler =>
    if s.timer.aborted = 0 then none
    else
      let s := { s with timer := { s.timer with aborted := s.timer.aborted - 1 } }
      some (s.sendNextPacketHandler true false false).1

/-- A sender of any source and any `fec_k`. -/
def senderSystem : Transition.System Sender SenderEvent where
  init s := ∃ ssrc source fecK sequenceNumber fecSequenceNumber,
    s = .new ssrc source fecK sequenceNumber fecSequenceNumber
  step := Sender.step

end Rtp
