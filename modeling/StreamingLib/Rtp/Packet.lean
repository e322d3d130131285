import StreamingLib.Bytes.BigEndian

/-!
# RTP packets

The packets of `rtp_packet.hpp` with their grammars and generators. A grammar is given the packet
to fill and returns it also when it fails, with the fields that were stored until then.
-/

namespace Rtp

open Bytes

/-- `std::vector<uint8_t>`. -/
abbrev Octets := List UInt8

/-- `packet::header`. -/
structure Header where
  version : UInt8 := 2
  paddingSet : Bool := false
  extensionBit : Bool := false
  csrc : UInt8 := 0
  marker : Bool := false
  payloadTypeField : UInt8 := 0
  sequenceNumber : UInt16 := 0
  timestamp : UInt32 := 0
  ssrc : UInt32 := 0
  csrcs : List UInt32 := []
  /-- Including its first 32 bits. -/
  headerExtension : Octets := []
deriving DecidableEq

/-- `fragment_offset` is a `uint_fast32_t`, which has 64 bits here. -/
structure CustomJpegPayloadHeader extends Header where
  typeSpecific : UInt8 := 0
  fragmentOffset : UInt64 := 0
  jpegType : UInt8 := 0
  quantizationTable : UInt8 := 0
  imageWidth : UInt8 := 0
  imageHeight : UInt8 := 0
deriving DecidableEq

structure CustomJpegPacket where
  header : CustomJpegPayloadHeader := {}
  data : Octets := []
deriving DecidableEq

structure CustomFecHeader extends Header where
  extensionFlag : Bool := false
  longMaskFlag : Bool := false
  pRecoveryField : Bool := false
  xRecoveryField : Bool := false
  ccRecoveryField : UInt8 := 0
  mRecoveryField : Bool := false
  ptRecoveryField : UInt8 := 0
  snBaseField : UInt16 := 0
  tsRecoveryField : UInt32 := 0
  lengthRecoveryField : UInt16 := 0
deriving DecidableEq

structure CustomFecLevelHeader where
  protectionLengthField : UInt16 := 0
  maskField : UInt64 := 0
deriving DecidableEq

structure CustomFecPacket where
  header : CustomFecHeader := {}
  levels : List (CustomFecLevelHeader × Octets) := []
deriving DecidableEq

/-! ### The RTP header -/

def readWord (a b : UInt8) : UInt16 := UInt16.ofNat (ofBigEndian [a, b])

def readDword (a b c d : UInt8) : UInt32 := UInt32.ofNat (ofBigEndian [a, b, c, d])

/-- `karma::big_word`. -/
def bigWord (v : ℕ) : Octets := bigEndian 2 v

/-- `karma::big_dword`. -/
def bigDword (v : ℕ) : Octets := bigEndian 4 v

def parseCsrcs : ℕ → Header → Octets → Header × Octets
  | n + 1, h, a :: b :: c :: d :: bs =>
    parseCsrcs n { h with csrcs := h.csrcs ++ [readDword a b c d] } bs
  | _, h, bs => (h, bs)

/-- The extension length is read after the first four bytes of the extension, which contain it. -/
def parseExtension (h : Header) : Octets → Except Header (Header × Octets)
  | a :: b :: c :: d :: bs =>
    let (length, bs) : ℕ × Octets := match bs with
      | e :: f :: bs => (ofBigEndian [e, f], bs)
      | bs => (0, bs)
    let h := { h with headerExtension := [a, b, c, d] }
    if bs.length < 4 * length then .error h
    else
      .ok ({ h with headerExtension := h.headerExtension ++ bs.take (4 * length) },
        bs.drop (4 * length))
  | _ => .error h

/-- The part that `custom_jpeg_packet_grammar` and `custom_fec_packet_grammar` share. -/
def parseRtpHeader (h : Header) : Octets → Except Header (Header × Octets)
  | o₀ :: o₁ :: s₀ :: s₁ :: t₀ :: t₁ :: t₂ :: t₃ :: r₀ :: r₁ :: r₂ :: r₃ :: bs =>
    let h := { h with version := (o₀ &&& 0b11000000) >>> 6 }
    if h.version ≠ 2 then .error h
    else
      let h := { h with
        paddingSet := (o₀ &&& 0b00100000) >>> 5 != 0
        extensionBit := (o₀ &&& 0b00010000) >>> 4 != 0
        csrc := o₀ &&& 0x0F
        marker := (o₁ &&& 0b10000000) >>> 7 != 0
        payloadTypeField := o₁ &&& 0b01111111
        sequenceNumber := readWord s₀ s₁
        timestamp := readDword t₀ t₁ t₂ t₃
        ssrc := readDword r₀ r₁ r₂ r₃ }
      if bs.length < 4 * h.csrc.toNat then .error h
      else
        let (h, bs) := parseCsrcs h.csrc.toNat h bs
        if h.extensionBit then parseExtension h bs else .ok (h, bs)
  | _ => .error h

def firstOctet (version : UInt8) (paddingSet extensionBit : Bool) (csrc : UInt8) : UInt8 :=
  version <<< 6 ||| paddingSet.toUInt8 <<< 5 ||| extensionBit.toUInt8 <<< 4 ||| csrc

def secondOctet (marker : Bool) (payloadTypeField : UInt8) : UInt8 :=
  marker.toUInt8 <<< 7 ||| payloadTypeField

/-- The first twelve bytes of a header. -/
def fixedHeader (h : Header) : Octets :=
  firstOctet h.version h.paddingSet h.extensionBit h.csrc ::
    secondOctet h.marker h.payloadTypeField ::
    (bigWord h.sequenceNumber.toNat ++ bigDword h.timestamp.toNat ++ bigDword h.ssrc.toNat)

/-- `standard_rtp_header_generator`: whether it succeeded, and what it wrote in any case. -/
def standardRtpHeaderGenerator (h : Header) : Bool × Octets :=
  if h.version ≠ 2 then (false, [])
  else if h.csrc.toNat ≠ h.csrcs.length then (false, fixedHeader h)
  else (true, fixedHeader h ++ h.csrcs.flatMap fun c => bigDword c.toNat)

/-! ### JPEG packets -/

def parseJpegProfile (p : CustomJpegPacket) (bs : Octets) :
    Except CustomJpegPacket (CustomJpegPacket × Octets) :=
  if p.header.payloadTypeField ≠ 26 then .error p
  else match bs with
    | typeSpecific :: f₁ :: f₂ :: f₃ :: jpegType :: table :: width :: height :: bs =>
      .ok ({ p with
        header := { p.header with
          typeSpecific := typeSpecific
          fragmentOffset := UInt64.ofNat (ofBigEndian [0, f₁, f₂, f₃])
          jpegType := jpegType
          quantizationTable := table
          imageWidth := width
          imageHeight := height }
        data := p.data ++ bs }, [])
    | _ => .error p

def CustomJpegPacket.withRtpHeader (p : CustomJpegPacket) (h : Header) : CustomJpegPacket :=
  { p with header := { p.header with toHeader := h } }

def customJpegPacketGrammar (p : CustomJpegPacket) (bs : Octets) :
    Except CustomJpegPacket (CustomJpegPacket × Octets) :=
  match parseRtpHeader p.header.toHeader bs with
  | .error h => .error (p.withRtpHeader h)
  | .ok (h, bs) => parseJpegProfile (p.withRtpHeader h) bs

/-- What is written after the RTP header, of the fragment offset the low three bytes. -/
def jpegProfile (h : CustomJpegPayloadHeader) : Octets :=
  h.typeSpecific :: ((bigDword h.fragmentOffset.toNat).tail ++
    [h.jpegType, h.quantizationTable, h.imageWidth, h.imageHeight])

def customJpegPacketGenerator (p : CustomJpegPacket) : Bool × Octets :=
  match standardRtpHeaderGenerator p.header.toHeader with
  | (false, bs) => (false, bs)
  | (true, bs) => (true, bs ++ jpegProfile p.header ++ p.data)

/-- The packet that `send_next_packet_handler` fills for a frame. -/
def sentPacket (ssrc : UInt32) (sequenceNumber : UInt16) (data : Octets) : CustomJpegPacket :=
  { header := {
      payloadTypeField := 26
      ssrc := ssrc
      marker := true
      sequenceNumber := sequenceNumber
      timestamp := UInt32.ofNat (sequenceNumber.toNat * 40 * 90)
      -- the quotients are taken before they are narrowed to an octet
      imageWidth := .ofNat (384 / 8)
      imageHeight := .ofNat (288 / 8) }
    data := data }

/-! ### FEC packets -/

def fecMask (bs : Octets) : UInt64 :=
  bs.zipIdx.foldl (fun mask (b, i) => mask ||| b.toUInt64 <<< UInt64.ofNat (8 * (7 - i))) 0

/-- The levels of a FEC packet, at most `n` of them. The payload of a level is all that is left,
of which its protection length is then skipped. -/
def parseFecLevels (levelHeaderSize : ℕ) :
    ℕ → CustomFecPacket → Octets → Except CustomFecPacket (CustomFecPacket × Octets)
  | n + 1, p, bs =>
    if bs.length < levelHeaderSize then .ok (p, bs)
    else
      let levelHeader : CustomFecLevelHeader := {
        protectionLengthField := UInt16.ofNat (ofBigEndian (bs.take 2))
        maskField := fecMask ((bs.take levelHeaderSize).drop 2) }
      let payload := bs.drop levelHeaderSize
      if payload.length < levelHeader.protectionLengthField.toNat then .error p
      else
        parseFecLevels levelHeaderSize n { p with levels := p.levels ++ [(levelHeader, payload)] }
          (payload.drop levelHeader.protectionLengthField.toNat)
  | 0, p, bs => .ok (p, bs)

def parseFecProfile (p : CustomFecPacket) :
    Octets → Except CustomFecPacket (CustomFecPacket × Octets)
  | o₀ :: o₁ :: s₀ :: s₁ :: t₀ :: t₁ :: t₂ :: t₃ :: l₀ :: l₁ :: bs =>
    let p := { p with header := { p.header with
      extensionFlag := (o₀ &&& 0b10000000) >>> 7 != 0
      longMaskFlag := (o₀ &&& 0b01000000) >>> 6 != 0
      pRecoveryField := (o₀ &&& 0b00100000) >>> 5 != 0
      xRecoveryField := (o₀ &&& 0b00010000) >>> 4 != 0
      ccRecoveryField := o₀ &&& 0b00001111
      mRecoveryField := (o₁ &&& 0b10000000) >>> 7 != 0
      ptRecoveryField := o₁ &&& 0b01111111
      snBaseField := readWord s₀ s₁
      tsRecoveryField := readDword t₀ t₁ t₂ t₃
      lengthRecoveryField := readWord l₀ l₁ } }
    parseFecLevels (if p.header.longMaskFlag then 8 else 4) (bs.length + 1) p bs
  | _ => .error p

def CustomFecPacket.withRtpHeader (p : CustomFecPacket) (h : Header) : CustomFecPacket :=
  { p with header := { p.header with toHeader := h } }

def customFecPacketGrammar (p : CustomFecPacket) (bs : Octets) :
    Except CustomFecPacket (CustomFecPacket × Octets) :=
  match parseRtpHeader p.header.toHeader bs with
  | .error h => .error (p.withRtpHeader h)
  | .ok (h, bs) => parseFecProfile (p.withRtpHeader h) bs

/-! ### Words -/

lemma readWord_bigWord (v : UInt16) {a b : UInt8} (h : bigWord v.toNat = [a, b]) :
    readWord a b = v := by
  rw [readWord, ← h, bigWord, ofBigEndian_bigEndian]
  apply UInt16.toNat_inj.mp
  rw [UInt16.toNat_ofNat']
  have := v.toNat_lt
  omega

lemma readDword_bigDword (v : UInt32) {a b c d : UInt8} (h : bigDword v.toNat = [a, b, c, d]) :
    readDword a b c d = v := by
  rw [readDword, ← h, bigDword, ofBigEndian_bigEndian]
  apply UInt32.toNat_inj.mp
  rw [UInt32.toNat_ofNat']
  have := v.toNat_lt
  omega

lemma bigWord_readWord (a b : UInt8) : bigWord (readWord a b).toNat = [a, b] := by
  have hlt := ofBigEndian_lt [a, b]
  rw [readWord, UInt16.toNat_ofNat', Nat.mod_eq_of_lt (by simpa using hlt)]
  exact bigEndian_ofBigEndian [a, b]

lemma bigDword_readDword (a b c d : UInt8) :
    bigDword (readDword a b c d).toNat = [a, b, c, d] := by
  have hlt := ofBigEndian_lt [a, b, c, d]
  rw [readDword, UInt32.toNat_ofNat', Nat.mod_eq_of_lt (by simpa using hlt)]
  exact bigEndian_ofBigEndian [a, b, c, d]

lemma exists_bigWord (v : ℕ) : ∃ a b, bigWord v = [a, b] := ⟨_, _, rfl⟩

lemma exists_bigDword (v : ℕ) : ∃ a b c d, bigDword v = [a, b, c, d] := ⟨_, _, _, _, rfl⟩

/-! ### Octets of bit fields -/

lemma firstOctet_fields {v c : UInt8} (p e : Bool) (hv : v.toNat < 4) (hc : c.toNat < 16) :
    (firstOctet v p e c &&& 0b11000000) >>> 6 = v ∧
    ((firstOctet v p e c &&& 0b00100000) >>> 5 != 0) = p ∧
    ((firstOctet v p e c &&& 0b00010000) >>> 4 != 0) = e ∧
    firstOctet v p e c &&& 0x0F = c := by
  have h : ∀ (v : Fin 4) (c : Fin 16) (p e : Bool),
      (firstOctet (.ofNat v) p e (.ofNat c) &&& 0b11000000) >>> 6 = .ofNat v ∧
      ((firstOctet (.ofNat v) p e (.ofNat c) &&& 0b00100000) >>> 5 != 0) = p ∧
      ((firstOctet (.ofNat v) p e (.ofNat c) &&& 0b00010000) >>> 4 != 0) = e ∧
      firstOctet (.ofNat v) p e (.ofNat c) &&& 0x0F = .ofNat c := by decide
  simpa using h ⟨v.toNat, hv⟩ ⟨c.toNat, hc⟩ p e

lemma secondOctet_fields {t : UInt8} (m : Bool) (ht : t.toNat < 128) :
    ((secondOctet m t &&& 0b10000000) >>> 7 != 0) = m ∧ secondOctet m t &&& 0b01111111 = t := by
  have h : ∀ (t : Fin 128) (m : Bool),
      ((secondOctet m (.ofNat t) &&& 0b10000000) >>> 7 != 0) = m ∧
      secondOctet m (.ofNat t) &&& 0b01111111 = .ofNat t := by decide
  simpa using h ⟨t.toNat, ht⟩ m

/-- An octet is put together again from its fields. -/
lemma firstOctet_eq (o : UInt8) :
    firstOctet ((o &&& 0b11000000) >>> 6) ((o &&& 0b00100000) >>> 5 != 0)
      ((o &&& 0b00010000) >>> 4 != 0) (o &&& 0x0F) = o := by
  have h : ∀ o : Fin 256, firstOctet ((UInt8.ofNat o &&& 0b11000000) >>> 6)
      ((UInt8.ofNat o &&& 0b00100000) >>> 5 != 0) ((UInt8.ofNat o &&& 0b00010000) >>> 4 != 0)
      (UInt8.ofNat o &&& 0x0F) = .ofNat o := by decide +kernel
  simpa using h ⟨o.toNat, o.toNat_lt⟩

lemma secondOctet_eq (o : UInt8) :
    secondOctet ((o &&& 0b10000000) >>> 7 != 0) (o &&& 0b01111111) = o := by
  have h : ∀ o : Fin 256, secondOctet ((UInt8.ofNat o &&& 0b10000000) >>> 7 != 0)
      (UInt8.ofNat o &&& 0b01111111) = .ofNat o := by decide +kernel
  simpa using h ⟨o.toNat, o.toNat_lt⟩

lemma low_nibble_lt (o : UInt8) : (o &&& 0x0F).toNat < 16 := by
  have h : ∀ o : Fin 256, (UInt8.ofNat o &&& 0x0F).toNat < 16 := by decide +kernel
  simpa using h ⟨o.toNat, o.toNat_lt⟩

lemma seven_bits_lt (o : UInt8) : (o &&& 0b01111111).toNat < 128 := by
  have h : ∀ o : Fin 256, (UInt8.ofNat o &&& 0b01111111).toNat < 128 := by decide +kernel
  simpa using h ⟨o.toNat, o.toNat_lt⟩

end Rtp
