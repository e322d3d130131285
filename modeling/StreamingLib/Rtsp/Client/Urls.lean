import StreamingLib.Rtsp.Client.Dialog
import StreamingLib.Rtsp.Message.FieldValues

/-!
# The URL of the client

`process_url` of `rtsp_client.cpp` and the requests that are built with the URL it accepts. The URL
is put into them as the user wrote it, not as it was read.
-/

namespace Rtsp

open Peg

/-! ### Reading a URL -/

/-- What is read of a URL. -/
structure UrlParts where
  method : Text
  host : Text
  port : Option UInt16
  remainder : Text
deriving DecidableEq, Inhabited

/-- `rtsp_settings_`. -/
structure RtspSettings where
  host : Text
  remainder : Text
  port : UInt16
  originalUrl : Text
deriving DecidableEq

namespace UrlParts

def methodField (p : Parser UInt8 Text) : Parser UInt8 UrlParts :=
  focus method (fun v r => { r with method := v }) p

def hostField (p : Parser UInt8 Text) : Parser UInt8 UrlParts :=
  focus host (fun v r => { r with host := v }) p

def portField (p : Parser UInt8 (Option UInt16)) : Parser UInt8 UrlParts :=
  focus port (fun v r => { r with port := v }) p

def remainderField (p : Parser UInt8 Text) : Parser UInt8 UrlParts :=
  focus remainder (fun v r => { r with remainder := v }) p

end UrlParts

/-- The grammar of `process_url`. -/
def urlGrammar : Parser UInt8 UrlParts :=
  omits (star space)
    >> UrlParts.methodField (symbol (str "rtsp:") (str "rtsp:") <|>
      symbol (str "rtspu:") (str "rtspu:"))
    >> lit (str "//")
    >> UrlParts.hostField (seqOr (star (sat isAlnum <|> sat fun c => (str ".-").contains c))
      (lit (str "[") >> star (sat isAlnum <|> sat fun c => (str ".:/").contains c)
        >> lit (str "]")))
    >> UrlParts.portField (opt (build (fun v _ => some (.ofNat v)) (lit (str ":") >> uint16)))
    >> lit (str "/") >> UrlParts.remainderField (star (sat isPrint))

/-- `process_url`. Nothing asks whether the grammar has read the whole URL. -/
def processUrl (url : Text) : Except ClientFault RtspSettings :=
  let parsed := urlGrammar.run url default
  if !parsed.ok then
    .error (.runtimeError (str "Could not read URL \"" ++ url ++ str "\""))
  else if parsed.attr.method ≠ str "rtsp:" then
    .error (.runtimeError (str "Only rtsp supported"))
  else
    .ok {
      host := parsed.attr.host
      port := parsed.attr.port.getD 554
      remainder := parsed.attr.remainder
      originalUrl := url }

/-- An accepted URL is kept as it is, and is not blank. -/
lemma processUrl_ok {url : Text} {settings : RtspSettings} (h : processUrl url = .ok settings) :
    settings.originalUrl = url ∧ url.dropWhile isSpace ≠ [] := by
  unfold processUrl at h
  dsimp only at h
  split_ifs at h with hok
  cases h
  refine ⟨rfl, fun hblank => ?_⟩
  rw [Bool.not_eq_true', Bool.not_eq_false] at hok
  have hspace := (star_sat_matches isSpace url default).omits (default : UrlParts)
  obtain ⟨r, b, hfirst, hmethod⟩ := matches_seq_iff.mp (Parser.matches_of_ok hok)
  obtain ⟨rfl, rfl⟩ := hspace.unique hfirst
  rw [hblank] at hmethod
  have hrtsp : (symbol (str "rtsp:") (str "rtsp:")).Fails [] [] [] :=
    (lit_fails_nil _ _ ()).build []
  have hrtspu : (symbol (str "rtspu:") (str "rtspu:")).Fails [] [] [] :=
    (lit_fails_nil _ _ ()).build []
  have hfails : (UrlParts.methodField (symbol (str "rtsp:") (str "rtsp:") <|>
      symbol (str "rtspu:") (str "rtspu:"))).Fails [] default default :=
    Parser.Fails.focus (d := (default : UrlParts)) (hrtsp.alt_fails hrtspu)
  exact hfails.seq.not_matches hmethod

/-- A URL with a port. -/
example : processUrl (str " rtsp://localhost:8554/movie") =
    .ok ⟨str "localhost", str "movie", 8554, str " rtsp://localhost:8554/movie"⟩ := by
  decide

/-! ### Requests -/

/-- The methods that the client sends. -/
inductive SentMethod
  /-- One that changes the session. -/
  | changing (method : ClientMethod)
  | option
  | describe
deriving DecidableEq

namespace SentMethod

def name : SentMethod → Text
  | changing method => method.name
  | option => str "OPTIONS"
  | describe => str "DESCRIBE"

def headers (identifier : Text) (choices : SetupChoices) : SentMethod → RawHeaders
  | changing method => method.headers identifier choices
  | option | describe => []

/-- The methods whose request has a session header. -/
def SendsSession : SentMethod → Prop
  | changing method => method ≠ .setup
  | option | describe => False

instance : (method : SentMethod) → Decidable method.SendsSession
  | changing method => inferInstanceAs (Decidable (method ≠ .setup))
  | option | describe => isFalse id

end SentMethod

/-- The request of a method with the header that `send_request` adds. -/
def RtspSettings.request (settings : RtspSettings) (cseq : UInt64) (identifier : Text)
    (choices : SetupChoices) (method : SentMethod) : Request where
  methodOrExtension := method.name
  uri := settings.originalUrl
  rtspVersionMajor := 1
  rtspVersionMinor := 0
  headers := (str "CSeq", numeral digitChar 10 cseq.toNat) :: method.headers identifier choices

/-- What a callback puts on the way in a dialog is such a request. -/
lemma send_requests (settings : RtspSettings) (d : Dialog) (choices : SetupChoices)
    (method : ClientMethod) :
    (d.send settings.originalUrl choices method).requests = d.requests ++
      [settings.request d.nextCseq d.client.session.identifier choices (.changing method)] := rfl

/-! ### The headers of the client -/

lemma isFieldValue_numeral (n : ℕ) : IsFieldValue (numeral digitChar 10 n) where
  ne_nil := numeral_ne_nil digitChar 10 n
  chars := numeral_chars n
  head c hc := by
    obtain ⟨d, hd, rfl⟩ := mem_numeral (by decide) (List.mem_of_mem_head? hc)
    exact (digitChar_plain hd).2

lemma isFieldValue_transport (clientPort : UInt16) :
    IsFieldValue (generateTransportHeader ⟨[setupTransportSpec clientPort]⟩) := by
  have htext : generateTransportHeader ⟨[setupTransportSpec clientPort]⟩ =
      str "RTP/AVP/UDP;unicast;client_port=" ++ numeral digitChar 10 clientPort.toNat := by
    simp [generateTransportHeader, List.intercalate, transportSpecGen, setupTransportSpec,
      parameterGen, portGen, portTypeGen, portNumbersGen, str]
  rw [htext]
  exact IsFieldValue.append (by decide) (numeral_chars _)

lemma isFieldValue_mknOption {bernoulliP : Text} (h : ∀ c ∈ bernoulliP, isCntrl c = false)
    (parameters : MknOptionParameters) :
    IsFieldValue (generateMknBernoulliChannelParameter bernoulliP parameters) := by
  have hk : ∀ c ∈ str ";fec_k=", isCntrl c = false := by decide +kernel
  have hp : ∀ c ∈ str ";fec_p=", isCntrl c = false := by decide +kernel
  have hbegin : IsFieldValue (str "bernoulli_p=") := by decide
  exact ((((hbegin.append h).append hk).append (numeral_chars _)).append hp).append
    (numeral_chars _)

lemma isHeader_cseq (cseq : UInt64) :
    IsHeader (str "CSeq", numeral digitChar 10 cseq.toNat) where
  name := show IsToken (str "CSeq") by decide
  value := isFieldValue_numeral _

/-- All headers of a request but the last one can be read back, and so can that, unless it is the
session header with another value. -/
lemma request_headers_last (settings : RtspSettings) (cseq : UInt64) (identifier : Text)
    (clientPort : UInt16) {bernoulliP : Text} (hbernoulliP : ∀ c ∈ bernoulliP, isCntrl c = false)
    (options : Option MknOptionParameters) (method : SentMethod) :
    ∃ hs n v, (settings.request cseq identifier
        ⟨clientPort, options.map (generateMknBernoulliChannelParameter bernoulliP)⟩
        method).headers = hs ++ [(n, v)] ∧
      (∀ h ∈ hs, IsHeader h) ∧ IsToken n ∧
      (IsReadBack v ↔ (method.SendsSession → IsReadBack identifier)) := by
  have hcseq := isHeader_cseq cseq
  have htransport : IsHeader (str "Transport", _) :=
    ⟨show IsToken (str "Transport") by decide, isFieldValue_transport clientPort⟩
  have hrequire : IsHeader (str "Require", mknOptionTag) := by decide
  have hsession : IsToken (str "session") := by decide
  have hother : ∀ {v : Text} {sends : Prop}, IsFieldValue v → ¬sends →
      (IsReadBack v ↔ (sends → IsReadBack identifier)) := by
    intro v sends hv hsends
    exact iff_of_true hv.isReadBack fun h => absurd h hsends
  cases method with
  | changing method =>
    cases method with
    | setup =>
      cases options with
      | none =>
        exact ⟨[_], _, _, rfl, by simpa using hcseq, htransport.name,
          hother htransport.value (by decide)⟩
      | some parameters =>
        refine ⟨[_, _, _], _, _, rfl, ?_, by decide,
          hother (isFieldValue_mknOption hbernoulliP parameters) (by decide)⟩
        simpa using ⟨hcseq, htransport, hrequire⟩
    | play =>
      exact ⟨[_], _, _, rfl, by simpa using hcseq, hsession, fun h _ => h, fun h => h (by decide)⟩
    | pause =>
      exact ⟨[_], _, _, rfl, by simpa using hcseq, hsession, fun h _ => h, fun h => h (by decide)⟩
    | teardown =>
      exact ⟨[_], _, _, rfl, by simpa using hcseq, hsession, fun h _ => h, fun h => h (by decide)⟩
  | option => exact ⟨[], _, _, rfl, by simp, hcseq.name, hother hcseq.value id⟩
  | describe => exact ⟨[], _, _, rfl, by simp, hcseq.name, hother hcseq.value id⟩

/-- The request of a method to an accepted URL is read as that method, that URL without the
whitespace before it and the headers of the client exactly if there is no other whitespace in the
URL and the session, where it is sent, can be read back. -/
theorem accepted_url_iff {url : Text} {settings : RtspSettings}
    (hurl : processUrl url = .ok settings) (method : SentMethod) (cseq : UInt64)
    (identifier : Text) (clientPort : UInt16) {bernoulliP : Text}
    (hbernoulliP : ∀ c ∈ bernoulliP, isCntrl c = false) (options : Option MknOptionParameters) :
    let request := settings.request cseq identifier
      ⟨clientPort, options.map (generateMknBernoulliChannelParameter bernoulliP)⟩ method
    ReadAs (generateRequest request) method.name (url.dropWhile isSpace) request.headers ↔
      (∀ c ∈ url.dropWhile isSpace, isSpace c = false) ∧
        (method.SendsSession → IsReadBack identifier) := by
  obtain ⟨rfl, hne⟩ := processUrl_ok hurl
  obtain ⟨hs, n, v, hheaders, hhs, hn, hv⟩ :=
    request_headers_last settings cseq identifier clientPort hbernoulliP options method
  have hname : IsToken method.name := by
    cases method with
    | changing method => cases method <;> decide
    | option => decide
    | describe => decide
  rw [← hv]
  exact readAs_generateRequest_iff hname hne hheaders hhs hn

/-- PLAY for a URL with whitespace before it. -/
theorem accepted_url_iff_play :
    let request := RtspSettings.request
      ⟨str "localhost", str "movie", 554, str "  rtsp://localhost/movie"⟩ 7 (str "42") {}
        (.changing .play)
    ReadAs (generateRequest request) (str "PLAY") (str "rtsp://localhost/movie")
      request.headers := by
  have hurl : processUrl (str "  rtsp://localhost/movie") =
      .ok ⟨str "localhost", str "movie", 554, str "  rtsp://localhost/movie"⟩ := by
    decide
  have hbernoulliP : ∀ c ∈ str "0.1", isCntrl c = false := by decide +kernel
  exact (accepted_url_iff hurl (.changing .play) 7 (str "42") 49152 hbernoulliP none).mpr
    ⟨by decide +kernel, fun _ => IsFieldValue.isReadBack (by decide)⟩

/-- A URL with a blank in its path is accepted, and no request to it is. -/
theorem accepted_url_unreadable :
    processUrl (str "rtsp://localhost/my movie") =
      .ok ⟨str "localhost", str "my movie", 554, str "rtsp://localhost/my movie"⟩ ∧
    (rtspRequestGrammar.run (generateRequest (RtspSettings.request
      ⟨str "localhost", str "my movie", 554, str "rtsp://localhost/my movie"⟩ 0 [] {}
        .option)) default).ok = false := by
  decide

end Rtsp
