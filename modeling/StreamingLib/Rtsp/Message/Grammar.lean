import StreamingLib.Peg.Numeral
import StreamingLib.Rtsp.Definitions

/-!
# Grammars of RTSP messages

The rules of `rtsp_message.hpp`, written with the same operators. A rule without a skipper skips
only before its first element, which `phrase` does for the whole message.
-/

namespace Rtsp

open Peg

/-! ### Fields of the attributes -/

def Header.first (p : Parser UInt8 Text) : Parser UInt8 Header :=
  focus Prod.fst (fun v h => (v, h.2)) p

def Header.second (p : Parser UInt8 Text) : Parser UInt8 Header :=
  focus Prod.snd (fun v h => (h.1, v)) p

namespace Request

def method (p : Parser UInt8 Text) : Parser UInt8 Request :=
  focus methodOrExtension (fun v r => { r with methodOrExtension := v }) p

def uriField (p : Parser UInt8 Text) : Parser UInt8 Request :=
  focus uri (fun v r => { r with uri := v }) p

def major (p : Parser UInt8 ℕ) : Parser UInt8 Request :=
  focus rtspVersionMajor (fun v r => { r with rtspVersionMajor := v }) p

def minor (p : Parser UInt8 ℕ) : Parser UInt8 Request :=
  focus rtspVersionMinor (fun v r => { r with rtspVersionMinor := v }) p

def headerList (p : Parser UInt8 RawHeaders) : Parser UInt8 Request :=
  focus headers (fun v r => { r with headers := v }) p

end Request

namespace Response

def major (p : Parser UInt8 ℕ) : Parser UInt8 Response :=
  focus rtspVersionMajor (fun v r => { r with rtspVersionMajor := v }) p

def minor (p : Parser UInt8 ℕ) : Parser UInt8 Response :=
  focus rtspVersionMinor (fun v r => { r with rtspVersionMinor := v }) p

def status (p : Parser UInt8 ℕ) : Parser UInt8 Response :=
  focus statusCode (fun v r => { r with statusCode := v }) p

def reason (p : Parser UInt8 Text) : Parser UInt8 Response :=
  focus reasonPhrase (fun v r => { r with reasonPhrase := v }) p

def headerList (p : Parser UInt8 RawHeaders) : Parser UInt8 Response :=
  focus headers (fun v r => { r with headers := v }) p

end Response

/-! ### Common rules -/

/-- `ns::char_`. -/
def char_ : Parser UInt8 Text := Peg.char_

/-- `ns::space`. -/
def space : Parser UInt8 Text := sat isSpace

def ctl : Parser UInt8 Text := sat isCntrl

def tspecials : Parser UInt8 Text := sat fun c => (str "()<>@,;:\\\"/[]?={} \t").contains c

def token : Parser UInt8 Text := plus (char_ - (tspecials <|> ctl))

def quotedString : Parser UInt8 Text :=
  lit (str "\"") >> plus (char_ - (ctl <|> lit (str "\""))) >> lit (str "\"")

def statusCode : Parser UInt8 ℕ := uint digitValue 10 uintFast16Max 3 (some 3)

def atLeastOneDigit : Parser UInt8 ℕ := uint digitValue 10 uintFast16Max 1 none

/-- One line of a header field body. -/
def headerFieldBodyLine : Parser UInt8 Text := quotedString <|> plus (char_ - ctl)

/-- What the rule takes for the start of a continuation line. -/
def continuation : Parser UInt8 Text := lit crlf >> omits (plus space)

/-- `header_field_body_`, recursive in the source, see `headerFieldBody_run`. -/
def headerFieldBody : Parser UInt8 Text := chain headerFieldBodyLine continuation

def header_ : Parser UInt8 Header :=
  Header.first (plus token) >> lit (str ":") >> omits (star space)
    >> Header.second (opt headerFieldBody) >> lit crlf

/-! ### Messages -/

/-- The status line of `rtsp_response_grammar`. -/
def statusLine : Parser UInt8 Response :=
  lit (str "RTSP/") >> Response.major atLeastOneDigit >> lit (str ".")
    >> Response.minor atLeastOneDigit >> omits (plus space)
    >> Response.status statusCode >> omits (plus space)
    >> Response.reason (star (char_ - (lit (str "\r") <|> lit (str "\n") : Parser UInt8 Text)))
    >> lit crlf

def rtspResponseGrammar : Parser UInt8 Response :=
  statusLine >> Response.headerList (star (pushBack header_)) >> lit crlf

/-- The request line of `rtsp_request_grammar`. -/
def requestLine : Parser UInt8 Request :=
  Request.method (plus token) >> omits (plus space)
    >> Request.uriField (plus (char_ - (lit (str "\r") <|> lit (str "\n") <|> space)))
    >> omits (plus space) >> lit (str "RTSP/") >> Request.major atLeastOneDigit
    >> lit (str ".") >> Request.minor atLeastOneDigit >> lit crlf

def rtspRequestGrammar : Parser UInt8 Request :=
  requestLine >> Request.headerList (star (pushBack header_)) >> lit crlf

/-- `qi::phrase_parse` of a message with `ns::space` skipped around it. -/
def phraseParse {α : Type} (p : Parser UInt8 α) : Parser UInt8 α := phrase space p

/-- A separator which matched has moved past a line end. -/
lemma continuation_lt (s a : Text) (h : (continuation.run s a).ok = true) :
    (continuation.run s a).rest.length < s.length := by
  obtain ⟨r, b, hl, hr⟩ := matches_seq_iff.mp (Parser.matches_of_ok h)
  obtain ⟨rfl, rfl⟩ := lit_matches_iff.mp hl
  have hle : (continuation.run (crlf ++ r) b).rest.length ≤ r.length := hr.suffix.length_le
  have hlen : (crlf ++ r).length = r.length + 2 := by simp [crlf_eq]
  omega

/-- The recursive rule of the source. -/
theorem headerFieldBody_run (s a : Text) :
    headerFieldBody.run s a =
      (headerFieldBodyLine >> opt (continuation >> headerFieldBody)).run s a :=
  chain_run continuation_lt s a

end Rtsp
