import StreamingLib.Peg.Numeral
import StreamingLib.Rtsp.Definitions

/-!
# Writing RTSP messages

The generators of `rtsp_message.hpp`. They never fail on a complete message.
-/

namespace Rtsp

/-- `karma::uint_`, which writes an `unsigned int`. -/
def uint_ (n : ℕ) : Text := Peg.numeral digitChar 10 (n % 2 ^ 32)

def headerGenerator (h : Header) : Text := h.1 ++ str ":" ++ str " " ++ h.2

/-- The header lines of a message. -/
def generateHeaders (hs : RawHeaders) : Text := hs.flatMap fun h => headerGenerator h ++ crlf

/-- The status line of a response, with its line end. -/
def generateStatusLine (r : Response) : Text :=
  str "RTSP/" ++ uint_ r.rtspVersionMajor ++ str "." ++ uint_ r.rtspVersionMinor ++ str " "
    ++ uint_ r.statusCode ++ str " " ++ r.reasonPhrase ++ crlf

def generateResponse (r : Response) : Text :=
  generateStatusLine r ++ generateHeaders r.headers ++ crlf

/-- The request line of a request, with its line end. -/
def generateRequestLine (r : Request) : Text :=
  r.methodOrExtension ++ str " " ++ r.uri ++ str " " ++ str "RTSP/" ++ uint_ r.rtspVersionMajor
    ++ str "." ++ uint_ r.rtspVersionMinor ++ crlf

def generateRequest (r : Request) : Text :=
  generateRequestLine r ++ generateHeaders r.headers ++ crlf

@[simp] lemma generateHeaders_nil : generateHeaders [] = [] := rfl

@[simp] lemma generateHeaders_cons (h : Header) (hs : RawHeaders) :
    generateHeaders (h :: hs) = headerGenerator h ++ crlf ++ generateHeaders hs := rfl

end Rtsp
