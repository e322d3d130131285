import StreamingLib.Rtp.Sender

/-!
# Sessions

`rtsp_server_session` of `rtsp_session.hpp`.
-/

namespace Rtsp

/-- `boost::asio::ip::address`. -/
inductive Address
  | v4 (bytes : BitVec 32)
  | v6 (bytes : BitVec 128) (scopeId : UInt32)
deriving DecidableEq

/-- The default address of Asio. -/
instance : Inhabited Address := ⟨.v4 0⟩

/-- `rtsp_session::state`. -/
inductive SessionState
  | init
  | ready
  | playing
  | recording
deriving DecidableEq

structure ServerSession where
  identifier : Text
  sessionState : SessionState := .init
  rtpSession : Option Rtp.Sender := none
  lastSeenRequestAddress : Address := default
deriving DecidableEq

end Rtsp
