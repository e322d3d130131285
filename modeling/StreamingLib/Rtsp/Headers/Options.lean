import StreamingLib.Rtsp.Message.Grammar

/-!
# The Require header and the channel options

`require_` and `mkn_bernoulli_channel_parameter_grammar` of `rtsp_headers.hpp`. The value of
`bernoulli_p` only decides which packets the channel simulation drops, and is not kept.
-/

namespace Rtsp

open Peg

def require_ : Parser UInt8 (List Text) :=
  list (pushBack (plus token)) (lit (str ","))

structure MknOptionParameters where
  fecK : UInt16
  fecP : UInt16
deriving DecidableEq, Inhabited

def mknOptionTag : Text := str "net.markusklemm.options"

def mknOptionHeader : Text := str "net.markusklemm.options"

def MknOptionParameters.fecKField (p : Parser UInt8 ℕ) : Parser UInt8 MknOptionParameters :=
  build (fun v r => { r with fecK := .ofNat v }) p

def MknOptionParameters.fecPField (p : Parser UInt8 ℕ) : Parser UInt8 MknOptionParameters :=
  build (fun v r => { r with fecP := .ofNat v }) p

/-- `uint_parser<uint16_t>`. -/
def uint16 : Parser UInt8 ℕ := uint digitValue 10 (2 ^ 16 - 1) 1 none

/-- The grammar, given `double_` with the check that its value is a probability. -/
def mknBernoulliChannelParameterGrammar (probability : Parser UInt8 Unit) :
    Parser UInt8 MknOptionParameters :=
  lit (str "bernoulli_p=") >> omits probability >> lit (str ";fec_k=")
    >> MknOptionParameters.fecKField uint16 >> lit (str ";fec_p=")
    >> MknOptionParameters.fecPField uint16

/-- `generate_mkn_bernoulli_channel_parameter_grammar`, given what `double_` writes. -/
def generateMknBernoulliChannelParameter (bernoulliP : Text) (parameters : MknOptionParameters) :
    Text :=
  str "bernoulli_p=" ++ bernoulliP ++ str ";fec_k=" ++ numeral digitChar 10 parameters.fecK.toNat
    ++ str ";fec_p=" ++ numeral digitChar 10 parameters.fecP.toNat

end Rtsp
