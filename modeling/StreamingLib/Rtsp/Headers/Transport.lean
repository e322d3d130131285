import StreamingLib.Rtsp.Message.Grammar

/-!
# The Transport header

`headers::transport` of `rtsp_headers.hpp` with its grammar and its generator.
-/

namespace Rtsp

open Peg

/-! ### Transport values -/

inductive PortType
  | general
  | server
  | client
deriving DecidableEq, Inhabited

/-- `port_number_type`. -/
inductive PortNumbers
  | number (n : UInt16)
  | range (first second : UInt16)
deriving DecidableEq, Inhabited

structure Port where
  type : PortType
  portNumbers : PortNumbers
deriving DecidableEq, Inhabited

/-- `parameter`, a variant with these alternatives in this order. -/
inductive Parameter
  | ttl (ttl : ℕ)
  | port (port : Port)
  | ssrc (ssrc : UInt32)
  | mode (mode : Text)
  | string (string : Text)
deriving DecidableEq, Inhabited

structure TransportSpec where
  transportProtocol : Text
  profile : Text
  lowerTransport : Option Text
  parameters : List Parameter
deriving DecidableEq, Inhabited

structure Transport where
  specifications : List TransportSpec
deriving DecidableEq, Inhabited

/-! ### Grammar -/

/-- Value of a hexadecimal digit. -/
def hexDigitValue (c : UInt8) : Option ℕ :=
  if isDigit c then some (c.toNat - 48)
  else if 65 ≤ c && c ≤ 70 then some (c.toNat - 55)
  else if 97 ≤ c && c ≤ 102 then some (c.toNat - 87)
  else none

/-- Character of a hexadecimal digit, as Karma writes it. -/
def hexDigitChar (d : ℕ) : UInt8 := if d < 10 then digitChar d else UInt8.ofNat (87 + d)

namespace Port

def typeField (p : Parser UInt8 PortType) : Parser UInt8 Port :=
  focus type (fun v r => { r with type := v }) p

def numbersField (p : Parser UInt8 PortNumbers) : Parser UInt8 Port :=
  focus portNumbers (fun v r => { r with portNumbers := v }) p

end Port

namespace TransportSpec

def protocolField (p : Parser UInt8 Text) : Parser UInt8 TransportSpec :=
  focus transportProtocol (fun v r => { r with transportProtocol := v }) p

def profileField (p : Parser UInt8 Text) : Parser UInt8 TransportSpec :=
  focus profile (fun v r => { r with profile := v }) p

def lowerField (p : Parser UInt8 (Option Text)) : Parser UInt8 TransportSpec :=
  focus lowerTransport (fun v r => { r with lowerTransport := v }) p

def parametersField (p : Parser UInt8 (List Parameter)) : Parser UInt8 TransportSpec :=
  focus parameters (fun v r => { r with parameters := v }) p

end TransportSpec

/-- An entry of a symbol table. -/
def symbol {α : Type} (name : Text) (value : α) : Parser UInt8 α :=
  build (fun (_ : Unit) _ => value) (lit name)

/-- `uint_parser<port_number, 10, 1, 5>`. -/
def portNumber : Parser UInt8 ℕ := uint digitValue 10 (2 ^ 16 - 1) 1 (some 5)

def ttl_ : Parser UInt8 ℕ := lit (str "ttl=") >> uint digitValue 10 uintFast16Max 1 (some 3)

/-- `port_type_`; no name is the start of another one. -/
def portType_ : Parser UInt8 PortType :=
  symbol (str "port") .general <|> symbol (str "server_port") .server <|>
    symbol (str "client_port") .client

def portRange_ : Parser UInt8 (ℕ × ℕ) :=
  focus Prod.fst (fun v r => (v, r.2)) portNumber >> lit (str "-") >>
    focus Prod.snd (fun v r => (r.1, v)) portNumber

def port_ : Parser UInt8 Port :=
  Port.typeField portType_ >> lit (str "=") >> Port.numbersField
    (build (fun r _ => .range (.ofNat r.1) (.ofNat r.2)) portRange_ <|>
      build (fun n _ => .number (.ofNat n)) portNumber)

def ssrc_ : Parser UInt8 ℕ := lit (str "ssrc=") >> uint hexDigitValue 16 (2 ^ 32 - 1) 8 (some 8)

def mode_ : Parser UInt8 Text := lit (str "mode=") >> (token <|> quotedString)

def parameter_ : Parser UInt8 Parameter :=
  lit (str ";") >>
    (build (fun v _ => .ttl v) ttl_ <|> build (fun v _ => .port v) port_ <|>
      build (fun v _ => .ssrc (.ofNat v)) ssrc_ <|> build (fun v _ => .mode v) mode_ <|>
      build (fun v _ => .string v) token)

def transportSpec_ : Parser UInt8 TransportSpec :=
  TransportSpec.protocolField (plus token) >> lit (str "/") >>
    TransportSpec.profileField (plus token) >>
    TransportSpec.lowerField (opt (build (fun v _ => some v) (lit (str "/") >> plus token))) >>
    TransportSpec.parametersField (star (pushBack parameter_))

/-- `transport_grammar`; the attribute is assigned on success. -/
def transportGrammar : Parser UInt8 Transport :=
  build (fun v _ => ⟨v⟩) (list (pushBack transportSpec_) (lit (str ",")))

/-! ### Generator -/

def portTypeGen : PortType → Text
  | .general => str "port"
  | .server => str "server_port"
  | .client => str "client_port"

def portNumbersGen : PortNumbers → Text
  | .number n => numeral digitChar 10 n.toNat
  | .range first second =>
    numeral digitChar 10 first.toNat ++ str "-" ++ numeral digitChar 10 second.toNat

def portGen (p : Port) : Text := portTypeGen p.type ++ str "=" ++ portNumbersGen p.portNumbers

def parameterGen (p : Parameter) : Text :=
  str ";" ++ match p with
    | .ttl ttl => str "ttl=" ++ numeral digitChar 10 ttl
    | .port port => portGen port
    | .ssrc ssrc => str "ssrc=" ++ numeral hexDigitChar 16 ssrc.toNat
    | .mode mode => str "mode=\"" ++ mode ++ str "\""
    | .string string => string

def transportSpecGen (s : TransportSpec) : Text :=
  s.transportProtocol ++ str "/" ++ s.profile ++
    (match s.lowerTransport with
      | none => []
      | some lowerTransport => str "/" ++ lowerTransport) ++ s.parameters.flatMap parameterGen

/-- `generate_transport_header_grammar`. -/
def generateTransportHeader (t : Transport) : Text :=
  (str ",").intercalate (t.specifications.map transportSpecGen)

end Rtsp
