import Mathlib.Data.List.Basic
import Mathlib.Tactic

/-!
# Common definitions of the RTSP part

Strings are byte strings. `uint_fast16_t` has 64 bits on the platforms the library is built for.
-/

namespace Rtsp

/-- `rtsp::string`. -/
abbrev Text := List UInt8

/-- The bytes of an ASCII literal of the source. -/
def str (s : String) : Text := s.toList.map fun c => UInt8.ofNat c.toNat

/-- `rtsp::header`. -/
abbrev Header := Text × Text

abbrev RawHeaders := List Header

structure Request where
  methodOrExtension : Text
  uri : Text
  rtspVersionMajor : ℕ
  rtspVersionMinor : ℕ
  headers : RawHeaders
deriving DecidableEq, Inhabited

structure Response where
  rtspVersionMajor : ℕ
  rtspVersionMinor : ℕ
  statusCode : ℕ
  reasonPhrase : Text
  headers : RawHeaders
deriving DecidableEq, Inhabited

/-- Largest value of `uint_fast16_t`. -/
def uintFast16Max : ℕ := 2 ^ 64 - 1

def crlf : Text := str "\r\n"

lemma crlf_eq : crlf = [13, 10] := rfl

/-! ### Character classes of the "C" locale -/

/-- `ns::space`: tab, line feed, vertical tab, form feed, carriage return and blank. -/
def isSpace (c : UInt8) : Bool := c = 32 || (9 ≤ c && c ≤ 13)

/-- `ns::cntrl`. -/
def isCntrl (c : UInt8) : Bool := c < 32 || c = 127

def isDigit (c : UInt8) : Bool := 48 ≤ c && c ≤ 57

/-- `ns::alnum`. -/
def isAlnum (c : UInt8) : Bool := isDigit c || (65 ≤ c && c ≤ 90) || (97 ≤ c && c ≤ 122)

/-- `ns::print`: the graphic characters and the blank. -/
def isPrint (c : UInt8) : Bool := 32 ≤ c && c < 127

/-- Value of a decimal digit. -/
def digitValue (c : UInt8) : Option ℕ := if isDigit c then some (c.toNat - 48) else none

/-- Character of a decimal digit. -/
def digitChar (d : ℕ) : UInt8 := UInt8.ofNat (48 + d)

lemma digitValue_digitChar (d : ℕ) (h : d < 10) : digitValue (digitChar d) = some d := by
  interval_cases d <;> rfl

/-- Every whitespace character but the blank is a control character. -/
lemma isCntrl_of_isSpace {c : UInt8} (h : isSpace c = true) (hc : c ≠ 32) : isCntrl c = true := by
  simp only [isSpace, isCntrl, Bool.or_eq_true, decide_eq_true_eq, Bool.and_eq_true] at h ⊢
  rcases h with h | ⟨_, h⟩
  · exact absurd h hc
  · exact Or.inl (UInt8.lt_of_le_of_lt h (by decide))

end Rtsp
