import StreamingLib.Rtsp.Headers.Normalize
import StreamingLib.Rtsp.Message.RoundTrip

/-!
# Line ends in messages

No rule of the grammar of requests stores a carriage return or a line feed. A generated response
has the line ends that the generator writes, if its parts have none.
-/

namespace Rtsp

open Peg

/-- Carriage return or line feed. -/
def isLineEnd (c : UInt8) : Bool := c == 13 || c == 10

/-- A text without a line end. -/
def OneLine (w : Text) : Prop := ∀ c ∈ w, isLineEnd c = false

instance (w : Text) : Decidable (OneLine w) := List.decidableBAll (isLineEnd · = false) w

lemma isLineEnd_eq_false_iff {c : UInt8} : isLineEnd c = false ↔ c ≠ 13 ∧ c ≠ 10 := by
  rw [isLineEnd, Bool.or_eq_false_iff, beq_eq_false_iff_ne, beq_eq_false_iff_ne]

lemma isLineEnd_of_isCntrl {c : UInt8} (h : isCntrl c = false) : isLineEnd c = false := by
  rw [isLineEnd_eq_false_iff]
  constructor
  · rintro rfl
    cases h
  · rintro rfl
    cases h

lemma oneLine_nil : OneLine [] := List.forall_mem_nil _

lemma oneLine_append {v w : Text} : OneLine (v ++ w) ↔ OneLine v ∧ OneLine w :=
  List.forall_mem_append

lemma OneLine.append {v w : Text} (hv : OneLine v) (hw : OneLine w) : OneLine (v ++ w) :=
  oneLine_append.mpr ⟨hv, hw⟩

lemma OneLine.of_suffix {v w : Text} (hw : OneLine w) (h : v <:+ w) : OneLine v :=
  fun c hc => hw c (h.subset hc)

/-- A text that is read on from one line stays on it. -/
lemma OneLine.rest {α : Type} {w : Text} (hw : OneLine w) (p : Parser UInt8 α) (a : α) :
    OneLine (p.run w a).rest :=
  hw.of_suffix (p.within w a).suffix

/-! ### Parts -/

lemma IsFieldValue.oneLine {v : Text} (hv : IsFieldValue v) : OneLine v :=
  fun c hc => isLineEnd_of_isCntrl (hv.chars c hc)

lemma IsToken.oneLine {w : Text} (hw : IsToken w) : OneLine w := hw.isFieldValue.oneLine

lemma IsUri.oneLine {u : Text} (hu : IsUri u) : OneLine u := by
  intro c hc
  rw [isLineEnd_eq_false_iff]
  constructor
  · rintro rfl
    exact absurd (hu.chars 13 hc) (by decide)
  · rintro rfl
    exact absurd (hu.chars 10 hc) (by decide)

lemma IsReason.oneLine {w : Text} (hw : IsReason w) : OneLine w :=
  fun c hc => isLineEnd_eq_false_iff.mpr (hw.chars c hc)

/-- A reason that begins with another one. -/
lemma IsReason.append {v w : Text} (hv : IsReason v) (hw : OneLine w) : IsReason (v ++ w) where
  ne_nil := List.append_ne_nil_of_left_ne_nil hv.ne_nil w
  chars := List.forall_mem_append.mpr
    ⟨hv.chars, fun c hc => isLineEnd_eq_false_iff.mp (hw c hc)⟩
  head := by
    rw [List.head?_append_of_ne_nil v hv.ne_nil]
    exact hv.head

/-! ### Reading -/

/-- A header whose value has no line end. -/
def Header.OneLine (h : Header) : Prop := Rtsp.OneLine h.2

/-- A request without line ends in what it may be answered with. -/
structure Request.OneLine (m : Request) : Prop where
  method : Rtsp.OneLine m.methodOrExtension
  uri : Rtsp.OneLine m.uri
  values : ∀ h ∈ m.headers, Header.OneLine h

lemma token_keeps : token.Keeps OneLine := by
  refine (token_guards.diff_keeps fun c hc => ?_).plus
  have htoken : isTokenChar c = true := by simpa using hc
  exact isLineEnd_of_isCntrl (isTokenChar_iff.mp htoken).2

section Values

variable {P : UInt8 → Prop} (hP : ∀ c, isCntrl c = false → P c)

include hP

lemma headerFieldBodyLine_keeps : headerFieldBodyLine.Keeps fun w => ∀ c ∈ w, P c := by
  have hquoted := ctl_or_quote_guards.diff_keeps fun c hc => hP c (Bool.or_eq_false_iff.mp hc).1
  have hplain := (sat_guards isCntrl).diff_keeps hP
  exact Parser.Keeps.alt ((lit_keeps _ _).seq (hquoted.plus.seq (lit_keeps _ _))) hplain.plus

lemma headerFieldBody_keeps : headerFieldBody.Keeps fun w => ∀ c ∈ w, P c :=
  (headerFieldBodyLine_keeps hP).chain ((lit_keeps _ _).seq (omits_keeps _ _))

/-- What is true of all characters but control characters is true of what is read of a value. -/
lemma header_keeps : header_.Keeps fun h => ∀ c ∈ h.2, P c := by
  have hname : (Header.first (plus token)).Keeps fun h => ∀ c ∈ h.2, P c :=
    (keeps_true _).focus (fun _ _ => trivial) fun _ _ _ hvalue => hvalue
  have hvalue : (Header.second (opt headerFieldBody)).Keeps fun h => ∀ c ∈ h.2, P c :=
    (headerFieldBody_keeps hP).opt.focus (fun _ hvalue => hvalue) fun _ _ hvalue _ => hvalue
  exact hname.seq ((lit_keeps _ _).seq ((omits_keeps _ _).seq (hvalue.seq (lit_keeps _ _))))

end Values

lemma requestLine_keeps : requestLine.Keeps Request.OneLine := by
  have hmethod : (Request.method (plus token)).Keeps Request.OneLine :=
    token_keeps.plus.focus (fun _ h => h.method) fun _ _ hmethod h => ⟨hmethod, h.uri, h.values⟩
  have hguards : (lit (str "\r") <|> lit (str "\n") <|> space : Parser UInt8 Text).Guards
      fun c => c == 13 || (c == 10 || isSpace c) :=
    (lit_guards 13).alt ((lit_guards 10).alt (sat_guards isSpace))
  have huri : (plus (char_ - (lit (str "\r") <|> lit (str "\n") <|> space))).Keeps OneLine := by
    refine (hguards.diff_keeps fun c hc => ?_).plus
    obtain ⟨hcr, hc⟩ := Bool.or_eq_false_iff.mp hc
    exact Bool.or_eq_false_iff.mpr ⟨hcr, (Bool.or_eq_false_iff.mp hc).1⟩
  have huriField : (Request.uriField
      (plus (char_ - (lit (str "\r") <|> lit (str "\n") <|> space)))).Keeps Request.OneLine :=
    huri.focus (fun _ h => h.uri) fun _ _ huri h => ⟨h.method, huri, h.values⟩
  have hmajor : (Request.major atLeastOneDigit).Keeps Request.OneLine :=
    (keeps_true _).focus (fun _ _ => trivial) fun _ _ _ h => ⟨h.method, h.uri, h.values⟩
  have hminor : (Request.minor atLeastOneDigit).Keeps Request.OneLine :=
    (keeps_true _).focus (fun _ _ => trivial) fun _ _ _ h => ⟨h.method, h.uri, h.values⟩
  exact hmethod.seq ((omits_keeps _ _).seq (huriField.seq ((omits_keeps _ _).seq
    ((lit_keeps _ _).seq (hmajor.seq ((lit_keeps _ _).seq (hminor.seq (lit_keeps _ _))))))))

lemma rtspRequestGrammar_keeps : rtspRequestGrammar.Keeps Request.OneLine := by
  have hheader : header_.Keeps Header.OneLine := header_keeps fun _ => isLineEnd_of_isCntrl
  have hheaders : (Request.headerList (star (pushBack header_))).Keeps Request.OneLine :=
    (hheader.pushBack oneLine_nil).star.focus (fun _ h => h.values) fun _ _ hvalues h =>
      ⟨h.method, h.uri, hvalues⟩
  exact requestLine_keeps.seq (hheaders.seq (lit_keeps _ _))

/-- A request has no line end in what it may be answered with, whatever it is read from. -/
theorem phraseParse_oneLine (text : Text) :
    ((phraseParse rtspRequestGrammar).run text default).attr.OneLine :=
  rtspRequestGrammar_keeps.phrase space text default
    ⟨oneLine_nil, oneLine_nil, List.forall_mem_nil _⟩

/-- Joining values writes no line end. -/
lemma normalizeHeaders_oneLine {rawHeaders : RawHeaders} (h : ∀ header ∈ rawHeaders, header.OneLine)
    {key value : Text} (hlookup : (normalizeHeaders rawHeaders).lookup key = some value) :
    OneLine value :=
  normalizeHeaders_keeps (fun hv hw => (hv.append (by decide)).append hw) h hlookup

/-! ### Writing -/

lemma numeral_oneLine {char : ℕ → UInt8} {radix : ℕ} (hradix : 1 < radix)
    (hchar : ∀ d < radix, isLineEnd (char d) = false) (n : ℕ) :
    OneLine (numeral char radix n) := by
  intro c hc
  obtain ⟨d, hd, rfl⟩ := mem_numeral hradix hc
  exact hchar d hd

lemma digitChar_plain {d : ℕ} (h : d < 10) :
    isCntrl (digitChar d) = false ∧ isSpace (digitChar d) = false ∧ digitChar d ≠ 34 := by
  interval_cases d <;> decide

lemma numeral_chars (n : ℕ) : ∀ c ∈ numeral digitChar 10 n, isCntrl c = false := by
  intro c hc
  obtain ⟨d, hd, rfl⟩ := mem_numeral (by decide) hc
  exact (digitChar_plain hd).1

lemma uint_oneLine (n : ℕ) : OneLine (uint_ n) :=
  numeral_oneLine (by norm_num) (by decide) _

/-- A response whose parts have no line end. -/
structure Response.OneLine (r : Response) : Prop where
  reason : Rtsp.OneLine r.reasonPhrase
  names : ∀ h ∈ r.headers, Rtsp.OneLine h.1
  values : ∀ h ∈ r.headers, Header.OneLine h

section Count

variable {c : UInt8} (hc : isLineEnd c = true)

include hc

lemma OneLine.count {w : Text} (h : OneLine w) : w.count c = 0 := by
  rw [List.count_eq_zero]
  intro hmem
  rw [h c hmem] at hc
  cases hc

lemma count_crlf : crlf.count c = 1 := by
  rcases Bool.or_eq_true_iff.mp hc with hcr | hlf
  · rw [beq_iff_eq.mp hcr]
    rfl
  · rw [beq_iff_eq.mp hlf]
    rfl

lemma count_generateHeaders {hs : RawHeaders} (hnames : ∀ h ∈ hs, OneLine h.1)
    (hvalues : ∀ h ∈ hs, Header.OneLine h) : (generateHeaders hs).count c = hs.length := by
  induction hs with
  | nil => rfl
  | cons h hs ih =>
    obtain ⟨hname, hnames⟩ := List.forall_mem_cons.mp hnames
    obtain ⟨hvalue, hvalues⟩ := List.forall_mem_cons.mp hvalues
    have hline : OneLine (headerGenerator h) :=
      ((hname.append (by decide)).append (by decide)).append hvalue
    rw [generateHeaders_cons, List.count_append, List.count_append, hline.count hc,
      count_crlf hc, ih hnames hvalues, List.length_cons, Nat.zero_add, Nat.add_comm]

/-- A response has a line for its status, one for each of its headers and the blank one. -/
theorem count_generateResponse {r : Response} (h : r.OneLine) :
    (generateResponse r).count c = r.headers.length + 2 := by
  have hstatus : OneLine (str "RTSP/" ++ uint_ r.rtspVersionMajor ++ str "." ++
      uint_ r.rtspVersionMinor ++ str " " ++ uint_ r.statusCode ++ str " " ++
      r.reasonPhrase) := by
    simp only [oneLine_append, uint_oneLine, h.reason, and_true]
    decide
  rw [generateResponse, generateStatusLine, List.count_append, List.count_append,
    List.count_append, hstatus.count hc, count_generateHeaders hc h.names h.values,
    count_crlf hc]
  omega

end Count

end Rtsp
