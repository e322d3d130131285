import StreamingLib.Rtsp.Message.Grammar
import StreamingLib.Rtsp.Message.Generator

/-!
# Reading back generated messages

Header by header, every attempt to read a continuation line fails and is undone, because the next
line starts with a token, or, after the last header, because nothing but the blank line follows.
-/

namespace Rtsp

open Peg

/-! ### Well-formed parts -/

/-- The characters of a token. -/
def isTokenChar (c : UInt8) : Bool :=
  !((str "()<>@,;:\\\"/[]?={} \t").contains c || isCntrl c)

/-- A non-empty token. -/
structure IsToken (w : Text) : Prop where
  ne_nil : w ≠ []
  chars : ∀ c ∈ w, isTokenChar c = true

/-- A header value that the grammar can give back: non-empty, no control characters, no leading
whitespace or double quote. -/
structure IsFieldValue (v : Text) : Prop where
  ne_nil : v ≠ []
  chars : ∀ c ∈ v, isCntrl c = false
  head : ∀ c ∈ v.head?, isSpace c = false ∧ c ≠ 34

structure IsHeader (h : Header) : Prop where
  name : IsToken h.1
  value : IsFieldValue h.2

/-- A request URI without whitespace. -/
structure IsUri (u : Text) : Prop where
  ne_nil : u ≠ []
  chars : ∀ c ∈ u, isSpace c = false

/-- A reason phrase on one line that does not start with whitespace. -/
structure IsReason (w : Text) : Prop where
  ne_nil : w ≠ []
  chars : ∀ c ∈ w, c ≠ 13 ∧ c ≠ 10
  head : ∀ c ∈ w.head?, isSpace c = false

instance (w : Text) : Decidable (IsToken w) :=
  have := List.decidableBAll (isTokenChar · = true) w
  decidable_of_iff (w ≠ [] ∧ ∀ c ∈ w, isTokenChar c = true)
    ⟨fun h => ⟨h.1, h.2⟩, fun h => ⟨h.1, h.2⟩⟩

instance (v : Text) : Decidable (IsFieldValue v) :=
  have := List.decidableBAll (isCntrl · = false) v
  have := Option.decidableForallMem (p := fun c => isSpace c = false ∧ c ≠ 34) v.head?
  decidable_of_iff (v ≠ [] ∧ (∀ c ∈ v, isCntrl c = false) ∧
    ∀ c ∈ v.head?, isSpace c = false ∧ c ≠ 34)
    ⟨fun h => ⟨h.1, h.2.1, h.2.2⟩, fun h => ⟨h.1, h.2, h.3⟩⟩

instance (h : Header) : Decidable (IsHeader h) :=
  decidable_of_iff (IsToken h.1 ∧ IsFieldValue h.2) ⟨fun h => ⟨h.1, h.2⟩, fun h => ⟨h.1, h.2⟩⟩

instance (u : Text) : Decidable (IsUri u) :=
  have := List.decidableBAll (isSpace · = false) u
  decidable_of_iff (u ≠ [] ∧ ∀ c ∈ u, isSpace c = false)
    ⟨fun h => ⟨h.1, h.2⟩, fun h => ⟨h.1, h.2⟩⟩

instance (w : Text) : Decidable (IsReason w) :=
  have := List.decidableBAll (fun c => c ≠ 13 ∧ c ≠ 10) w
  have := Option.decidableForallMem (p := (isSpace · = false)) w.head?
  decidable_of_iff (w ≠ [] ∧ (∀ c ∈ w, c ≠ 13 ∧ c ≠ 10) ∧ ∀ c ∈ w.head?, isSpace c = false)
    ⟨fun h => ⟨h.1, h.2.1, h.2.2⟩, fun h => ⟨h.1, h.2, h.3⟩⟩

/-- A request whose parts the grammar can give back. -/
structure Request.WellFormed (m : Request) : Prop where
  method : IsToken m.methodOrExtension
  uri : IsUri m.uri
  headers : ∀ h ∈ m.headers, IsHeader h

/-- A response whose parts the grammar can give back. -/
structure Response.WellFormed (m : Response) : Prop where
  status : 100 ≤ m.statusCode ∧ m.statusCode ≤ 999
  reason : IsReason m.reasonPhrase
  headers : ∀ h ∈ m.headers, IsHeader h

lemma isTokenChar_iff {c : UInt8} : isTokenChar c = true ↔
    (str "()<>@,;:\\\"/[]?={} \t").contains c = false ∧ isCntrl c = false := by
  simp [isTokenChar]

/-- Token characters are no whitespace. -/
lemma isSpace_of_isTokenChar {c : UInt8} (h : isTokenChar c = true) : isSpace c = false := by
  rw [isTokenChar_iff] at h
  by_contra hs
  rw [Bool.not_eq_false] at hs
  by_cases hc : c = 32
  · subst hc
    exact absurd h.1 (by decide)
  · exact absurd (isCntrl_of_isSpace hs hc) (by simp [h.2])

lemma IsToken.isFieldValue {w : Text} (hw : IsToken w) : IsFieldValue w where
  ne_nil := hw.ne_nil
  chars c hc := (isTokenChar_iff.mp (hw.chars c hc)).2
  head c hc := by
    have hchar := hw.chars c (List.mem_of_mem_head? hc)
    refine ⟨isSpace_of_isTokenChar hchar, ?_⟩
    rintro rfl
    exact absurd hchar (by decide)

/-- A value that begins with another one. -/
lemma IsFieldValue.append {v w : Text} (hv : IsFieldValue v) (hw : ∀ c ∈ w, isCntrl c = false) :
    IsFieldValue (v ++ w) where
  ne_nil := List.append_ne_nil_of_left_ne_nil hv.ne_nil w
  chars := List.forall_mem_append.mpr ⟨hv.chars, hw⟩
  head := by
    rw [List.head?_append_of_ne_nil v hv.ne_nil]
    exact hv.head

/-! ### Common rules -/

lemma token_guards : (tspecials <|> ctl).Guards fun c => !isTokenChar c := by
  have h : (tspecials <|> ctl).Guards fun c =>
      (str "()<>@,;:\\\"/[]?={} \t").contains c || isCntrl c :=
    (sat_guards _).alt (sat_guards isCntrl)
  simpa only [isTokenChar, Bool.not_not] using h

/-- A token is read up to the first character that is none of its own. -/
lemma token_matches {w r : Text} (hw : IsToken w) (hr : r.head?.all (!isTokenChar ·) = true)
    (a : Text) : (plus token).Matches (w ++ r) a r (a ++ w) := by
  have h := token_guards.plus_span (by simpa using hw.chars) hw.ne_nil hr a
  have hstop : token.Fails r (a ++ w) (a ++ w) := token_guards.plus_fails hr (a ++ w)
  exact h.plus hstop.star

lemma token_fails {s : Text} (hs : s.head?.all (!isTokenChar ·) = true) (a : Text) :
    (plus token).Fails s a a :=
  Parser.Fails.plus (token_guards.plus_fails hs a)

lemma ctl_or_quote_guards : (ctl <|> lit (str "\"")).Guards fun c => isCntrl c || c == 34 :=
  (sat_guards isCntrl).alt (lit_guards 34)

lemma quotedString_fails {s : Text} (hs : ∀ c ∈ s.head?, c ≠ 34) (a : Text) :
    quotedString.Fails s a a := by
  have h : (lit (str "\"") : Parser UInt8 Text).Fails s a a := by
    cases s with
    | nil => exact lit_fails_nil 34 [] a
    | cons c s => exact lit_fails_head (Ne.symm (hs c (by simp))) [] s a
  exact h.seq

section QuotedString

variable {w s : Text}

/-- The quote that opens or closes a quoted string. -/
lemma quote_matches (s a : Text) : (lit (str "\"")).Matches (34 :: s) a s a :=
  lit_matches (str "\"") s a

/-- A quote that quotes nothing. -/
lemma quotedString_fails_of_empty (hs : s.head?.all (fun c => isCntrl c || c == 34) = true)
    (a : Text) : quotedString.Fails (34 :: s) a a :=
  (quote_matches s a).seq_fails (Parser.Fails.seq (ctl_or_quote_guards.plus_fails hs a))

variable (hw : ∀ c ∈ w, (isCntrl c || c == 34) = false) (hne : w ≠ [])

include hw hne

lemma quotedString_matches (r a : Text) :
    quotedString.Matches (34 :: (w ++ 34 :: r)) a r (a ++ w) := by
  have hcontent := ctl_or_quote_guards.plus_span hw hne (r := 34 :: r) (by simp) a
  exact (quote_matches _ a).seq (hcontent.seq (quote_matches r _))

/-- A quoted string that is broken off has stored its content. -/
lemma quotedString_fails_of_open {c : UInt8} (hc : isCntrl c = true) (r a : Text) :
    quotedString.Fails (34 :: (w ++ c :: r)) a (a ++ w) := by
  have hcontent := ctl_or_quote_guards.plus_span hw hne (r := c :: r) (by simp [hc]) a
  have hclose : (lit (str "\"")).Fails (c :: r) (a ++ w) (a ++ w) := by
    refine lit_fails_head ?_ [] _ _
    rintro rfl
    exact absurd hc (by decide)
  exact (quote_matches _ a).seq_fails (hcontent.seq_fails hclose)

end QuotedString

/-- A line of a body starts with a character that is no control character. -/
lemma headerFieldBodyLine_fails {s : Text} (hs : s.head?.all isCntrl = true) (a : Text) :
    headerFieldBodyLine.Fails s a a := by
  refine (quotedString_fails ?_ a).alt_fails ((sat_guards isCntrl).plus_fails hs a)
  intro c hc
  rintro rfl
  rw [Option.mem_def] at hc
  simp [hc, isCntrl] at hs

/-- The text `r` after the end of a header line does not continue the line. -/
def Ends (r : Text) : Prop :=
  r.head?.all (!isSpace ·) = true ∨ (r.dropWhile isSpace).head?.all isCntrl = true

lemma continuation_fails_of_ends {r : Text} (hr : Ends r) (a : Text) :
    (continuation >> headerFieldBodyLine).Fails (crlf ++ r) a a := by
  cases r with
  | nil =>
    exact Parser.Fails.seq ((lit_matches crlf [] a).seq_fails
      (Parser.Fails.omits (b := default) (Parser.Fails.plus (sat_fails_nil isSpace default)) a))
  | cons c r =>
    cases hc : isSpace c with
    | false =>
      exact Parser.Fails.seq ((lit_matches crlf (c :: r) a).seq_fails
        (Parser.Fails.omits (Parser.Fails.plus (sat_fails hc r default)) a))
    | true =>
      have hcont : continuation.Matches (crlf ++ c :: r) a (r.dropWhile isSpace) a :=
        (lit_matches crlf (c :: r) a).seq ((plus_sat_matches hc r default).omits a)
      refine hcont.seq_fails (headerFieldBodyLine_fails ?_ a)
      rcases hr with hr | hr
      · simp [hc] at hr
      · simpa [hc] using hr

/-- A value is one line of a body. -/
lemma headerFieldBodyLine_matches {v : Text} (hv : IsFieldValue v) (r a : Text) :
    headerFieldBodyLine.Matches (v ++ (crlf ++ r)) a (crlf ++ r) (a ++ v) := by
  have hq : quotedString.Fails (v ++ (crlf ++ r)) a a := by
    refine quotedString_fails ?_ a
    obtain ⟨c, v, rfl⟩ := List.exists_cons_of_ne_nil hv.ne_nil
    intro d hd
    have : c = d := by simpa using hd
    exact this ▸ (hv.head c (by simp)).2
  exact hq.alt ((sat_guards isCntrl).plus_span hv.chars hv.ne_nil (by simp [crlf_eq, isCntrl]) a)

/-- A value is read up to its line end, if the text after it does not continue it. -/
lemma headerFieldBody_matches {v r : Text} (hv : IsFieldValue v) (hr : Ends r) (a : Text) :
    headerFieldBody.Matches (v ++ (crlf ++ r)) a (crlf ++ r) (a ++ v) :=
  (headerFieldBodyLine_matches hv r a).seq (continuation_fails_of_ends hr (a ++ v)).star

lemma dropWhile_blank {r : Text} (hr : r.head?.all (!isSpace ·) = true) :
    (str " " ++ r).dropWhile isSpace = r := by
  cases r with
  | nil => rfl
  | cons c r =>
    have hc : isSpace c = false := by simpa using hr
    rw [List.dropWhile_append_of_pos (by decide +kernel), List.dropWhile_cons_of_neg (by simp [hc])]

lemma IsFieldValue.head_append {v : Text} (hv : IsFieldValue v) (r : Text) :
    (v ++ r).head?.all (!isSpace ·) = true := by
  obtain ⟨c, v, rfl⟩ := List.exists_cons_of_ne_nil hv.ne_nil
  simp [(hv.head c (by simp)).1]

/-- A name with its colon is read, then whitespace is skipped, then the body and the line end are
read. -/
lemma header_matches_body_iff {w : Text} (hw : IsToken w) {s r r' : Text} {h' : Header} {b : Text}
    (hb : (opt headerFieldBody).Matches (s.dropWhile isSpace) [] r b) :
    header_.Matches (w ++ (str ":" ++ s)) default r' h' ↔ r = crlf ++ r' ∧ h' = (w, b) := by
  have hname : (Header.first (plus token)).Matches (w ++ (str ":" ++ s)) default (str ":" ++ s)
      (w, []) :=
    Parser.Matches.focus (d := (default : Header))
      (token_matches hw (by simp [str, isTokenChar]) [])
  have hblank : (omits (star space)).Matches s ((w, []) : Header) (s.dropWhile isSpace) (w, []) :=
    (star_sat_matches isSpace s default).omits ((w, []) : Header)
  have hbody : (Header.second (opt headerFieldBody)).Matches (s.dropWhile isSpace)
      ((w, []) : Header) r (w, b) :=
    Parser.Matches.focus (d := ((w, []) : Header)) hb
  have hfront := hname.seq ((lit_matches (str ":") _ _).seq (hblank.seq hbody))
  constructor
  · intro h'
    obtain ⟨r₁, b₁, h₁, h'⟩ := matches_seq_iff.mp h'
    obtain ⟨r₂, b₂, h₂, h'⟩ := matches_seq_iff.mp h'
    obtain ⟨r₃, b₃, h₃, h'⟩ := matches_seq_iff.mp h'
    obtain ⟨r₄, b₄, h₄, h₅⟩ := matches_seq_iff.mp h'
    obtain ⟨rfl, rfl⟩ := hfront.unique (h₁.seq (h₂.seq (h₃.seq h₄)))
    exact lit_matches_iff.mp h₅
  · rintro ⟨rfl, rfl⟩
    exact hname.seq ((lit_matches (str ":") _ _).seq
      (hblank.seq (hbody.seq (lit_matches crlf r' _))))

/-- The name of a header and the blank after it are read, then what its body and line end give. -/
lemma header_matches_iff {h : Header} (hh : IsHeader h) {s r r' : Text} {h' : Header} {b : Text}
    (hb : headerFieldBody.Matches (h.2 ++ s) [] r b) :
    header_.Matches (headerGenerator h ++ s) default r' h' ↔ r = crlf ++ r' ∧ h' = (h.1, b) := by
  have htext : headerGenerator h ++ s = h.1 ++ (str ":" ++ (str " " ++ (h.2 ++ s))) := by
    simp [headerGenerator]
  rw [htext]
  apply header_matches_body_iff hh.name
  rw [dropWhile_blank (hh.value.head_append s)]
  exact hb.opt

/-- A generated header is read back, if the text after it does not continue it. -/
lemma header_matches {h : Header} (hh : IsHeader h) {r : Text} (hr : Ends r) :
    header_.Matches (headerGenerator h ++ (crlf ++ r)) default r h :=
  (header_matches_iff hh (headerFieldBody_matches hh.value hr [])).mpr ⟨rfl, rfl⟩

lemma header_fails {s : Text} (hs : s.head?.all (!isTokenChar ·) = true) :
    ∃ b, header_.Fails s default b :=
  ⟨_, Parser.Fails.seq (Parser.Fails.focus (d := (default : Header)) (token_fails hs _))⟩

/-- The next header line ends a header. -/
lemma ends_of_header {h : Header} (hh : IsToken h.1) (r : Text) :
    Ends (headerGenerator h ++ r) := by
  obtain ⟨c, w, hw⟩ := List.exists_cons_of_ne_nil hh.ne_nil
  have := isSpace_of_isTokenChar (hh.chars c (by simp [hw]))
  left
  simp [headerGenerator, hw, this]

/-- The next header line, or the blank line, ends a header. -/
lemma ends_generateHeaders {hs : RawHeaders} (hhs : ∀ h ∈ hs, IsHeader h) {t : Text}
    (ht : (t.dropWhile isSpace).head?.all isCntrl = true) :
    Ends (generateHeaders hs ++ (crlf ++ t)) := by
  cases hs with
  | nil => exact Or.inr (by simpa [crlf_eq, isSpace] using ht)
  | cons h hs =>
    rw [generateHeaders_cons, List.append_assoc, List.append_assoc]
    exact ends_of_header (hhs h (by simp)).name _

/-- The header lines are read back in order. The induction shows each to end where the next
begins. -/
lemma headers_matches {hs : RawHeaders} (hhs : ∀ h ∈ hs, IsHeader h) {t : Text}
    (ht : hs = [] ∨ (t.dropWhile isSpace).head?.all isCntrl = true) (acc : RawHeaders) :
    (star (pushBack header_)).Matches (generateHeaders hs ++ (crlf ++ t)) acc
      (crlf ++ t) (acc ++ hs) := by
  induction hs generalizing acc with
  | nil =>
    obtain ⟨b, hb⟩ := header_fails (s := crlf ++ t) (by simp [crlf_eq, isTokenChar, isCntrl])
    simpa using (hb.pushBack acc).star
  | cons h hs ih =>
    have ht' : (t.dropWhile isSpace).head?.all isCntrl = true := ht.resolve_left (by simp)
    have htail : ∀ h ∈ hs, IsHeader h := fun h' h'' => hhs h' (by simp [h''])
    have hhead := (header_matches (hhs h (by simp))
      (ends_generateHeaders htail ht')).pushBack acc
    have := hhead.star (by simp [crlf_eq]; omega) (ih htail (Or.inr ht') (acc ++ [h]))
    simpa using this

/-! ### Start lines -/

/-- A written version number is read back as it was written, in 32 bits. -/
lemma atLeastOneDigit_matches (n : ℕ) {r : Text}
    (hr : r.head?.all (fun c => (digitValue c).isNone) = true) (a : ℕ) :
    atLeastOneDigit.Matches (uint_ n ++ r) a r (n % 2 ^ 32) := by
  refine uint_numeral (by decide) digitValue_digitChar ?_ ?_ (by simp) hr a
  · have := Nat.mod_lt n (show 0 < 2 ^ 32 by decide)
    simp only [uintFast16Max]
    omega
  · exact List.length_pos_iff.mpr (numeral_ne_nil digitChar 10 _)

lemma uint_length_three {n : ℕ} (h : 100 ≤ n) (h' : n ≤ 999) : (uint_ n).length = 3 := by
  have hmod : n % 2 ^ 32 = n := Nat.mod_eq_of_lt (by omega)
  have h3 : n / 10 / 10 / 10 = 0 := by omega
  rw [uint_, hmod, numeral, if_neg (by omega), List.length_map, List.length_reverse,
    Nat.digits_def' (by decide) (by omega), Nat.digits_def' (by decide) (by omega),
    Nat.digits_def' (by decide) (by omega), h3]
  rfl

lemma statusCode_matches {n : ℕ} (h : 100 ≤ n) (h' : n ≤ 999) {r : Text}
    (hr : r.head?.all (fun c => (digitValue c).isNone) = true) (a : ℕ) :
    statusCode.Matches (uint_ n ++ r) a r n := by
  have hlen := uint_length_three h h'
  have hmod : n % 2 ^ 32 = n := Nat.mod_eq_of_lt (by omega)
  rw [uint_, hmod] at hlen ⊢
  refine uint_numeral (by decide) digitValue_digitChar ?_ hlen.ge ?_ hr a
  · simp only [uintFast16Max]
    omega
  · rintro m hm
    obtain rfl := Option.some.inj hm
    exact hlen.le

/-- A blank is read together with the whitespace behind it. -/
lemma blanks_matches {α : Type} (r : Text) (a : α) :
    (omits (plus space)).Matches (str " " ++ r) a (r.dropWhile isSpace) a :=
  (plus_sat_matches (q := isSpace) (c := 32) (by decide) r default).omits a

/-- The single blank of a start line, followed by a character that is no whitespace. -/
lemma blank_matches {α : Type} {r : Text} (hr : r.head?.all (!isSpace ·) = true) (a : α) :
    (omits (plus space)).Matches (str " " ++ r) a r a := by
  have hdrop : r.dropWhile isSpace = r := by
    cases r with
    | nil => rfl
    | cons c r => exact List.dropWhile_cons_of_neg (by simpa using hr)
  have h := blanks_matches r a
  rwa [hdrop] at h

/-- What the generators write of a request: its version numbers in 32 bits. -/
def Request.written (m : Request) : Request :=
  { m with
    rtspVersionMajor := m.rtspVersionMajor % 2 ^ 32
    rtspVersionMinor := m.rtspVersionMinor % 2 ^ 32 }

lemma uri_guards : (lit (str "\r") <|> lit (str "\n") <|> space).Guards isSpace := by
  have h : (lit (str "\r") <|> lit (str "\n") <|> space).Guards
      fun c => c == 13 || (c == 10 || isSpace c) :=
    (lit_guards 13).alt ((lit_guards 10).alt (sat_guards isSpace))
  intro s a
  rw [h s a]
  congr 1
  funext c
  rcases eq_or_ne c 13 with rfl | h13
  · rfl
  rcases eq_or_ne c 10 with rfl | h10
  · rfl
  rw [beq_false_of_ne h13, beq_false_of_ne h10, Bool.false_or, Bool.false_or]

/-- A request line is read back without the whitespace before its URI. -/
lemma requestLine_matches_dropWhile {m : Request} (hmethod : IsToken m.methodOrExtension)
    (huri : IsUri (m.uri.dropWhile isSpace)) (r : Text) :
    requestLine.Matches (generateRequestLine m ++ r) default r
      { m.written with uri := m.uri.dropWhile isSpace, headers := [] } := by
  have hdrop : ∀ t, (m.uri ++ t).dropWhile isSpace = m.uri.dropWhile isSpace ++ t := by
    intro t
    rw [List.dropWhile_append, if_neg (by simpa using huri.ne_nil)]
  simp only [generateRequestLine, List.append_assoc]
  refine (Parser.Matches.focus (token_matches hmethod ?_ _)).seq ?_
  · simp [str, isTokenChar]
  refine (blanks_matches _ _).seq ?_
  rw [hdrop]
  refine (Parser.Matches.focus (uri_guards.plus_span huri.chars huri.ne_nil ?_ _)).seq ?_
  · simp [str, isSpace]
  refine (blank_matches ?_ _).seq ?_
  · simp [str, isSpace]
  refine (lit_matches (str "RTSP/") _ _).seq ?_
  refine (Parser.Matches.focus (atLeastOneDigit_matches _ ?_ _)).seq ?_
  · simp [str, digitValue, isDigit]
  refine (lit_matches (str ".") _ _).seq ?_
  refine (Parser.Matches.focus (atLeastOneDigit_matches _ ?_ _)).seq ?_
  · simp [crlf_eq, digitValue, isDigit]
  exact lit_matches crlf r _

lemma IsUri.dropWhile {u : Text} (hu : IsUri u) : u.dropWhile isSpace = u := by
  obtain ⟨c, w, rfl⟩ := List.exists_cons_of_ne_nil hu.ne_nil
  exact List.dropWhile_cons_of_neg (by simp [hu.chars c List.mem_cons_self])

lemma requestLine_matches {m : Request} (hm : m.WellFormed) (r : Text) :
    requestLine.Matches (generateRequestLine m ++ r) default r
      { m.written with headers := [] } := by
  have huri : IsUri (m.uri.dropWhile isSpace) := by rw [hm.uri.dropWhile]; exact hm.uri
  have h := requestLine_matches_dropWhile hm.method huri r
  rwa [hm.uri.dropWhile] at h

/-- What the generators write of a response: its version numbers in 32 bits. -/
def Response.written (m : Response) : Response :=
  { m with
    rtspVersionMajor := m.rtspVersionMajor % 2 ^ 32
    rtspVersionMinor := m.rtspVersionMinor % 2 ^ 32 }

lemma lineEnd_guards : (lit (str "\r") <|> lit (str "\n") : Parser UInt8 Text).Guards
    fun c => c == 13 || c == 10 := (lit_guards 13).alt (lit_guards 10)

/-- A reason phrase is read up to its line end. -/
lemma reason_matches {w : Text} (hw : ∀ c ∈ w, c ≠ 13 ∧ c ≠ 10) (r : Text) (a : Text) :
    (star (char_ - (lit (str "\r") <|> lit (str "\n") : Parser UInt8 Text))).Matches
      (w ++ (crlf ++ r)) a (crlf ++ r) (a ++ w) := by
  have h := lineEnd_guards.star_matches (w ++ (crlf ++ r)) a
  have hpos : ∀ c ∈ w, (!(c == 13 || c == 10)) = true := by
    intro c hc
    obtain ⟨h13, h10⟩ := hw c hc
    simp [h13, h10]
  rw [List.dropWhile_append_of_pos hpos, List.takeWhile_append_of_pos hpos] at h
  have htake : (crlf ++ r).takeWhile (fun c => !(c == 13 || c == 10)) = [] := by simp [crlf_eq]
  have hdrop : (crlf ++ r).dropWhile (fun c => !(c == 13 || c == 10)) = crlf ++ r := by
    simp [crlf_eq]
  rwa [htake, hdrop, List.append_nil] at h

lemma statusLine_matches {m : Response} (hm : m.WellFormed) (r : Text) :
    statusLine.Matches (generateStatusLine m ++ r) default r
      { m.written with headers := [] } := by
  obtain ⟨⟨h100, h999⟩, hreason, -⟩ := hm
  obtain ⟨c, w, hw⟩ := List.exists_cons_of_ne_nil hreason.ne_nil
  have hc : isSpace c = false := hreason.head c (by simp [hw])
  obtain ⟨d, u, hd, hdu⟩ : ∃ d u, isSpace d = false ∧ uint_ m.statusCode = d :: u := by
    obtain ⟨d, u, hdu⟩ :=
      List.exists_cons_of_ne_nil (numeral_ne_nil digitChar 10 (m.statusCode % 2 ^ 32))
    have hmem : d ∈ numeral digitChar 10 (m.statusCode % 2 ^ 32) := by
      rw [hdu]
      exact List.mem_cons_self
    obtain ⟨k, hk, rfl⟩ := mem_numeral (by decide : 1 < 10) hmem
    exact ⟨_, u, by interval_cases k <;> rfl, hdu⟩
  simp only [generateStatusLine, List.append_assoc]
  refine (lit_matches (str "RTSP/") _ _).seq ?_
  refine (Parser.Matches.focus (atLeastOneDigit_matches _ ?_ _)).seq ?_
  · simp [str, digitValue, isDigit]
  refine (lit_matches (str ".") _ _).seq ?_
  refine (Parser.Matches.focus (atLeastOneDigit_matches _ ?_ _)).seq ?_
  · simp [str, digitValue, isDigit]
  refine (blank_matches ?_ _).seq ?_
  · simp [hdu, hd]
  refine (Parser.Matches.focus (statusCode_matches h100 h999 ?_ _)).seq ?_
  · simp [str, digitValue, isDigit]
  refine (blank_matches ?_ _).seq ?_
  · simp [hw, hc]
  refine (Parser.Matches.focus (reason_matches hreason.chars r _)).seq ?_
  exact lit_matches crlf r _

/-! ### Messages -/

lemma Request.headerList_matches {p : Parser UInt8 RawHeaders} {s r : Text} {m : Request}
    {hs : RawHeaders} (h : p.Matches s m.headers r hs) :
    (Request.headerList p).Matches s m r { m with headers := hs } := by
  unfold Request.headerList
  exact Parser.Matches.focus h

lemma Response.headerList_matches {p : Parser UInt8 RawHeaders} {s r : Text} {m : Response}
    {hs : RawHeaders} (h : p.Matches s m.headers r hs) :
    (Response.headerList p).Matches s m r { m with headers := hs } := by
  unfold Response.headerList
  exact Parser.Matches.focus h

lemma phraseParse_matches {α : Type} {p : Parser UInt8 α} {s r : Text} {a b : α}
    (h : p.Matches (s.dropWhile isSpace) a r b) :
    (phraseParse p).Matches s a (r.dropWhile isSpace) b := h.phrase

/-- A generated request is read back whatever follows it, if it has no headers or nothing that
could continue the last one follows. -/
lemma rtspRequestGrammar_matches {m : Request} (hm : m.WellFormed) {t : Text}
    (ht : m.headers = [] ∨ (t.dropWhile isSpace).head?.all isCntrl = true) :
    rtspRequestGrammar.Matches (generateRequest m ++ t) default t m.written := by
  have hline := requestLine_matches hm (generateHeaders m.headers ++ (crlf ++ t))
  have hheaders : (Request.headerList (star (pushBack header_))).Matches
      (generateHeaders m.headers ++ (crlf ++ t)) { m.written with headers := [] }
      (crlf ++ t) m.written :=
    Request.headerList_matches (headers_matches hm.headers ht [])
  have := hline.seq (hheaders.seq (lit_matches crlf t _))
  rwa [← List.append_assoc, ← List.append_assoc] at this

lemma rtspResponseGrammar_matches {m : Response} (hm : m.WellFormed) {t : Text}
    (ht : m.headers = [] ∨ (t.dropWhile isSpace).head?.all isCntrl = true) :
    rtspResponseGrammar.Matches (generateResponse m ++ t) default t m.written := by
  have hline := statusLine_matches hm (generateHeaders m.headers ++ (crlf ++ t))
  have hheaders : (Response.headerList (star (pushBack header_))).Matches
      (generateHeaders m.headers ++ (crlf ++ t)) { m.written with headers := [] }
      (crlf ++ t) m.written :=
    Response.headerList_matches (headers_matches hm.headers ht [])
  have := hline.seq (hheaders.seq (lit_matches crlf t _))
  rwa [← List.append_assoc, ← List.append_assoc] at this

lemma generateRequestLine_dropWhile {m : Request} (hm : IsToken m.methodOrExtension) (t : Text) :
    (generateRequestLine m ++ t).dropWhile isSpace = generateRequestLine m ++ t := by
  obtain ⟨c, w, hw⟩ := List.exists_cons_of_ne_nil hm.ne_nil
  have hc := isSpace_of_isTokenChar (hm.chars c (by simp [hw]))
  simp only [generateRequestLine, hw, List.cons_append]
  exact List.dropWhile_cons_of_neg (by simp [hc])

lemma generateRequest_dropWhile {m : Request} (hm : m.WellFormed) (t : Text) :
    (generateRequest m ++ t).dropWhile isSpace = generateRequest m ++ t := by
  simp only [generateRequest, List.append_assoc]
  exact generateRequestLine_dropWhile hm.method _

lemma generateResponse_dropWhile (m : Response) (t : Text) :
    (generateResponse m ++ t).dropWhile isSpace = generateResponse m ++ t := by
  have h : ∀ r : Text, (str "RTSP/" ++ r).dropWhile isSpace = str "RTSP/" ++ r :=
    fun r => List.dropWhile_cons_of_neg (by decide)
  simp only [generateResponse, generateStatusLine, List.append_assoc]
  exact h _

/-- Versions that fit in the 32 bits the generators write. -/
lemma Request.written_of_le {m : Request} (hmajor : m.rtspVersionMajor ≤ 65535)
    (hminor : m.rtspVersionMinor ≤ 65535) : m.written = m := by
  simp only [Request.written, Nat.mod_eq_of_lt (show m.rtspVersionMajor < 2 ^ 32 by omega),
    Nat.mod_eq_of_lt (show m.rtspVersionMinor < 2 ^ 32 by omega)]

lemma Response.written_of_le {m : Response} (hmajor : m.rtspVersionMajor ≤ 65535)
    (hminor : m.rtspVersionMinor ≤ 65535) : m.written = m := by
  simp only [Response.written, Nat.mod_eq_of_lt (show m.rtspVersionMajor < 2 ^ 32 by omega),
    Nat.mod_eq_of_lt (show m.rtspVersionMinor < 2 ^ 32 by omega)]

/-- Every well-formed request and response is read back whole from what the generator writes,
by its grammar and by the phrase around it. -/
theorem message_round_trip :
    (∀ m : Request, m.WellFormed → m.rtspVersionMajor ≤ 65535 → m.rtspVersionMinor ≤ 65535 →
      rtspRequestGrammar.Matches (generateRequest m) default [] m ∧
      (phraseParse rtspRequestGrammar).Matches (generateRequest m) default [] m) ∧
    (∀ m : Response, m.WellFormed → m.rtspVersionMajor ≤ 65535 → m.rtspVersionMinor ≤ 65535 →
      rtspResponseGrammar.Matches (generateResponse m) default [] m ∧
      (phraseParse rtspResponseGrammar).Matches (generateResponse m) default [] m) := by
  constructor
  · intro m hm hmajor hminor
    have h := rtspRequestGrammar_matches hm (t := []) (Or.inr rfl)
    have hdrop := generateRequest_dropWhile hm []
    rw [List.append_nil] at h hdrop
    rw [Request.written_of_le hmajor hminor] at h
    exact ⟨h, phraseParse_matches (by rwa [hdrop])⟩
  · intro m hm hmajor hminor
    have h := rtspResponseGrammar_matches hm (t := []) (Or.inr rfl)
    have hdrop := generateResponse_dropWhile m []
    rw [List.append_nil] at h hdrop
    rw [Response.written_of_le hmajor hminor] at h
    exact ⟨h, phraseParse_matches (by rwa [hdrop])⟩

/-- A request and a response with headers. -/
theorem message_round_trip_play :
    rtspRequestGrammar.Matches
      (generateRequest ⟨str "PLAY", str "rtsp://host/jpeg", 1, 0,
        [(str "CSeq", str "4"), (str "Session", str "00AB")]⟩) default []
      ⟨str "PLAY", str "rtsp://host/jpeg", 1, 0,
        [(str "CSeq", str "4"), (str "Session", str "00AB")]⟩ ∧
    rtspResponseGrammar.Matches
      (generateResponse ⟨1, 0, 200, str "OK", [(str "CSeq", str "4")]⟩) default []
      ⟨1, 0, 200, str "OK", [(str "CSeq", str "4")]⟩ := by
  have hrequest : Request.WellFormed ⟨str "PLAY", str "rtsp://host/jpeg", 1, 0,
      [(str "CSeq", str "4"), (str "Session", str "00AB")]⟩ := by
    constructor <;> decide
  have hresponse : Response.WellFormed ⟨1, 0, 200, str "OK", [(str "CSeq", str "4")]⟩ := by
    constructor <;> decide
  have hone : 1 ≤ 65535 := by decide
  exact ⟨(message_round_trip.1 _ hrequest hone (Nat.zero_le _)).1,
    (message_round_trip.2 _ hresponse hone (Nat.zero_le _)).1⟩

end Rtsp
