import StreamingLib.Rtsp.Message.RoundTrip

/-!
# What follows a request in the same buffer

The server parses its whole stream buffer. The whitespace of a continuation line contains the line
end, so the blank line after the last header is taken for the start of a continuation, unless no
text follows that could be one.
-/

namespace Rtsp

open Peg

/-! ### Lines that append something -/

lemma quotedString_appends : quotedString.Appends :=
  (lit_appends _).seq ((sat_appends _).diff _ |>.plus.seq (lit_appends _))

lemma headerFieldBodyLine_appends : headerFieldBodyLine.Appends :=
  quotedString_appends.alt ((sat_appends _).diff _).plus

lemma continuation_appends : continuation.Appends := (lit_appends _).seq (omits_appends _)

/-- A quoted string that matches has at least one character between its quotes. -/
lemma quotedString_grows {s r a b : Text} (h : quotedString.Matches s a r b) :
    a.length < b.length := by
  obtain ⟨s₁, a₁, hopen, h⟩ := matches_seq_iff.mp h
  obtain ⟨s₂, a₂, hchars, hclose⟩ := matches_seq_iff.mp h
  obtain ⟨-, rfl⟩ := lit_matches_iff.mp hopen
  obtain ⟨-, rfl⟩ := lit_matches_iff.mp hclose
  cases hq : s₁.head?.all fun c => isCntrl c || c == 34 with
  | true => exact absurd hchars (ctl_or_quote_guards.plus_fails hq a₁).not_matches
  | false =>
    cases s₁ with
    | nil => simp at hq
    | cons c s₁ =>
      obtain ⟨-, hb⟩ := (ctl_or_quote_guards.plus_matches (by simpa using hq) s₁ a₁).unique hchars
      rw [← hb]
      simp

/-- A line that starts with no control character matches and appends at least one character. -/
lemma headerFieldBodyLine_grows {c : UInt8} (hc : isCntrl c = false) (s a : Text) :
    ∃ r b, headerFieldBodyLine.Matches (c :: s) a r b ∧ a.length < b.length := by
  cases hq : (quotedString.run (c :: s) a).ok with
  | true =>
    have h := Parser.matches_of_ok hq
    exact ⟨_, _, h.alt, quotedString_grows h⟩
  | false =>
    have h := Parser.fails_of_not_ok hq
    have hline := (sat_guards isCntrl).plus_matches hc s (quotedString.run (c :: s) a).attr
    refine ⟨_, _, h.alt hline, ?_⟩
    have := (quotedString_appends (c :: s) a).length_le
    simp only [List.length_append, List.length_cons]
    omega

/-! ### The last header -/

/-- The text `t` after a message continues its last header line. -/
def Continues (t : Text) : Prop := (t.dropWhile isSpace).head?.any (!isCntrl ·) = true

lemma continues_iff (t : Text) :
    Continues t ↔ ¬(t.dropWhile isSpace).head?.all isCntrl = true := by
  unfold Continues
  cases (t.dropWhile isSpace).head? <;> simp

/-- The value before a continued blank line is read as a longer value. -/
lemma headerFieldBody_grows {v t : Text} (hv : IsFieldValue v) (ht : Continues t) :
    ∃ r b, headerFieldBody.Matches (v ++ (crlf ++ (crlf ++ t))) [] r b ∧ v.length < b.length := by
  obtain ⟨c, s, hs⟩ : ∃ c s, t.dropWhile isSpace = c :: s := by
    cases hd : t.dropWhile isSpace with
    | nil => simp [Continues, hd] at ht
    | cons c s => exact ⟨c, s, rfl⟩
  have hc : isCntrl c = false := by simpa [Continues, hs] using ht
  have hcont : continuation.Matches (crlf ++ (crlf ++ t)) v (c :: s) v := by
    refine (lit_matches crlf (crlf ++ t) _).seq ?_
    have := (plus_sat_matches (q := isSpace) (c := 13) rfl (10 :: t) default).omits v
    rwa [List.dropWhile_cons_of_pos rfl, hs] at this
  obtain ⟨r, b, hline, hlt⟩ := headerFieldBodyLine_grows hc s v
  have hshort : r.length < (crlf ++ (crlf ++ t)).length := by
    have h₁ := hline.suffix.length_le
    have h₂ := (List.dropWhile_suffix (l := t) isSpace).length_le
    rw [hs] at h₂
    simp only [List.length_append, crlf_eq, List.length_cons] at h₁ h₂ ⊢
    omega
  have hloop := Parser.matches_of_ok (star_ok (continuation >> headerFieldBodyLine) r b)
  have happends := (continuation_appends.seq headerFieldBodyLine_appends).star.matches hloop
  exact ⟨_, _, (headerFieldBodyLine_matches hv (crlf ++ t) []).seq
    ((hcont.seq hline).star hshort hloop), lt_of_lt_of_le hlt happends.length_le⟩

/-- No match of the last header before a continued blank line gives it back. -/
lemma header_ne {h : Header} (hh : IsHeader h) {t : Text} (ht : Continues t) {r : Text}
    {h' : Header}
    (hm : header_.Matches (headerGenerator h ++ (crlf ++ (crlf ++ t))) default r h') :
    h' ≠ h := by
  obtain ⟨r', b, hbody, hlt⟩ := headerFieldBody_grows hh.value ht
  obtain ⟨-, rfl⟩ := (header_matches_iff hh hbody).mp hm
  intro heq
  exact absurd hlt (by simp [← congrArg Prod.snd heq])

lemma header_shorter {s r : Text} {h h' : Header} (hm : header_.Matches s h r h') :
    r.length < s.length := by
  obtain ⟨r₁, _, hname, hcolon⟩ := matches_seq_iff.mp hm
  obtain ⟨r₂, _, hcolon, hbody⟩ := matches_seq_iff.mp hcolon
  obtain ⟨rfl, -⟩ := lit_matches_iff.mp hcolon
  have hle := hname.suffix.length_le
  have hle' := hbody.suffix.length_le
  simp only [List.length_append] at hle
  have : (str ":").length = 1 := rfl
  omega

/-- Header lines before a continued blank line are not read back as they were written. The
induction goes down to the last header; all before it end at the next header line. -/
lemma headers_ne {hs : RawHeaders} (hhs : ∀ h ∈ hs, IsHeader h) (hne : hs ≠ []) {t : Text}
    (ht : Continues t) {acc c : RawHeaders} {r : Text}
    (hm : (star (pushBack header_)).Matches (generateHeaders hs ++ (crlf ++ t)) acc
      (crlf ++ r) c) :
    c ≠ acc ++ hs := by
  induction hs generalizing acc with
  | nil => exact absurd rfl hne
  | cons h hs ih =>
    have hh : IsHeader h := hhs h (by simp)
    rw [generateHeaders_cons, List.append_assoc, List.append_assoc] at hm
    cases hs with
    | nil =>
      cases hok : (header_.run (headerGenerator h ++ (crlf ++ (crlf ++ t))) default).ok with
      | false =>
        obtain ⟨heq, -⟩ := ((Parser.fails_of_not_ok hok).pushBack acc).star.unique hm
        obtain ⟨d, w, hw⟩ := List.exists_cons_of_ne_nil hh.name.ne_nil
        have htok := hh.name.chars d (by simp [hw])
        obtain rfl : d = 13 := by simpa [headerGenerator, hw, crlf_eq] using congrArg List.head? heq
        exact absurd htok (by decide)
      | true =>
        have hlast := Parser.matches_of_ok hok
        have hloop := (matches_star_iff (hlast.pushBack acc) (header_shorter hlast)).mp hm
        have hpre := (pushBack_appends header_).star.matches hloop
        rintro rfl
        have := List.prefix_append_right_inj acc |>.mp hpre
        exact header_ne hh ht hlast (by simpa using this)
    | cons h₂ hs =>
      have hnext : Ends (generateHeaders (h₂ :: hs) ++ (crlf ++ t)) := by
        rw [generateHeaders_cons, List.append_assoc, List.append_assoc]
        exact ends_of_header (hhs h₂ (by simp)).name _
      have hhead := header_matches hh hnext
      have hloop := (matches_star_iff (hhead.pushBack acc) (header_shorter hhead)).mp hm
      have := ih (fun h' h'' => hhs h' (List.mem_cons_of_mem h h'')) (by simp) hloop
      simpa using this

/-! ### Messages -/

/-- A request before text that continues its last header is not read back. -/
lemma rtspRequestGrammar_ne {m : Request} (hm : m.WellFormed) (hne : m.headers ≠ []) {t : Text}
    (ht : Continues t) {r : Text} {m' : Request}
    (h : rtspRequestGrammar.Matches (generateRequest m ++ t) default r m') : m' ≠ m.written := by
  obtain ⟨r₁, m₁, hline, hrest⟩ := matches_seq_iff.mp h
  obtain ⟨r₂, m₂, hheaders, hend⟩ := matches_seq_iff.mp hrest
  obtain ⟨rfl, rfl⟩ := lit_matches_iff.mp hend
  have htext : generateRequest m ++ t =
      generateRequestLine m ++ (generateHeaders m.headers ++ (crlf ++ t)) := by
    simp [generateRequest]
  rw [htext] at hline
  obtain ⟨rfl, rfl⟩ := (requestLine_matches hm _).unique hline
  have hloop := Parser.matches_of_ok
    (star_ok (pushBack header_) (generateHeaders m.headers ++ (crlf ++ t)) [])
  obtain ⟨hr, rfl⟩ := (Request.headerList_matches (m := { m.written with headers := [] })
    hloop).unique hheaders
  rw [hr] at hloop
  intro heq
  exact headers_ne hm.headers hne ht hloop (congrArg Request.headers heq)

/-- Parsing the request `m` with `t` after it, as the server does, gives what parsing `m` alone
gives and takes at most leading whitespace of `t`. -/
def Local (m : Request) (t : Text) : Prop :=
  ∃ b w r, t = w ++ r ∧ (∀ c ∈ w, isSpace c = true) ∧
    (phraseParse rtspRequestGrammar).Matches (generateRequest m) default [] b ∧
    (phraseParse rtspRequestGrammar).Matches (generateRequest m ++ t) default r b

/-- A well-formed request is parsed independently of what follows it exactly when it has no
headers or no character that could stand in a header value is the next after whitespace. -/
theorem request_local_iff (m : Request) (hm : m.WellFormed) (t : Text) :
    Local m t ↔ m.headers = [] ∨ (t.dropWhile isSpace).head?.all isCntrl = true := by
  have halone :
      (phraseParse rtspRequestGrammar).Matches (generateRequest m) default [] m.written := by
    have h := phraseParse_matches (s := generateRequest m ++ [])
      ((generateRequest_dropWhile hm []).symm ▸ rtspRequestGrammar_matches hm (Or.inr rfl))
    rwa [List.append_nil] at h
  constructor
  · rintro ⟨b, w, r, -, -, hb, hall⟩
    obtain ⟨-, rfl⟩ := halone.unique hb
    by_contra hnot
    obtain ⟨hne, ht⟩ := not_or.mp hnot
    obtain ⟨r', hr', -⟩ := phrase_matches_iff.mp hall
    rw [generateRequest_dropWhile hm t] at hr'
    exact rtspRequestGrammar_ne hm hne ((continues_iff t).mpr ht) hr' rfl
  · intro ht
    refine ⟨m.written, t.takeWhile isSpace, t.dropWhile isSpace,
      List.takeWhile_append_dropWhile.symm, ?_, halone, phraseParse_matches ?_⟩
    · intro c hc
      exact List.all_eq_true.mp List.all_takeWhile c hc
    · rw [generateRequest_dropWhile hm t]
      exact rtspRequestGrammar_matches hm ht

lemma options_wellFormed :
    Request.WellFormed ⟨str "OPTIONS", str "*", 1, 0, [(str "CSeq", str "1")]⟩ := by
  constructor <;> decide

/-- A request with a header, with a line end after it. -/
theorem request_local_lineEnd :
    Local ⟨str "OPTIONS", str "*", 1, 0, [(str "CSeq", str "1")]⟩ (str "\r\n") := by
  have hempty : (str "\r\n").dropWhile isSpace = [] := by decide
  refine (request_local_iff ⟨str "OPTIONS", str "*", 1, 0, [(str "CSeq", str "1")]⟩
    options_wellFormed (str "\r\n")).mpr (Or.inr ?_)
  rw [hempty]
  rfl

/-- The start line of a second request joins the value of the last header of the first. -/
theorem request_not_local :
    ¬∀ m : Request, m.WellFormed → ∀ t, Local m t := by
  intro h
  obtain ⟨b, w, r, -, -, halone, hall⟩ :=
    h ⟨str "OPTIONS", str "*", 1, 0, [(str "CSeq", str "1")]⟩ options_wellFormed
      (str "PLAY * RTSP/1.0\r\n\r\n")
  obtain ⟨n, halone⟩ := halone
  obtain ⟨n', hall⟩ := hall
  have hone : (Reply.attr ((phraseParse rtspRequestGrammar).run
      (generateRequest ⟨str "OPTIONS", str "*", 1, 0, [(str "CSeq", str "1")]⟩) default)).headers
      = [(str "CSeq", str "1")] := by decide
  have htwo : (Reply.attr ((phraseParse rtspRequestGrammar).run
      (generateRequest ⟨str "OPTIONS", str "*", 1, 0, [(str "CSeq", str "1")]⟩
        ++ str "PLAY * RTSP/1.0\r\n\r\n") default)).headers
      = [(str "CSeq", str "1PLAY * RTSP/1.0")] := by decide
  rw [halone] at hone
  rw [hall] at htwo
  exact absurd (hone.symm.trans htwo) (by decide)

end Rtsp
