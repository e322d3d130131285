import StreamingLib.Rtsp.Message.Locality

/-!
# Headers without a value

The body of a header is optional, yet the whitespace that is skipped before it contains the line
end. A header without a value takes the next header line for its body, and where none follows, the
message for its end.
-/

namespace Rtsp

open Peg

/-- A header whose value may be missing. -/
structure IsOptionalHeader (h : Header) : Prop where
  name : IsToken h.1
  value : h.2 = [] ∨ IsFieldValue h.2

/-- A request whose parts the grammar can give back, where header values may be missing. -/
structure Request.WellFormedBesidesEmpty (m : Request) : Prop where
  method : IsToken m.methodOrExtension
  uri : IsUri m.uri
  headers : ∀ h ∈ m.headers, IsOptionalHeader h

lemma IsOptionalHeader.isHeader {h : Header} (hh : IsOptionalHeader h) (hne : h.2 ≠ []) :
    IsHeader h := ⟨hh.name, hh.value.resolve_left hne⟩

/-- A header line starts with the character of a token. -/
lemma headerGenerator_cons {h : Header} (hh : IsToken h.1) :
    ∃ c s, isTokenChar c = true ∧ headerGenerator h = c :: s := by
  obtain ⟨c, w, hw⟩ := List.exists_cons_of_ne_nil hh.ne_nil
  refine ⟨c, w ++ str ":" ++ str " " ++ h.2, hh.chars c (by simp [hw]), ?_⟩
  rw [headerGenerator, hw]
  rfl

/-! ### One header -/

/-- The body of a header line that is read over the start of another one has characters. -/
lemma headerFieldBody_ne_nil {c : UInt8} (hc : isCntrl c = false) (s : Text) :
    ∃ r b, headerFieldBody.Matches (c :: s) [] r b ∧ b ≠ [] := by
  obtain ⟨r, b, hline, hlt⟩ := headerFieldBodyLine_grows hc s []
  have hloop := Parser.matches_of_ok (star_ok (continuation >> headerFieldBodyLine) r b)
  have hgrows := (continuation_appends.seq headerFieldBodyLine_appends).star.matches hloop
  refine ⟨_, _, hline.seq hloop, ?_⟩
  exact List.ne_nil_of_length_pos (lt_of_lt_of_le hlt hgrows.length_le)

/-- A header without a value that is read has got one. -/
lemma header_ne_of_empty {h : Header} (hh : IsToken h.1) (hempty : h.2 = []) {s : Text}
    (hs : s.dropWhile isSpace = [] ∨ ∃ c s', s.dropWhile isSpace = c :: s' ∧ isCntrl c = false)
    {r : Text} {h' : Header}
    (hm : header_.Matches (headerGenerator h ++ (crlf ++ s)) default r h') : h' ≠ h := by
  have htext : headerGenerator h ++ (crlf ++ s) = h.1 ++ (str ":" ++ (str " " ++ (crlf ++ s))) := by
    simp [headerGenerator, hempty]
  have hdrop : (str " " ++ (crlf ++ s)).dropWhile isSpace = s.dropWhile isSpace := rfl
  rw [htext] at hm
  rcases hs with hnil | ⟨c, s', hcons, hc⟩
  · have hbody := Parser.matches_of_ok
      (show ((opt headerFieldBody).run ((str " " ++ (crlf ++ s)).dropWhile isSpace) []).ok = true
        from rfl)
    have hrest := hbody.suffix
    obtain ⟨heq, -⟩ := (header_matches_body_iff hh hbody).mp hm
    rw [heq, hdrop, hnil, List.suffix_nil] at hrest
    cases hrest
  · obtain ⟨r', b, hbody, hb⟩ := headerFieldBody_ne_nil hc s'
    rw [← hcons, ← hdrop] at hbody
    obtain ⟨-, rfl⟩ := (header_matches_body_iff hh hbody.opt).mp hm
    intro heq
    rw [← heq] at hempty
    exact hb hempty

/-! ### All headers -/

/-- What follows a header line, without the whitespace before it. -/
lemma dropWhile_generateHeaders {hs : RawHeaders} (hhs : ∀ h ∈ hs, IsOptionalHeader h) :
    (generateHeaders hs ++ crlf).dropWhile isSpace = [] ∨
      ∃ c s, (generateHeaders hs ++ crlf).dropWhile isSpace = c :: s ∧ isCntrl c = false := by
  cases hs with
  | nil => exact Or.inl rfl
  | cons h hs =>
    obtain ⟨c, s, hc, hgen⟩ := headerGenerator_cons (hhs h List.mem_cons_self).name
    refine Or.inr ⟨c, s ++ (crlf ++ (generateHeaders hs ++ crlf)), ?_, (isTokenChar_iff.mp hc).2⟩
    rw [generateHeaders_cons, hgen, List.append_assoc, List.append_assoc]
    exact List.dropWhile_cons_of_neg (by simp [isSpace_of_isTokenChar hc])

/-- Header lines of which one has no value are not read back as they were written. The induction
goes to the first of these; all before it are read as they are. -/
lemma headers_ne_of_empty {hs : RawHeaders} (hhs : ∀ h ∈ hs, IsOptionalHeader h)
    (hempty : ∃ h ∈ hs, h.2 = []) {acc c : RawHeaders} {r : Text}
    (hm : (star (pushBack header_)).Matches (generateHeaders hs ++ crlf) acc (crlf ++ r) c) :
    c ≠ acc ++ hs := by
  induction hs generalizing acc with
  | nil =>
    obtain ⟨h, hmem, -⟩ := hempty
    cases hmem
  | cons h hs ih =>
    have hh := hhs h List.mem_cons_self
    have htail : ∀ h ∈ hs, IsOptionalHeader h := fun h' h'' => hhs h' (List.mem_cons_of_mem h h'')
    rw [generateHeaders_cons, List.append_assoc, List.append_assoc] at hm
    by_cases hvalue : h.2 = []
    · cases hok : (header_.run (headerGenerator h ++ (crlf ++ (generateHeaders hs ++ crlf)))
          default).ok with
      | false =>
        -- the loop ends before the name, which is no line end
        obtain ⟨heq, -⟩ := ((Parser.fails_of_not_ok hok).pushBack acc).star.unique hm
        obtain ⟨d, w, hd, hgen⟩ := headerGenerator_cons hh.name
        obtain rfl : d = 13 := by simpa [hgen, crlf_eq] using congrArg List.head? heq
        exact absurd hd (by decide)
      | true =>
        have hhead := Parser.matches_of_ok hok
        have hloop := (matches_star_iff (hhead.pushBack acc) (header_shorter hhead)).mp hm
        have hpre := (pushBack_appends header_).star.matches hloop
        rintro rfl
        have hone : [(header_.run (headerGenerator h ++ (crlf ++ (generateHeaders hs ++ crlf)))
            default).attr] <+: h :: hs := List.prefix_append_right_inj acc |>.mp hpre
        exact header_ne_of_empty hh.name hvalue (dropWhile_generateHeaders htail) hhead
          (List.cons_prefix_cons.mp hone).1
    · have hnext : Ends (generateHeaders hs ++ crlf) := by
        cases hs with
        | nil => exact Or.inr rfl
        | cons h₂ hs =>
          rw [generateHeaders_cons, List.append_assoc, List.append_assoc]
          exact ends_of_header (htail h₂ List.mem_cons_self).name _
      have hhead := header_matches (hh.isHeader hvalue) hnext
      have hloop := (matches_star_iff (hhead.pushBack acc) (header_shorter hhead)).mp hm
      have hrest : ∃ h ∈ hs, h.2 = [] := by
        obtain ⟨h', hmem, h''⟩ := hempty
        rcases List.mem_cons.mp hmem with rfl | hmem
        · exact absurd h'' hvalue
        · exact ⟨h', hmem, h''⟩
      simpa using ih htail hrest hloop

/-! ### Requests -/

/-- A request with a header without a value is not read back. -/
lemma rtspRequestGrammar_ne_of_empty {m : Request} (hm : m.WellFormedBesidesEmpty)
    (hempty : ∃ h ∈ m.headers, h.2 = []) {r : Text} {m' : Request}
    (h : rtspRequestGrammar.Matches (generateRequest m) default r m') :
    m'.headers ≠ m.headers := by
  have hbare : Request.WellFormed { m with headers := [] } :=
    ⟨hm.method, hm.uri, List.forall_mem_nil _⟩
  obtain ⟨r₁, m₁, hline, hrest⟩ := matches_seq_iff.mp h
  obtain ⟨r₂, m₂, hheaders, hend⟩ := matches_seq_iff.mp hrest
  obtain ⟨rfl, rfl⟩ := lit_matches_iff.mp hend
  rw [generateRequest, List.append_assoc] at hline
  obtain ⟨rfl, rfl⟩ := (requestLine_matches hbare _).unique hline
  have hloop := Parser.matches_of_ok
    (star_ok (pushBack header_) (generateHeaders m.headers ++ crlf) [])
  obtain ⟨hr, rfl⟩ := (Request.headerList_matches (m := { m.written with headers := [] })
    hloop).unique hheaders
  rw [hr] at hloop
  exact headers_ne_of_empty hm.headers hempty hloop

/-- A generated request is accepted with its headers exactly where each of them has a value. -/
theorem empty_headers_iff {m : Request} (hm : m.WellFormedBesidesEmpty) :
    ((∃ r m', rtspRequestGrammar.Matches (generateRequest m) default r m' ∧
        m'.headers = m.headers) ↔ ∀ h ∈ m.headers, h.2 ≠ []) ∧
    ((∃ r m', (phraseParse rtspRequestGrammar).Matches (generateRequest m) default r m' ∧
        m'.headers = m.headers) ↔ ∀ h ∈ m.headers, h.2 ≠ []) := by
  have hdrop : (generateRequest m).dropWhile isSpace = generateRequest m := by
    simp only [generateRequest, List.append_assoc]
    exact generateRequestLine_dropWhile hm.method _
  have hgrammar : (∃ r m', rtspRequestGrammar.Matches (generateRequest m) default r m' ∧
      m'.headers = m.headers) ↔ ∀ h ∈ m.headers, h.2 ≠ [] := by
    constructor
    · rintro ⟨r, m', h, hheaders⟩ h' hmem hempty
      exact rtspRequestGrammar_ne_of_empty hm ⟨h', hmem, hempty⟩ h hheaders
    · intro hvalues
      have hwell : m.WellFormed :=
        ⟨hm.method, hm.uri, fun h hmem => (hm.headers h hmem).isHeader (hvalues h hmem)⟩
      have h := rtspRequestGrammar_matches hwell (t := []) (Or.inr rfl)
      rw [List.append_nil] at h
      exact ⟨[], m.written, h, rfl⟩
  refine ⟨hgrammar, Iff.trans ⟨?_, ?_⟩ hgrammar⟩
  · rintro ⟨r, m', h, hheaders⟩
    obtain ⟨r', h', -⟩ := phrase_matches_iff.mp h
    rw [hdrop] at h'
    exact ⟨r', m', h', hheaders⟩
  · rintro ⟨r, m', h, hheaders⟩
    exact ⟨_, m', phraseParse_matches (by rwa [hdrop]), hheaders⟩

/-- A request whose headers have values. -/
theorem empty_headers_iff_values :
    ∃ r m', rtspRequestGrammar.Matches
      (generateRequest ⟨str "OPTIONS", str "*", 1, 0, [(str "CSeq", str "1")]⟩) default r m' ∧
      m'.headers = [(str "CSeq", str "1")] := by
  have hm : Request.WellFormedBesidesEmpty
      ⟨str "OPTIONS", str "*", 1, 0, [(str "CSeq", str "1")]⟩ :=
    ⟨options_wellFormed.method, options_wellFormed.uri, fun h hmem =>
      have hh := options_wellFormed.headers h hmem
      ⟨hh.name, Or.inr hh.value⟩⟩
  refine (empty_headers_iff hm).1.mpr fun h hmem => ?_
  exact (options_wellFormed.headers h hmem).value.ne_nil

/-- TEARDOWN as the client sends it without a session is refused, and an empty header before
another one takes that for its value. -/
theorem empty_headers_not_read :
    let teardown : Request := ⟨str "TEARDOWN", str "rtsp://localhost/movie", 1, 0,
      [(str "CSeq", str "0"), (str "session", [])]⟩
    let swapped : Request := ⟨str "TEARDOWN", str "rtsp://localhost/movie", 1, 0,
      [(str "session", []), (str "CSeq", str "0")]⟩
    ((phraseParse rtspRequestGrammar).run (generateRequest teardown) default).ok = false ∧
    ((phraseParse rtspRequestGrammar).run (generateRequest swapped) default).ok = true ∧
    ((phraseParse rtspRequestGrammar).run (generateRequest swapped) default).attr.headers =
      [(str "session", str "CSeq: 0")] := by
  decide

end Rtsp
