import Mathlib.Data.List.TakeWhile
import StreamingLib.Rtsp.Message.Locality
import StreamingLib.Rtsp.Message.OneLine

/-!
# The values that are read back

Exactly which values the last header of a message gives back. Whitespace before a value is
skipped, a quoted value loses its quotes, and of a quote that is not closed the content is stored
before the line is read once more.
-/

namespace Rtsp

open Peg

/-- A value without control characters that begins neither with whitespace nor with a quote that
something is quoted by. The other kind is whitespace, a quote, and the same whitespace: of it the
content of the quote and then the line from the quote on is read. -/
def IsReadBack (v : Text) : Prop :=
  (∀ c ∈ v, isCntrl c = false) ∧
    ((∃ c w, v = c :: w ∧ isSpace c = false ∧ (c = 34 → ∀ d ∈ w.head?, d = 34)) ∨
      ∃ s, s ≠ [] ∧ (∀ c ∈ s, isSpace c = true) ∧ v = s ++ 34 :: s)

lemma IsFieldValue.isReadBack {v : Text} (hv : IsFieldValue v) : IsReadBack v := by
  obtain ⟨c, w, rfl⟩ := List.exists_cons_of_ne_nil hv.ne_nil
  obtain ⟨hc, hne⟩ := hv.head c (by simp)
  exact ⟨hv.chars, Or.inl ⟨c, w, rfl, hc, fun h => absurd h hne⟩⟩

/-! ### Quotes -/

/-- What can stand behind a quote: nothing that it quotes, something up to the end, or something
up to another quote. -/
lemma quote_cases (y : Text) :
    (∀ d ∈ y.head?, d = 34) ∨ (y ≠ [] ∧ 34 ∉ y) ∨
      ∃ x z, x ≠ [] ∧ 34 ∉ x ∧ y = x ++ 34 :: z := by
  by_cases hmem : 34 ∈ y
  · obtain ⟨x, z, rfl, hx⟩ := List.eq_append_cons_of_mem hmem
    by_cases hne : x = []
    · subst hne
      exact Or.inl (by simp)
    · exact Or.inr (Or.inr ⟨x, z, hne, hx, rfl⟩)
  · by_cases hne : y = []
    · subst hne
      exact Or.inl (by simp)
    · exact Or.inr (Or.inl ⟨hne, hmem⟩)

/-- The content of a quote is made of characters that do not end it. -/
lemma content_chars {x : Text} (hx : ∀ c ∈ x, isCntrl c = false) (hquote : 34 ∉ x) :
    ∀ c ∈ x, (isCntrl c || c == 34) = false := by
  intro c hc
  rw [Bool.or_eq_false_iff, beq_eq_false_iff_ne]
  exact ⟨hx c hc, fun h => hquote (h ▸ hc)⟩

/-! ### The last header -/

/-- A line without a quoted string is read as it is, behind what the attempt has stored. -/
lemma body_matches_of_fails {w b : Text} (hw : ∀ c ∈ w, isCntrl c = false) (hne : w ≠ [])
    (h : quotedString.Fails (w ++ (crlf ++ crlf)) [] b) :
    headerFieldBody.Matches (w ++ (crlf ++ crlf)) [] (crlf ++ crlf) (b ++ w) := by
  have hline : headerFieldBodyLine.Matches (w ++ (crlf ++ crlf)) [] (crlf ++ crlf) (b ++ w) :=
    h.alt ((sat_guards isCntrl).plus_span hw hne (by simp [crlf_eq, isCntrl]) b)
  exact hline.seq (continuation_fails_of_ends (Or.inr rfl) _).star

/-- A line that begins with no quote that something is quoted by is read as it is. -/
lemma body_matches_plain {c : UInt8} {w : Text} (hw : ∀ d ∈ c :: w, isCntrl d = false)
    (hplain : c = 34 → ∀ d ∈ w.head?, d = 34) :
    headerFieldBody.Matches (c :: w ++ (crlf ++ crlf)) [] (crlf ++ crlf) (c :: w) := by
  have hfails : quotedString.Fails (c :: w ++ (crlf ++ crlf)) [] [] := by
    by_cases hc : c = 34
    · subst hc
      refine quotedString_fails_of_empty ?_ []
      cases w with
      | nil => rfl
      | cons d w => simp [hplain rfl d (by simp)]
    · exact quotedString_fails (by simpa using hc) []
  exact body_matches_of_fails hw (List.cons_ne_nil c w) hfails

/-- A line that is quoted up to its end is read twice, first without its quote. -/
lemma body_matches_open {x : Text} (hx : ∀ c ∈ x, isCntrl c = false) (hquote : 34 ∉ x)
    (hne : x ≠ []) :
    headerFieldBody.Matches (34 :: x ++ (crlf ++ crlf)) [] (crlf ++ crlf) (x ++ 34 :: x) := by
  have hw : ∀ c ∈ 34 :: x, isCntrl c = false := List.forall_mem_cons.mpr ⟨by decide, hx⟩
  have h := body_matches_of_fails (b := [] ++ x) hw (List.cons_ne_nil 34 x)
    (quotedString_fails_of_open (content_chars hx hquote) hne (by decide) (10 :: crlf) [])
  rwa [List.nil_append] at h

/-- Of a line that begins with a quoted string only its content is read. -/
lemma body_matches_closed {x z : Text} (hx : ∀ c ∈ x, isCntrl c = false) (hquote : 34 ∉ x)
    (hne : x ≠ []) (hz : ∀ c ∈ z, isCntrl c = false) :
    headerFieldBody.Matches (34 :: (x ++ 34 :: z) ++ (crlf ++ crlf)) []
      (z ++ (crlf ++ crlf)) x := by
  have hline : headerFieldBodyLine.Matches (34 :: (x ++ 34 :: (z ++ (crlf ++ crlf)))) []
      (z ++ (crlf ++ crlf)) ([] ++ x) :=
    (quotedString_matches (content_chars hx hquote) hne (z ++ (crlf ++ crlf)) []).alt
  have hstop : (continuation >> headerFieldBodyLine).Fails (z ++ (crlf ++ crlf)) ([] ++ x)
      ([] ++ x) := by
    cases z with
    | nil => exact continuation_fails_of_ends (Or.inr rfl) _
    | cons c z =>
      have hc : 13 ≠ c := by
        rintro rfl
        exact absurd (hz 13 List.mem_cons_self) (by decide)
      exact Parser.Fails.seq (Parser.Fails.seq (lit_fails_head hc [10] _ _))
  have htext : 34 :: (x ++ 34 :: z) ++ (crlf ++ crlf) =
      34 :: (x ++ 34 :: (z ++ (crlf ++ crlf))) := by simp
  rw [htext]
  exact hline.seq hstop.star

/-- The text that the body of a header is read from. -/
lemma dropWhile_value (v t : Text) :
    (str " " ++ (v ++ t)).dropWhile isSpace =
      if (v.dropWhile isSpace).isEmpty then t.dropWhile isSpace else v.dropWhile isSpace ++ t := by
  rw [List.dropWhile_append_of_pos (by decide +kernel), List.dropWhile_append]

lemma headerGenerator_append (n v t : Text) :
    headerGenerator (n, v) ++ t = n ++ (str ":" ++ (str " " ++ (v ++ t))) := by
  simp [headerGenerator]

/-- A value of the kind is read back. -/
lemma IsReadBack.header_matches {n v : Text} (hn : IsToken n) (hv : IsReadBack v) :
    header_.Matches (headerGenerator (n, v) ++ (crlf ++ crlf)) default crlf (n, v) := by
  rw [headerGenerator_append]
  obtain ⟨hchars, ⟨c, w, rfl, hc, hplain⟩ | ⟨s, hne, hs, rfl⟩⟩ := hv
  · refine (header_matches_body_iff hn (r := crlf ++ crlf) ?_).mpr ⟨rfl, rfl⟩
    have hdrop : (c :: w).dropWhile isSpace = c :: w := List.dropWhile_cons_of_neg (by simp [hc])
    rw [dropWhile_value, hdrop]
    exact (body_matches_plain hchars hplain).opt
  · refine (header_matches_body_iff hn (r := crlf ++ crlf) ?_).mpr ⟨rfl, rfl⟩
    have hdrop : (s ++ 34 :: s).dropWhile isSpace = 34 :: s := by
      rw [List.dropWhile_append_of_pos hs]
      exact List.dropWhile_cons_of_neg (by decide)
    have hquote : 34 ∉ s := fun hmem => absurd (hs 34 hmem) (by decide)
    rw [dropWhile_value, hdrop]
    exact (body_matches_open (fun c hc => hchars c (List.mem_append_left _ hc)) hquote hne).opt

/-- The last header of a message is read back exactly with such a value. -/
theorem header_isReadBack_iff {n : Text} (hn : IsToken n) (v : Text) :
    (∃ r, header_.Matches (headerGenerator (n, v) ++ (crlf ++ crlf)) default r (n, v)) ↔
      IsReadBack v := by
  refine ⟨?_, fun hv => ⟨crlf, hv.header_matches hn⟩⟩
  rintro ⟨r, h⟩
  have hchars : ∀ c ∈ v, isCntrl c = false := by
    have hkeeps := header_keeps (P := fun c => isCntrl c = false) (fun _ hc => hc)
      (headerGenerator (n, v) ++ (crlf ++ crlf)) default (List.forall_mem_nil _)
    rwa [h.run_ok.2.2] at hkeeps
  rw [headerGenerator_append] at h
  have hdrop := dropWhile_value v (crlf ++ crlf)
  have hsplit : v.takeWhile isSpace ++ v.dropWhile isSpace = v := List.takeWhile_append_dropWhile
  have hsuffix : ∀ c ∈ v.dropWhile isSpace, isCntrl c = false :=
    fun c hc => hchars c ((List.dropWhile_suffix isSpace).subset hc)
  cases hw : v.dropWhile isSpace with
  | nil =>
    -- The whitespace before the body is all that is left of the message.
    rw [hw] at hdrop
    have hbody := Parser.matches_of_ok (show ((opt headerFieldBody).run
      ((str " " ++ (v ++ (crlf ++ crlf))).dropWhile isSpace) []).ok = true from rfl)
    have hrest := hbody.suffix
    obtain ⟨heq, -⟩ := (header_matches_body_iff hn hbody).mp h
    rw [heq, hdrop] at hrest
    exact absurd hrest.length_le (by simp [crlf_eq, isSpace])
  | cons c w =>
    rw [hw] at hdrop hsplit hsuffix
    have hc : isSpace c = false := by
      have := List.head_dropWhile_not isSpace (l := v) (by simp [hw])
      simpa [hw] using this
    have hvalue : ∀ {r' b}, headerFieldBody.Matches (c :: w ++ (crlf ++ crlf)) [] r' b → v = b := by
      intro r' b hb
      have hbody : (opt headerFieldBody).Matches
          ((str " " ++ (v ++ (crlf ++ crlf))).dropWhile isSpace) [] r' b := by
        rw [hdrop]
        exact hb.opt
      obtain ⟨-, hval⟩ := (header_matches_body_iff hn hbody).mp h
      exact (Prod.mk.inj hval).2
    refine ⟨hchars, ?_⟩
    by_cases hplain : c = 34 → ∀ d ∈ w.head?, d = 34
    · exact Or.inl ⟨c, w, hvalue (body_matches_plain hsuffix hplain), hc, hplain⟩
    · obtain ⟨rfl, hhead⟩ := Classical.not_imp.mp hplain
      have hw' : ∀ d ∈ w, isCntrl d = false := fun d hd => hsuffix d (List.mem_cons_of_mem _ hd)
      obtain hempty | ⟨hne, hquote⟩ | ⟨x, z, hne, hquote, rfl⟩ := quote_cases w
      · exact absurd hempty hhead
      · have hv := hvalue (body_matches_open hw' hquote hne)
        refine Or.inr ⟨w, hne, ?_, hv⟩
        have hw : v.takeWhile isSpace = w := List.append_cancel_right (hsplit.trans hv)
        intro d hd
        rw [← hw] at hd
        exact List.mem_takeWhile_imp hd
      · obtain ⟨hx, hz⟩ := List.forall_mem_append.mp hw'
        have hv := hvalue (body_matches_closed hx hquote hne
          fun d hd => hz d (List.mem_cons_of_mem _ hd))
        have hlength := congrArg List.length hsplit
        rw [hv] at hlength
        simp only [List.length_append, List.length_cons] at hlength
        omega

/-! ### All headers -/

lemma generateHeaders_concat (hs : RawHeaders) (n v : Text) :
    generateHeaders (hs ++ [(n, v)]) ++ crlf =
      generateHeaders hs ++ (headerGenerator (n, v) ++ (crlf ++ crlf)) := by
  simp [generateHeaders]

/-- A header line ends where the next one, or the last one, begins. -/
lemma ends_generateHeaders_concat {hs : RawHeaders} (hhs : ∀ h ∈ hs, IsHeader h) {n : Text}
    (hn : IsToken n) (v : Text) :
    Ends (generateHeaders hs ++ (headerGenerator (n, v) ++ (crlf ++ crlf))) := by
  cases hs with
  | nil => exact ends_of_header hn _
  | cons h hs =>
    rw [generateHeaders_cons, List.append_assoc, List.append_assoc]
    exact ends_of_header (hhs h List.mem_cons_self).name _

section Headers

variable {hs : RawHeaders} (hhs : ∀ h ∈ hs, IsHeader h) {n v : Text} (hn : IsToken n)

include hhs hn

/-- The first of several header lines is read, then the loop goes on. -/
lemma headers_cons_matches_iff {h : Header} (hh : IsHeader h) {acc b : RawHeaders} {r : Text} :
    (star (pushBack header_)).Matches
        (generateHeaders (h :: hs) ++ (headerGenerator (n, v) ++ (crlf ++ crlf))) acc r b ↔
      (star (pushBack header_)).Matches
        (generateHeaders hs ++ (headerGenerator (n, v) ++ (crlf ++ crlf))) (acc ++ [h]) r b := by
  have hhead := header_matches hh (ends_generateHeaders_concat hhs hn v)
  rw [generateHeaders_cons, List.append_assoc, List.append_assoc]
  exact matches_star_iff (hhead.pushBack acc) (header_shorter hhead)

lemma headers_matches_of_isReadBack (hv : IsReadBack v) (acc : RawHeaders) :
    (star (pushBack header_)).Matches
      (generateHeaders hs ++ (headerGenerator (n, v) ++ (crlf ++ crlf))) acc crlf
      (acc ++ (hs ++ [(n, v)])) := by
  induction hs generalizing acc with
  | nil =>
    have hlast := hv.header_matches hn
    obtain ⟨b, hb⟩ := header_fails (s := crlf) (by simp [crlf_eq, isTokenChar, isCntrl])
    exact (hlast.pushBack acc).star (header_shorter hlast) (hb.pushBack _).star
  | cons h hs ih =>
    obtain ⟨hh, htail⟩ := List.forall_mem_cons.mp hhs
    have := ih htail (acc ++ [h])
    rw [headers_cons_matches_iff htail hn hh]
    rwa [List.append_assoc] at this

/-- Header lines that are read back have a last value that is. The induction goes to the last
line, all before it are read as they are. -/
lemma isReadBack_of_headers_matches {acc : RawHeaders} {r : Text}
    (h : (star (pushBack header_)).Matches
      (generateHeaders hs ++ (headerGenerator (n, v) ++ (crlf ++ crlf))) acc r
      (acc ++ (hs ++ [(n, v)]))) : IsReadBack v := by
  induction hs generalizing acc with
  | nil =>
    rw [generateHeaders_nil, List.nil_append] at h
    cases hok : (header_.run (headerGenerator (n, v) ++ (crlf ++ crlf)) default).ok with
    | false =>
      obtain ⟨-, heq⟩ := ((Parser.fails_of_not_ok hok).pushBack acc).star.unique h
      simp at heq
    | true =>
      have hlast := Parser.matches_of_ok hok
      have hloop := (matches_star_iff (hlast.pushBack acc) (header_shorter hlast)).mp h
      have hpre := (pushBack_appends header_).star.matches hloop
      have hone := (List.prefix_append_right_inj acc).mp hpre
      rw [(List.cons_prefix_cons.mp hone).1] at hlast
      exact (header_isReadBack_iff hn v).mp ⟨_, hlast⟩
  | cons h' hs ih =>
    obtain ⟨hh, htail⟩ := List.forall_mem_cons.mp hhs
    rw [headers_cons_matches_iff htail hn hh] at h
    exact ih htail (by rwa [List.append_assoc])

end Headers

/-! ### Requests -/

/-- A text is accepted as a request with these parts. -/
def ReadAs (text method uri : Text) (headers : RawHeaders) : Prop :=
  let parsed := rtspRequestGrammar.run text default
  parsed.ok = true ∧ parsed.attr.methodOrExtension = method ∧ parsed.attr.uri = uri ∧
    parsed.attr.headers = headers

instance (text method uri : Text) (headers : RawHeaders) :
    Decidable (ReadAs text method uri headers) := inferInstanceAs (Decidable (_ ∧ _ ∧ _ ∧ _))

lemma readAs_iff {text method uri : Text} {headers : RawHeaders} :
    ReadAs text method uri headers ↔ ∃ r m, rtspRequestGrammar.Matches text default r m ∧
      m.methodOrExtension = method ∧ m.uri = uri ∧ m.headers = headers := by
  constructor
  · rintro ⟨hok, hparts⟩
    exact ⟨_, _, Parser.matches_of_ok hok, hparts⟩
  · rintro ⟨r, m, h, hparts⟩
    obtain ⟨hok, -, rfl⟩ := h.run_ok
    exact ⟨hok, hparts⟩

/-- No whitespace is read into a URI. -/
lemma rtspRequestGrammar_keeps_uri :
    rtspRequestGrammar.Keeps fun m => ∀ c ∈ m.uri, isSpace c = false := by
  have hmethod : (Request.method (plus token)).Keeps fun m => ∀ c ∈ m.uri, isSpace c = false :=
    (keeps_true _).focus (fun _ _ => trivial) fun _ _ _ h => h
  have huri : (plus (char_ - (lit (str "\r") <|> lit (str "\n") <|> space))).Keeps
      fun u => ∀ c ∈ u, isSpace c = false := (uri_guards.diff_keeps fun _ hc => hc).plus
  have huriField : (Request.uriField
      (plus (char_ - (lit (str "\r") <|> lit (str "\n") <|> space)))).Keeps
        fun m => ∀ c ∈ m.uri, isSpace c = false := huri.focus (fun _ h => h) fun _ _ h _ => h
  have hmajor : (Request.major atLeastOneDigit).Keeps fun m => ∀ c ∈ m.uri, isSpace c = false :=
    (keeps_true _).focus (fun _ _ => trivial) fun _ _ _ h => h
  have hminor : (Request.minor atLeastOneDigit).Keeps fun m => ∀ c ∈ m.uri, isSpace c = false :=
    (keeps_true _).focus (fun _ _ => trivial) fun _ _ _ h => h
  have hheaders : (Request.headerList (star (pushBack header_))).Keeps
      fun m => ∀ c ∈ m.uri, isSpace c = false :=
    (keeps_true _).focus (fun _ _ => trivial) fun _ _ _ h => h
  have hline : requestLine.Keeps fun m => ∀ c ∈ m.uri, isSpace c = false :=
    hmethod.seq ((omits_keeps _ _).seq (huriField.seq ((omits_keeps _ _).seq
      ((lit_keeps _ _).seq (hmajor.seq ((lit_keeps _ _).seq (hminor.seq (lit_keeps _ _))))))))
  exact hline.seq (hheaders.seq (lit_keeps _ _))

section Requests

variable {m : Request} {hs : RawHeaders} {n v : Text}

/-- A request whose last header value is of the kind is read back, without the whitespace before
its URI. -/
lemma rtspRequestGrammar_matches_of_isReadBack (hmethod : IsToken m.methodOrExtension)
    (huri : IsUri (m.uri.dropWhile isSpace)) (hheaders : m.headers = hs ++ [(n, v)])
    (hhs : ∀ h ∈ hs, IsHeader h) (hn : IsToken n) (hv : IsReadBack v) :
    rtspRequestGrammar.Matches (generateRequest m) default []
      { m.written with uri := m.uri.dropWhile isSpace } := by
  have hloop := headers_matches_of_isReadBack hhs hn hv []
  rw [← generateHeaders_concat, ← hheaders] at hloop
  have hline := requestLine_matches_dropWhile hmethod huri (generateHeaders m.headers ++ crlf)
  rw [← List.append_assoc] at hline
  exact hline.seq ((Request.headerList_matches hloop).seq (lit_matches crlf [] _))

/-- A request is read back exactly if its URI, without the whitespace before it, has none, and its
last header value is of the kind. -/
theorem readAs_generateRequest_iff (hmethod : IsToken m.methodOrExtension)
    (hne : m.uri.dropWhile isSpace ≠ []) (hheaders : m.headers = hs ++ [(n, v)])
    (hhs : ∀ h ∈ hs, IsHeader h) (hn : IsToken n) :
    ReadAs (generateRequest m) m.methodOrExtension (m.uri.dropWhile isSpace) m.headers ↔
      (∀ c ∈ m.uri.dropWhile isSpace, isSpace c = false) ∧ IsReadBack v := by
  rw [readAs_iff]
  constructor
  · rintro ⟨r, m', h, -, huri, hread⟩
    have hspace : ∀ c ∈ m.uri.dropWhile isSpace, isSpace c = false := by
      have := rtspRequestGrammar_keeps_uri (generateRequest m) default (List.forall_mem_nil _)
      rwa [h.run_ok.2.2, huri] at this
    refine ⟨hspace, ?_⟩
    obtain ⟨r₁, m₁, hline, hrest⟩ := matches_seq_iff.mp h
    obtain ⟨r₂, m₂, hheaderList, hend⟩ := matches_seq_iff.mp hrest
    obtain ⟨-, rfl⟩ := lit_matches_iff.mp hend
    rw [generateRequest, List.append_assoc] at hline
    obtain ⟨rfl, rfl⟩ := (requestLine_matches_dropWhile hmethod ⟨hne, hspace⟩ _).unique hline
    have hloop := Parser.matches_of_ok
      (star_ok (pushBack header_) (generateHeaders m.headers ++ crlf) [])
    obtain ⟨-, rfl⟩ := (Request.headerList_matches
      (m := { m.written with uri := m.uri.dropWhile isSpace, headers := [] }) hloop).unique
        hheaderList
    rw [show ((star (pushBack header_)).run (generateHeaders m.headers ++ crlf) []).attr =
      m.headers from hread, hheaders, generateHeaders_concat] at hloop
    exact isReadBack_of_headers_matches hhs hn hloop
  · rintro ⟨hspace, hv⟩
    exact ⟨[], _, rtspRequestGrammar_matches_of_isReadBack hmethod ⟨hne, hspace⟩ hheaders hhs hn
      hv, rfl, rfl, rfl⟩

end Requests

end Rtsp
