import Mathlib.Data.List.TakeWhile
import StreamingLib.Peg.Delimiters
import StreamingLib.Rtsp.Headers.TransportRoundTrip
import StreamingLib.Rtsp.Methods

/-!
# Whitespace between the elements of a header

`setup` reads the Transport and the Require header with a skipper, but by rules that are declared
without one: whitespace is skipped before the first element and behind the last one, and nowhere
between them.
-/

namespace Rtsp

open Peg

/-! ### Commas end tokens -/

lemma token_steady : token.Steady 44 :=
  (token_guards.diff_steady (by decide)).plus

/-- Whitespace is no beginning of a token. -/
lemma token_fails_space {d : UInt8} (hd : isSpace d = true) (s a : Text) :
    (plus token).Fails (d :: s) a a := by
  refine token_fails ?_ a
  have : isTokenChar d = false := by
    by_contra h
    rw [Bool.not_eq_false] at h
    exact absurd (isSpace_of_isTokenChar h) (by simp [hd])
  simp [this]

/-! ### Commas in specifications -/

/-- What stands between quotes. -/
def isQuoted (c : UInt8) : Bool := !(isCntrl c || c == 34)

lemma portNumber_steady : portNumber.Steady 44 := uint_steady (by decide) 10 _ 1 5

lemma ttl_steady : ttl_.Steady 44 :=
  (lit_steady (by decide)).seq (uint_steady (by decide) 10 _ 1 3)

lemma symbol_steady {α : Type} {name : Text} (h : 44 ∉ name) (value : α) :
    (symbol name value).Steady 44 := (lit_steady h).build

lemma portType_steady : portType_.Steady 44 :=
  (symbol_steady (by decide) _).alt
    ((symbol_steady (by decide) _).alt (symbol_steady (by decide) _))

lemma portRange_steady : portRange_.Steady 44 :=
  portNumber_steady.focus.seq ((lit_steady (by decide)).seq portNumber_steady.focus)

lemma port_steady : port_.Steady 44 :=
  portType_steady.focus.seq ((lit_steady (by decide)).seq
    (portRange_steady.build.alt portNumber_steady.build).focus)

lemma ssrc_steady : ssrc_.Steady 44 :=
  (lit_steady (by decide)).seq (uint_steady (by decide) 16 _ 8 8)

/-- The class that ends it. -/
lemma endsQuoted_eq (c : UInt8) : (isCntrl c || c == 34) = !isQuoted c := (Bool.not_not _).symm

/-- The first character that ends what stands between quotes. -/
lemma exists_first_unquoted {w : Text} (h : ∃ d ∈ w, isQuoted d = false) :
    ∃ x d y, w = x ++ d :: y ∧ (∀ e ∈ x, isQuoted e = true) ∧ isQuoted d = false := by
  induction w with
  | nil => simp at h
  | cons c w ih =>
    cases hc : isQuoted c with
    | false => exact ⟨[], c, w, rfl, by simp, hc⟩
    | true =>
      obtain ⟨x, d, y, rfl, hx, hd⟩ := ih (by simpa [hc] using h)
      exact ⟨c :: x, d, y, rfl, List.forall_mem_cons.mpr ⟨hc, hx⟩, hd⟩

/-- A quoted string that is closed, or broken off, before the comma. -/
lemma quotedString_steadyAt {u : Text} (h : ∀ w, u = 34 :: w → ∃ d ∈ w, isQuoted d = false)
    (a : Text) : quotedString.SteadyAt 44 u a := by
  by_cases hu : ∃ w, u = 34 :: w
  · obtain ⟨w, rfl⟩ := hu
    obtain ⟨x, d, y, rfl, hx, hd⟩ := exists_first_unquoted (h w rfl)
    have hchars : ∀ c ∈ x, (isCntrl c || c == 34) = false := by
      intro c hc
      rw [endsQuoted_eq, hx c hc]
      rfl
    have htext : ∀ s : Text, 34 :: (x ++ d :: y) ++ 44 :: s = 34 :: (x ++ d :: (y ++ 44 :: s)) := by
      simp
    by_cases hne : x = []
    · subst hne
      refine Or.inr ⟨a, fun s => ?_⟩
      exact quotedString_fails_of_empty (by simp [endsQuoted_eq, hd]) a
    · by_cases hclose : d = 34
      · subst hclose
        refine Or.inl ⟨y, a ++ x, fun s => ?_⟩
        rw [htext]
        exact quotedString_matches hchars hne _ a
      · have hcntrl : isCntrl d = true := by simpa [isQuoted, hclose] using hd
        refine Or.inr ⟨a ++ x, fun s => ?_⟩
        rw [htext]
        exact quotedString_fails_of_open hchars hne hcntrl _ a
  · refine Or.inr ⟨a, fun s => quotedString_fails ?_ a⟩
    cases u with
    | nil => simp
    | cons d u =>
      rintro e he rfl
      obtain rfl := Option.some.inj he
      exact hu ⟨u, rfl⟩

/-- A quoted string that is open at the comma goes on behind it. -/
lemma quotedString_crosses {w s r a b : Text} (hw : ∀ d ∈ w, isQuoted d = true)
    (h : quotedString.Matches (34 :: w ++ 44 :: s) a r b) : r.length < s.length := by
  obtain ⟨r₁, a₁, hopen, h⟩ := matches_seq_iff.mp h
  obtain ⟨r₂, a₂, hspan, hclose⟩ := matches_seq_iff.mp h
  obtain ⟨hr₁, rfl⟩ := lit_matches_iff.mp hopen
  obtain ⟨rfl, -⟩ := lit_matches_iff.mp hclose
  obtain rfl : r₁ = w ++ 44 :: s := by simpa [str] using hr₁.symm
  have htext : w ++ 44 :: s =
      (w ++ 44 :: s.takeWhile isQuoted) ++ s.dropWhile isQuoted := by simp
  have hchars : ∀ d ∈ w ++ 44 :: s.takeWhile isQuoted, (isCntrl d || d == 34) = false := by
    intro d hd
    rw [endsQuoted_eq, Bool.not_eq_false']
    obtain hd | hd := List.mem_append.mp hd
    · exact hw d hd
    · obtain rfl | hd := List.mem_cons.mp hd
      · decide
      · exact List.mem_takeWhile_imp hd
  have hstop : (s.dropWhile isQuoted).head?.all (fun d => isCntrl d || d == 34) = true := by
    cases hs : s.dropWhile isQuoted with
    | nil => rfl
    | cons d y =>
      have hd : isQuoted d = false := by
        have := List.head_dropWhile_not isQuoted (l := s) (by simp [hs])
        simpa [hs] using this
      simp [endsQuoted_eq, hd]
  have hlong := ctl_or_quote_guards.plus_span hchars (by simp) hstop a₁
  rw [← htext] at hlong
  obtain ⟨hrest, -⟩ := hlong.unique hspan
  have hle := (List.dropWhile_suffix (l := s) isQuoted).length_le
  rw [hrest] at hle
  simpa [str] using hle

/-- A mode whose quotes are open at the comma. -/
def OpensQuote (u : Text) : Prop := ∃ w, u = str "mode=\"" ++ w ∧ ∀ d ∈ w, isQuoted d = true

lemma mode_steadyAt {u : Text} (h : ¬OpensQuote u) (a : Text) : mode_.SteadyAt 44 u a := by
  refine (lit_steady (by decide) u a).seq fun v b hv => ?_
  refine (token_steady v b).alt fun b' => quotedString_steadyAt ?_ b'
  rintro w rfl
  by_contra hw
  refine h ⟨w, ?_, fun d hd => by simpa using fun hq => hw ⟨d, hd, hq⟩⟩
  have hu := (lit_matches_iff.mp (hv [])).1
  rw [← List.append_assoc, List.append_cancel_right_eq] at hu
  have hquote : str "mode=\"" = str "mode=" ++ [34] := by decide
  rw [hu, hquote, List.append_assoc, List.singleton_append]

/-- A parameter stops before the comma in the same way whatever follows, unless its mode opens a
quote, of which nothing but the name can be read. -/
lemma parameter_steadyAt {u v s : Text} {a b : Parameter}
    (h : parameter_.Matches (u ++ 44 :: s) a (v ++ 44 :: s) b) :
    parameter_.SteadyAt 44 u a ∨ ∃ w, v = 61 :: w := by
  by_cases hu : ∃ w, u = 59 :: w ∧ OpensQuote w
  · refine Or.inr ?_
    obtain ⟨u, rfl, w, rfl, hw⟩ := hu
    have htext : 59 :: (str "mode=\"" ++ w) ++ 44 :: s =
        str ";" ++ (str "mode=" ++ (34 :: w ++ 44 :: s)) := by simp [str]
    rw [htext] at h
    obtain ⟨httl, hport, hssrc, -⟩ := kinds_fail (k := str "mode") (by decide)
      ⟨34 :: w ++ 44 :: s, rfl⟩
    obtain ⟨b', hport⟩ := hport (fun t => by cases t <;> decide) default
    have hsemicolon := lit_matches (str ";") (str "mode=" ++ (34 :: w ++ 44 :: s)) a
    have hmode := lit_matches (str "mode=") (34 :: w ++ 44 :: s) (default : Text)
    have htoken : token.Fails (34 :: w ++ 44 :: s) default default :=
      token_guards.plus_fails (by simp [isTokenChar, str]) default
    cases hok : (quotedString.run (34 :: w ++ 44 :: s) default).ok with
    | true =>
      -- The quoted string takes the comma with it.
      have hquoted := Parser.matches_of_ok hok
      have hmode := hmode.seq (htoken.alt hquoted)
      have hwhole : parameter_.Matches _ a _ _ :=
        hsemicolon.seq (((httl (by decide) default).build a).alt
          ((hport.build a).alt (((hssrc (by decide) default).build a).alt
            (hmode.build a).alt)))
      obtain ⟨hrest, -⟩ := hwhole.unique h
      have hlt := quotedString_crosses hw hquoted
      rw [hrest, List.length_append, List.length_cons] at hlt
      omega
    | false =>
      have hmode := hmode.seq_fails (htoken.alt_fails (Parser.fails_of_not_ok hok))
      have hname := token_guards.plus_span (w := str "mode") (r := 61 :: (34 :: w ++ 44 :: s))
        (by decide +kernel) (by decide) (by simp [isTokenChar, str]) []
      have hwhole : parameter_.Matches _ a _ _ :=
        hsemicolon.seq (((httl (by decide) default).build a).alt
          ((hport.build a).alt (((hssrc (by decide) default).build a).alt
            ((hmode.build a).alt (hname.build a)))))
      obtain ⟨hrest, -⟩ := hwhole.unique h
      rw [← List.cons_append, List.append_cancel_right_eq] at hrest
      exact ⟨34 :: w, hrest.symm⟩
  · refine Or.inl ((lit_steady (by decide) u a).seq fun v b hv => ?_)
    refine (ttl_steady.build v b).alt fun b => (port_steady.build v b).alt fun b =>
      (ssrc_steady.build v b).alt fun b => ((mode_steadyAt ?_ default).build b).alt fun b =>
        token_steady.build v b
    intro hopen
    have hu' := (lit_matches_iff.mp (hv [])).1
    rw [← List.append_assoc, List.append_cancel_right_eq] at hu'
    exact hu ⟨v, hu', hopen⟩

/-- A parameter begins with its semicolon. -/
lemma parameter_lt {s r : Text} {a b : Parameter} (h : parameter_.Matches s a r b) :
    r.length < s.length := by
  obtain ⟨r₁, b₁, hsemicolon, hkind⟩ := matches_seq_iff.mp h
  obtain ⟨rfl, rfl⟩ := lit_matches_iff.mp hsemicolon
  have := hkind.suffix.length_le
  show r.length < r₁.length + 1
  omega

/-- So do parameters that end there. -/
lemma parameters_settled : (star (pushBack parameter_)).Settled 44 := by
  intro u s l b h
  induction hn : u.length using Nat.strong_induction_on generalizing u l with
  | _ n ih =>
    cases hok : (parameter_.run (u ++ 44 :: s) default).ok with
    | false =>
      have hstop := ((Parser.fails_of_not_ok hok).pushBack l).star
      obtain ⟨hrest, -⟩ := hstop.unique h
      obtain rfl : u = [] := List.append_left_eq_self.mp hrest
      exact Or.inl ⟨[], l, fun t => parameters_stop (by simp) l⟩
    | true =>
      have hfirst := Parser.matches_of_ok hok
      generalize (parameter_.run (u ++ 44 :: s) default).rest = r at hfirst
      generalize (parameter_.run (u ++ 44 :: s) default).attr = b' at hfirst
      have hlt := parameter_lt hfirst
      have hgo := (matches_star_iff (hfirst.pushBack l) hlt).mp h
      obtain ⟨w, rfl⟩ := hgo.suffix
      obtain hsteady | ⟨x, rfl⟩ := parameter_steadyAt hfirst
      · obtain ⟨v, b₁, hv⟩ | ⟨b₁, hf⟩ := hsteady
        · obtain ⟨hrest, rfl⟩ := (hv s).unique hfirst
          rw [List.append_cancel_right_eq] at hrest
          subst hrest
          have hlt : v.length < u.length := by simpa using hlt
          exact Parser.SteadyAt.star_turn (fun t => (hv t).pushBack l) hlt
            (ih v.length (by omega) hgo rfl)
        · exact absurd hfirst (hf s).not_matches
      · have hstop := parameters_stop (r := 61 :: x ++ 44 :: s) (by simp) (l ++ [b'])
        obtain ⟨hrest, -⟩ := hstop.unique hgo
        have hlength := congrArg List.length hrest
        simp only [List.length_append, List.length_cons] at hlength
        omega

lemma transportSpec_settled : transportSpec_.Settled 44 := by
  refine token_steady.plus.focus.seq_settled ?_
  refine (lit_steady (by decide)).seq_settled ?_
  refine token_steady.plus.focus.seq_settled ?_
  refine Parser.Steady.seq_settled ?_ parameters_settled.focus
  exact ((lit_steady (by decide)).seq token_steady.plus).opt_seq.focus

/-- Whitespace is no beginning of a specification. -/
lemma transportSpec_fails_space {d : UInt8} (hd : isSpace d = true) (s : Text)
    (a : TransportSpec) : ∃ b, transportSpec_.Fails (d :: s) a b :=
  ⟨_, (token_fails_space hd s _).focus.seq⟩

/-! ### Gaps in header values -/

/-- A value of which nothing is left. -/
def ReadsWhole {α : Type} (p : Parser UInt8 α) (a : α) (value : Text) : Prop :=
  ((phraseParse p).run value a).rest = []

instance {α : Type} (p : Parser UInt8 α) (a : α) (value : Text) :
    Decidable (ReadsWhole p a value) := inferInstanceAs (Decidable (_ = []))

/-- What is read of a value. -/
def readValue {α : Type} (p : Parser UInt8 α) (a : α) (value : Text) : α :=
  ((phraseParse p).run value a).attr

/-- `setup` goes on with the Transport header exactly if nothing of it is left. -/
lemma setupTransport_eq_ok_iff {headers : NormalizedHeaders} {value : Text}
    (h : headers.lookup (str "transport") = some value) (response : Response) (t : Transport) :
    setupTransport headers response = .ok t ↔
      ReadsWhole transportGrammar default value ∧ readValue transportGrammar default value = t := by
  simp only [setupTransport, h, ReadsWhole, readValue]
  split_ifs with hrest <;> simp_all

/-- With something left of its Require header a request is refused. -/
lemma setupOptions_refuses {env : Environment} {headers : NormalizedHeaders} {value : Text}
    (h : headers.lookup (str "require") = some value) (hvalue : ¬ReadsWhole require_ [] value)
    (response : Response) :
    ∃ refusal, setupOptions env headers response = .error refusal ∧ refusal.statusCode = 400 := by
  simp only [setupOptions, h]
  rw [if_pos (show ((phraseParse require_).run value []).rest ≠ [] from hvalue)]
  exact ⟨_, rfl, rfl⟩

/-- The value with `gaps` behind the commas that separate what `p` reads of it. -/
def withGaps {β : Type} [Inhabited β] (p : Parser UInt8 β) (gaps : List Text) (value : Text) :
    Text :=
  value.takeWhile isSpace ++ spaced p 44 gaps (value.dropWhile isSpace)

/-- What can be put between the elements of a header value. -/
def IsWhitespace (gaps : List Text) : Prop := ∀ gap ∈ gaps, ∀ d ∈ gap, isSpace d = true

instance (gaps : List Text) : Decidable (IsWhitespace gaps) :=
  inferInstanceAs (Decidable (∀ gap ∈ gaps, ∀ d ∈ gap, isSpace d = true))

/-- With a gap in it, a list is read up to the comma before the gap. -/
lemma list_withGaps {β : Type} [Inhabited β] {p : Parser UInt8 β} (hp : p.Settled 44)
    (hspace : ∀ d s, isSpace d = true → (p.run (d :: s) default).ok = false) {gaps : List Text}
    (hgaps : IsWhitespace gaps) {value : Text} (h : withGaps p gaps value ≠ value) (l : List β) :
    ∃ r l', (list (pushBack p) (lit (str ","))).Matches ((withGaps p gaps value).dropWhile isSpace)
      l (44 :: r) l' := by
  have hchanged : spaced p 44 gaps (value.dropWhile isSpace) ≠ value.dropWhile isSpace := by
    intro heq
    exact h (by rw [withGaps, heq, List.takeWhile_append_dropWhile])
  obtain ⟨r, l', hm⟩ := list_spaced hp hspace hgaps hchanged l
  have hdrop : (withGaps p gaps value).dropWhile isSpace =
      spaced p 44 gaps (value.dropWhile isSpace) := by
    rw [withGaps, List.dropWhile_append_of_pos fun d => List.mem_takeWhile_imp]
    cases hs : spaced p 44 gaps (value.dropWhile isSpace) with
    | nil => rfl
    | cons d s =>
      -- An element was read there, so this is no whitespace.
      refine List.dropWhile_cons_of_neg fun hd => ?_
      rw [hs] at hm
      exact ((Parser.fails_of_not_ok (hspace d s hd)).pushBack l).seq.not_matches hm
  rw [hdrop]
  exact ⟨r, l', hm⟩

/-- A comma that is left is not skipped. -/
lemma not_readsWhole {α : Type} {p : Parser UInt8 α} {value r : Text} {a b : α}
    (h : p.Matches (value.dropWhile isSpace) a (44 :: r) b) : ¬ReadsWhole p a value := by
  intro hwhole
  have hrest : ((phrase space p).run value a).rest = 44 :: r := h.phrase.run_ok.2.1
  rw [ReadsWhole, phraseParse, hrest] at hwhole
  cases hwhole

lemma transportGrammar_withGaps {gaps : List Text} (hgaps : IsWhitespace gaps) {value : Text}
    (h : withGaps transportSpec_ gaps value ≠ value) :
    ¬ReadsWhole transportGrammar default (withGaps transportSpec_ gaps value) := by
  have hspace : ∀ d s, isSpace d = true → (transportSpec_.run (d :: s) default).ok = false := by
    intro d s hd
    obtain ⟨b, hfails⟩ := transportSpec_fails_space hd s default
    exact hfails.1
  obtain ⟨r, l, hm⟩ := list_withGaps transportSpec_settled hspace hgaps h []
  exact not_readsWhole (hm.build default)

lemma require_withGaps {gaps : List Text} (hgaps : IsWhitespace gaps) {value : Text}
    (h : withGaps (plus token) gaps value ≠ value) :
    ¬ReadsWhole require_ [] (withGaps (plus token) gaps value) := by
  have hspace : ∀ d s, isSpace d = true → ((plus token).run (d :: s) default).ok = false :=
    fun d s hd => (token_fails_space hd s default).1
  obtain ⟨r, l, hm⟩ := list_withGaps token_steady.plus.settled hspace hgaps h []
  exact not_readsWhole hm

/-- A change of a value is harmless exactly if there is none, where every change leaves a rest. -/
lemma readsWhole_same_iff {α : Type} {p : Parser UInt8 α} {a : α} {value changed : Text}
    (hvalue : ReadsWhole p a value) (h : changed ≠ value → ¬ReadsWhole p a changed) :
    ReadsWhole p a changed ∧ readValue p a changed = readValue p a value ↔ changed = value := by
  constructor
  · rintro ⟨hwhole, -⟩
    by_contra hne
    exact h hne hwhole
  · rintro rfl
    exact ⟨hvalue, rfl⟩

/-- A value that is read completely, of either header, is read as the same value with whitespace
behind its separating commas exactly if there is none. -/
theorem list_whitespace_iff (value : Text) {gaps : List Text} (hgaps : IsWhitespace gaps) :
    (ReadsWhole transportGrammar default value →
      (ReadsWhole transportGrammar default (withGaps transportSpec_ gaps value) ∧
          readValue transportGrammar default (withGaps transportSpec_ gaps value) =
            readValue transportGrammar default value ↔
        withGaps transportSpec_ gaps value = value)) ∧
    (ReadsWhole require_ [] value →
      (ReadsWhole require_ [] (withGaps (plus token) gaps value) ∧
          readValue require_ [] (withGaps (plus token) gaps value) = readValue require_ [] value ↔
        withGaps (plus token) gaps value = value)) := by
  constructor
  · intro hvalue
    exact readsWhole_same_iff hvalue (transportGrammar_withGaps hgaps)
  · intro hvalue
    exact readsWhole_same_iff hvalue (require_withGaps hgaps)

/-- Two specifications, the first with a comma that separates nothing, and two option tags. -/
theorem list_whitespace_iff_two :
    (ReadsWhole transportGrammar default (str "RTP/AVP;mode=\"a,b\", RTP/AVP") ∧
        readValue transportGrammar default (str "RTP/AVP;mode=\"a,b\", RTP/AVP") =
          readValue transportGrammar default (str "RTP/AVP;mode=\"a,b\",RTP/AVP") ↔
      str "RTP/AVP;mode=\"a,b\", RTP/AVP" = str "RTP/AVP;mode=\"a,b\",RTP/AVP") ∧
    (ReadsWhole require_ [] (str "a, b") ∧
        readValue require_ [] (str "a, b") = readValue require_ [] (str "a,b") ↔
      str "a, b" = str "a,b") := by
  have htransport : withGaps transportSpec_ [str " "] (str "RTP/AVP;mode=\"a,b\",RTP/AVP") =
      str "RTP/AVP;mode=\"a,b\", RTP/AVP" := by decide
  have hrequire : withGaps (plus token) [str " "] (str "a,b") = str "a, b" := by decide
  have hgaps : IsWhitespace [str " "] := by decide +kernel
  refine ⟨?_, ?_⟩
  · have h := (list_whitespace_iff (str "RTP/AVP;mode=\"a,b\",RTP/AVP") hgaps).1
      (by decide +kernel)
    rwa [htransport] at h
  · have h := (list_whitespace_iff (str "a,b") hgaps).2 (by decide +kernel)
    rwa [hrequire] at h

/-- One blank behind the comma of a list of two makes it unreadable, in either header. -/
theorem list_whitespace_matters :
    (ReadsWhole transportGrammar default (str "RTP/AVP;unicast,RTP/AVP") ∧
      withGaps transportSpec_ [str " "] (str "RTP/AVP;unicast,RTP/AVP") =
        str "RTP/AVP;unicast, RTP/AVP" ∧
      ¬ReadsWhole transportGrammar default (str "RTP/AVP;unicast, RTP/AVP")) ∧
    ReadsWhole require_ [] (str "a,b") ∧
      withGaps (plus token) [str " "] (str "a,b") = str "a, b" ∧
      ¬ReadsWhole require_ [] (str "a, b") := by
  decide

end Rtsp
