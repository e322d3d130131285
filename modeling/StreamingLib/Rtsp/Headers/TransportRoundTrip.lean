import StreamingLib.Rtsp.Headers.Transport
import StreamingLib.Rtsp.Message.RoundTrip

/-!
# Reading back generated Transport headers

A generated header is read back parameter by parameter, up to the first `ssrc` that is written with
less than eight digits: of that one only its name is read, as a token, and the rest is left.
-/

namespace Rtsp

open Peg

/-! ### Well-formed values -/

/-- A text that can stand between quotes. -/
structure IsQuotable (w : Text) : Prop where
  ne_nil : w ≠ []
  chars : ∀ c ∈ w, (isCntrl c || c == 34) = false

/-- A parameter that can be asked for. A token is never read as a parameter of another kind,
because it has no `=`. -/
def Parameter.WellFormed : Parameter → Prop
  | .ttl value => value < 1000
  | .port _ | .ssrc _ => True
  | .mode value => IsQuotable value
  | .string value => IsToken value

structure TransportSpec.WellFormed (s : TransportSpec) : Prop where
  transportProtocol : IsToken s.transportProtocol
  profile : IsToken s.profile
  lowerTransport : ∀ l ∈ s.lowerTransport, IsToken l
  parameters : ∀ p ∈ s.parameters, p.WellFormed

def Transport.WellFormed (t : Transport) : Prop := ∀ s ∈ t.specifications, s.WellFormed

/-- An `ssrc` is written with all its eight digits. -/
def Parameter.FillsDigits : Parameter → Prop
  | .ssrc value => 0x10000000 ≤ value.toNat
  | _ => True

/-! ### Delimiters -/

/-- What can follow a parameter: the next one, the next specification or the end. -/
def Delimits (r : Text) : Prop := r.head?.all (fun c => c == 59 || c == 44) = true

lemma Delimits.head_all {r : Text} (h : Delimits r) {q : UInt8 → Bool} (h59 : q 59 = true)
    (h44 : q 44 = true) : r.head?.all q = true := by
  cases r with
  | nil => rfl
  | cons c r =>
    unfold Delimits at h
    simp only [List.head?_cons, Option.all_some, Bool.or_eq_true, beq_iff_eq] at h ⊢
    rcases h with rfl | rfl
    · exact h59
    · exact h44

lemma Delimits.token {r : Text} (h : Delimits r) : r.head?.all (!isTokenChar ·) = true :=
  h.head_all (by decide) (by decide)

lemma Delimits.digit {r : Text} (h : Delimits r) :
    r.head?.all (fun c => (digitValue c).isNone) = true :=
  h.head_all (by decide) (by decide)

lemma Delimits.hexDigit {r : Text} (h : Delimits r) :
    r.head?.all (fun c => (hexDigitValue c).isNone) = true :=
  h.head_all (by decide) (by decide)

/-- Something else does not begin with a delimiter. -/
lemma lit_fails_of_head {α : Type} {c : UInt8} {r : Text} (h : ∀ d ∈ r.head?, d ≠ c) (w : Text)
    (a : α) : (lit (c :: w)).Fails r a a := by
  apply lit_fails
  rintro x rfl
  exact h c rfl rfl

/-! ### Keywords -/

/-- A text begins with a keyword and its `=`. -/
def IsKeyed (k s : Text) : Prop := ∃ x, s = k ++ 61 :: x

lemma takeWhile_of_isKeyed {k s : Text} (hk : ∀ c ∈ k, isTokenChar c = true) (h : IsKeyed k s) :
    s.takeWhile isTokenChar = k := by
  obtain ⟨x, rfl⟩ := h
  rw [List.takeWhile_append_of_pos hk]
  have : isTokenChar 61 = false := by decide
  rw [List.takeWhile_cons_of_neg (by simp [this]), List.append_nil]

/-- A text begins with one keyword at most. -/
lemma IsKeyed.unique {k k' s : Text} (hk : ∀ c ∈ k, isTokenChar c = true)
    (hk' : ∀ c ∈ k', isTokenChar c = true) (h : IsKeyed k s) (h' : IsKeyed k' s) : k = k' :=
  (takeWhile_of_isKeyed hk h).symm.trans (takeWhile_of_isKeyed hk' h')

/-- A token with what follows it begins with no keyword. -/
lemma not_isKeyed_token {k w r : Text} (hk : ∀ c ∈ k, isTokenChar c = true) (hw : IsToken w)
    (hr : Delimits r) : ¬IsKeyed k (w ++ r) := by
  intro h
  have htake := takeWhile_of_isKeyed hk h
  have hstop : r.takeWhile isTokenChar = [] := by
    have := hr.token
    cases r with
    | nil => rfl
    | cons c r => exact List.takeWhile_cons_of_neg (by simpa using this)
  rw [List.takeWhile_append_of_pos hw.chars, hstop, List.append_nil] at htake
  obtain ⟨x, hx⟩ := h
  rw [htake, List.append_cancel_left_eq] at hx
  rw [hx] at hr
  exact absurd (hr.head_all (q := (· != 61)) (by decide) (by decide)) (by simp)

/-- The keywords of the parameters other than tokens. -/
def keywords : List Text :=
  [str "ttl", str "port", str "server_port", str "client_port", str "ssrc", str "mode"]

lemma keywords_chars : ∀ k ∈ keywords, ∀ c ∈ k, isTokenChar c = true := by decide +kernel

lemma not_isKeyed_of_ne {k k' s : Text} (hk : k ∈ keywords) (hk' : k' ∈ keywords) (h : IsKeyed k s)
    (hne : k ≠ k') : ¬IsKeyed k' s :=
  fun h' => hne (h.unique (keywords_chars k hk) (keywords_chars k' hk') h')

lemma portTypeGen_mem (t : PortType) : portTypeGen t ∈ keywords := by
  cases t <;> decide

/-! ### One parameter -/

lemma ttl_fails {s : Text} (h : ¬IsKeyed (str "ttl") s) (a : ℕ) : ttl_.Fails s a a := by
  refine (lit_fails ?_ a).seq
  rintro r rfl
  exact h ⟨r, rfl⟩

lemma ssrc_fails {s : Text} (h : ¬IsKeyed (str "ssrc") s) (a : ℕ) : ssrc_.Fails s a a := by
  refine (lit_fails ?_ a).seq
  rintro r rfl
  exact h ⟨r, rfl⟩

lemma mode_fails {s : Text} (h : ¬IsKeyed (str "mode") s) (a : Text) : mode_.Fails s a a := by
  refine (lit_fails ?_ a).seq
  rintro r rfl
  exact h ⟨r, rfl⟩

lemma symbol_matches_iff {α : Type} {name s r : Text} {value a b : α} :
    (symbol name value).Matches s a r b ↔ s = name ++ r ∧ b = value := by
  constructor
  · intro h
    cases hok : ((lit name).run s () : Reply UInt8 Unit).ok with
    | false =>
      exact absurd h (Parser.Fails.build (b := ()) ⟨hok, rfl⟩ a).not_matches
    | true =>
      have hm := Parser.matches_of_ok hok
      obtain ⟨rfl, rfl⟩ := (hm.build (f := fun _ _ => value) a).unique h
      exact ⟨(lit_matches_iff.mp hm).1, rfl⟩
  · rintro ⟨rfl, rfl⟩
    exact (lit_matches name r ()).build a

/-- Another name with another first character is not read. -/
lemma symbol_fails {α : Type} {name w : Text} (hname : name ≠ []) (hw : w ≠ [])
    (h : name.head? ≠ w.head?) (value : α) (r : Text) (a : α) :
    (symbol name value).Fails (w ++ r) a a := by
  refine (lit_fails ?_ ()).build a
  intro x hx
  have hhead := congrArg List.head? hx
  rw [List.head?_append_of_ne_nil _ hname, List.head?_append_of_ne_nil _ hw] at hhead
  exact h hhead.symm

lemma portType_matches (t a : PortType) (r : Text) :
    portType_.Matches (portTypeGen t ++ r) a r t := by
  have hne : str "port" ≠ [] ∧ str "server_port" ≠ [] ∧ str "client_port" ≠ [] := by
    decide
  obtain ⟨hport, hserver, hclient⟩ := hne
  cases t with
  | general => exact (symbol_matches_iff.mpr ⟨rfl, rfl⟩).alt
  | server =>
    have hfails := symbol_fails hport hserver (by decide) PortType.general r a
    exact hfails.alt (symbol_matches_iff.mpr ⟨rfl, rfl⟩).alt
  | client =>
    have hfails := symbol_fails hport hclient (by decide) PortType.general r a
    have hfails' := symbol_fails hserver hclient (by decide) PortType.server r a
    exact hfails.alt (hfails'.alt (symbol_matches_iff.mpr ⟨rfl, rfl⟩))

/-- Whatever name is read, it is the one of its type. -/
lemma portType_prefix {s r : Text} {t a : PortType} (h : portType_.Matches s a r t) :
    s = portTypeGen t ++ r := by
  unfold portType_ at h
  have hfails : ∀ {name : Text} (value : PortType), (∀ x, s ≠ name ++ x) →
      (symbol name value).Fails s a a := fun value h => (lit_fails h ()).build a
  by_cases hport : ∃ x, s = str "port" ++ x
  · obtain ⟨x, rfl⟩ := hport
    obtain ⟨rfl, rfl⟩ := (symbol_matches_iff.mpr ⟨rfl, rfl⟩).alt.unique h
    rfl
  · have h₁ := hfails PortType.general (not_exists.mp hport)
    by_cases hserver : ∃ x, s = str "server_port" ++ x
    · obtain ⟨x, rfl⟩ := hserver
      obtain ⟨rfl, rfl⟩ := (h₁.alt (symbol_matches_iff.mpr ⟨rfl, rfl⟩).alt).unique h
      rfl
    · have h₂ := hfails PortType.server (not_exists.mp hserver)
      by_cases hclient : ∃ x, s = str "client_port" ++ x
      · obtain ⟨x, rfl⟩ := hclient
        obtain ⟨rfl, rfl⟩ :=
          (h₁.alt (h₂.alt (symbol_matches_iff.mpr ⟨rfl, rfl⟩))).unique h
        rfl
      · have h₃ := hfails PortType.client (not_exists.mp hclient)
        exact absurd h (h₁.alt_fails (h₂.alt_fails h₃)).not_matches

lemma port_fails {s : Text} (h : ∀ t, ¬IsKeyed (portTypeGen t) s) (a : Port) :
    ∃ b, port_.Fails s a b := by
  cases hok : (portType_.run s a.type).ok with
  | false => exact ⟨_, Parser.Fails.seq (Parser.Fails.focus (d := a) ⟨hok, rfl⟩)⟩
  | true =>
    have hm := Parser.matches_of_ok hok
    have hs := portType_prefix hm
    refine ⟨_, Parser.Matches.seq_fails (Parser.Matches.focus (d := a) hm)
      (Parser.Fails.seq (lit_fails ?_ _))⟩
    intro x hx
    rw [hx] at hs
    exact h _ ⟨x, hs⟩

lemma portNumber_matches (n : UInt16) {r : Text}
    (hr : r.head?.all (fun c => (digitValue c).isNone) = true) (a : ℕ) :
    portNumber.Matches (numeral digitChar 10 n.toNat ++ r) a r n.toNat := by
  have hlt := n.toNat_lt
  refine uint_numeral (by decide) digitValue_digitChar (by omega) ?_ ?_ hr a
  · exact List.length_pos_iff.mpr (numeral_ne_nil digitChar 10 _)
  · rintro m hm
    obtain rfl := Option.some.inj hm
    exact (length_numeral_le_iff digitChar (by decide) (by decide) _).mpr (by omega)

lemma portNumbers_matches (numbers a : PortNumbers) {r : Text} (hr : Delimits r) :
    (build (fun r _ => .range (.ofNat r.1) (.ofNat r.2)) portRange_ <|>
      build (fun n _ => .number (.ofNat n)) portNumber : Parser UInt8 PortNumbers).Matches
        (portNumbersGen numbers ++ r) a r numbers := by
  cases numbers with
  | number n =>
    -- The range is tried first and given up at its hyphen.
    have hhyphen : ∀ d ∈ r.head?, d ≠ 45 := by
      intro d hd
      have := hr.head_all (q := (· != 45)) (by decide) (by decide)
      rw [hd] at this
      simpa using this
    have hfirst : (focus Prod.fst (fun v r => (v, r.2)) portNumber : Parser UInt8 (ℕ × ℕ)).Matches
        (numeral digitChar 10 n.toNat ++ r) default r (n.toNat, 0) :=
      Parser.Matches.focus (d := ((default : ℕ × ℕ))) (portNumber_matches n hr.digit _)
    have hrange : portRange_.Fails (numeral digitChar 10 n.toNat ++ r) default (n.toNat, 0) :=
      hfirst.seq_fails (lit_fails_of_head hhyphen [] _).seq
    have hnumber := (portNumber_matches n hr.digit default).build
      (f := fun n _ => PortNumbers.number (.ofNat n)) a
    rw [UInt16.ofNat_toNat] at hnumber
    exact (hrange.build a).alt hnumber
  | range first second =>
    have hhyphen : (str "-" ++ (numeral digitChar 10 second.toNat ++ r)).head?.all
        (fun c => (digitValue c).isNone) = true := by
      have : digitValue 45 = none := by decide
      simp [str, this]
    have hfirst : (focus Prod.fst (fun v r => (v, r.2)) portNumber : Parser UInt8 (ℕ × ℕ)).Matches
        (numeral digitChar 10 first.toNat ++ (str "-" ++ (numeral digitChar 10 second.toNat ++ r)))
        default (str "-" ++ (numeral digitChar 10 second.toNat ++ r)) (first.toNat, 0) :=
      Parser.Matches.focus (d := ((default : ℕ × ℕ))) (portNumber_matches first hhyphen _)
    have hsecond : (focus Prod.snd (fun v r => (r.1, v)) portNumber : Parser UInt8 (ℕ × ℕ)).Matches
        (numeral digitChar 10 second.toNat ++ r) (first.toNat, 0) r (first.toNat, second.toNat) :=
      Parser.Matches.focus (d := ((first.toNat, 0) : ℕ × ℕ)) (portNumber_matches second hr.digit _)
    have hrange := (hfirst.seq ((lit_matches (str "-") _ _).seq hsecond)).build
      (f := fun r _ => PortNumbers.range (.ofNat r.1) (.ofNat r.2)) a
    rw [UInt16.ofNat_toNat, UInt16.ofNat_toNat] at hrange
    rw [portNumbersGen, List.append_assoc, List.append_assoc]
    exact hrange.alt

lemma port_matches (p a : Port) {r : Text} (hr : Delimits r) :
    port_.Matches (portGen p ++ r) a r p := by
  rw [portGen, List.append_assoc, List.append_assoc]
  have htype := portType_matches p.type a.type (str "=" ++ (portNumbersGen p.portNumbers ++ r))
  have hnumbers := portNumbers_matches p.portNumbers a.portNumbers hr
  exact Parser.Matches.seq (Parser.Matches.focus (d := a) htype)
    ((lit_matches (str "=") _ _).seq
      (Parser.Matches.focus (d := ({ a with type := p.type } : Port)) hnumbers))

lemma hexDigitValue_hexDigitChar (d : ℕ) (h : d < 16) :
    hexDigitValue (hexDigitChar d) = some d := by
  interval_cases d <;> decide

lemma ssrc_matches {ssrc : UInt32} (h : 0x10000000 ≤ ssrc.toNat) {r : Text} (hr : Delimits r)
    (a : ℕ) : ssrc_.Matches (str "ssrc=" ++ (numeral hexDigitChar 16 ssrc.toNat ++ r)) a r
      ssrc.toNat := by
  have hlt := ssrc.toNat_lt
  refine (lit_matches (str "ssrc=") _ a).seq
    (uint_numeral (by decide) hexDigitValue_hexDigitChar (by omega) ?_ ?_ hr.hexDigit a)
  · have := (length_numeral_le_iff hexDigitChar (k := 7) (by decide : 1 < 16) (by decide)
      ssrc.toNat).not.mpr (by omega)
    omega
  · rintro m hm
    obtain rfl := Option.some.inj hm
    exact (length_numeral_le_iff hexDigitChar (by decide) (by decide) _).mpr (by omega)

/-- A source with a leading zero digit is written without it and is not read. -/
lemma ssrc_fails_of_short {ssrc : UInt32} (h : ssrc.toNat < 0x10000000) {r : Text}
    (hr : Delimits r) (a : ℕ) :
    ssrc_.Fails (str "ssrc=" ++ (numeral hexDigitChar 16 ssrc.toNat ++ r)) a a := by
  refine (lit_matches (str "ssrc=") _ a).seq_fails
    (uint_numeral_fails (by decide) hexDigitValue_hexDigitChar (by omega) ?_ le_rfl hr.hexDigit a)
  have := (length_numeral_le_iff hexDigitChar (k := 7) (by decide : 1 < 16) (by decide)
    ssrc.toNat).mpr (by omega)
  omega

lemma ttl_matches {ttl : ℕ} (h : ttl < 1000) {r : Text} (hr : Delimits r) (a : ℕ) :
    ttl_.Matches (str "ttl=" ++ (numeral digitChar 10 ttl ++ r)) a r ttl := by
  refine (lit_matches (str "ttl=") _ a).seq
    (uint_numeral (by decide) digitValue_digitChar ?_ ?_ ?_ hr.digit a)
  · simp only [uintFast16Max]
    omega
  · exact List.length_pos_iff.mpr (numeral_ne_nil digitChar 10 _)
  · rintro m hm
    obtain rfl := Option.some.inj hm
    exact (length_numeral_le_iff digitChar (by decide) (by decide) _).mpr (by omega)

lemma mode_matches {w : Text} (hw : IsQuotable w) (r a : Text) :
    mode_.Matches (str "mode=" ++ (str "\"" ++ (w ++ (str "\"" ++ r)))) a r (a ++ w) := by
  have htoken : token.Fails (str "\"" ++ (w ++ (str "\"" ++ r))) a a :=
    token_guards.plus_fails (by simp [str, isTokenChar]) a
  exact (lit_matches (str "mode=") _ a).seq
    (htoken.alt (quotedString_matches hw.chars hw.ne_nil r a))

/-- The keywords of other kinds are tried in vain. -/
lemma kinds_fail {s : Text} {k : Text} (hk : k ∈ keywords) (h : IsKeyed k s) :
    (k ≠ str "ttl" → ∀ a, ttl_.Fails s a a) ∧
    ((∀ t, k ≠ portTypeGen t) → ∀ a, ∃ b, port_.Fails s a b) ∧
    (k ≠ str "ssrc" → ∀ a, ssrc_.Fails s a a) ∧
    (k ≠ str "mode" → ∀ a, mode_.Fails s a a) := by
  refine ⟨?_, ?_, ?_, ?_⟩
  · exact fun hne => ttl_fails (not_isKeyed_of_ne hk (by decide) h hne)
  · exact fun hne => port_fails fun t => not_isKeyed_of_ne hk (portTypeGen_mem t) h (hne t)
  · exact fun hne => ssrc_fails (not_isKeyed_of_ne hk (by decide) h hne)
  · exact fun hne => mode_fails (not_isKeyed_of_ne hk (by decide) h hne)

/-- The first alternatives of `parameter_` for a token. -/
lemma kinds_fail_token {w r : Text} (hw : IsToken w) (hr : Delimits r) :
    (∀ a, ttl_.Fails (w ++ r) a a) ∧ (∀ a, ∃ b, port_.Fails (w ++ r) a b) ∧
      (∀ a, ssrc_.Fails (w ++ r) a a) ∧ ∀ a, mode_.Fails (w ++ r) a a := by
  have h : ∀ k ∈ keywords, ¬IsKeyed k (w ++ r) := fun k hk =>
    not_isKeyed_token (keywords_chars k hk) hw hr
  refine ⟨ttl_fails (h _ (by decide)), port_fails fun t => h _ (portTypeGen_mem t),
    ssrc_fails (h _ (by decide)), mode_fails (h _ (by decide))⟩

/-- A generated parameter is read back, if it is no source with a leading zero digit. -/
lemma parameter_matches {p : Parameter} (hp : p.WellFormed) (hfull : p.FillsDigits) {r : Text}
    (hr : Delimits r) (a : Parameter) :
    parameter_.Matches (parameterGen p ++ r) a r p := by
  unfold parameterGen
  rw [List.append_assoc]
  refine (lit_matches (str ";") _ a).seq ?_
  cases p with
  | ttl value =>
    rw [List.append_assoc]
    exact ((ttl_matches hp hr default).build a).alt
  | port value =>
    have hkeyed : IsKeyed (portTypeGen value.type) (portGen value ++ r) :=
      ⟨portNumbersGen value.portNumbers ++ r, by simp [portGen, str]⟩
    have hne : portTypeGen value.type ≠ str "ttl" := by
      cases value.type <;> decide
    obtain ⟨httl, -⟩ := kinds_fail (portTypeGen_mem _) hkeyed
    exact ((httl hne default).build a).alt ((port_matches value default hr).build a).alt
  | ssrc value =>
    rw [List.append_assoc]
    have hkeyed : IsKeyed (str "ssrc")
        (str "ssrc=" ++ (numeral hexDigitChar 16 value.toNat ++ r)) := ⟨_, rfl⟩
    obtain ⟨httl, hport, -⟩ := kinds_fail (by decide) hkeyed
    obtain ⟨b, hport⟩ := hport (fun t => by cases t <;> decide) default
    have hssrc := (ssrc_matches hfull hr default).build
      (f := fun v _ => Parameter.ssrc (.ofNat v)) a
    rw [UInt32.ofNat_toNat] at hssrc
    exact ((httl (by decide) default).build a).alt ((hport.build a).alt hssrc.alt)
  | mode value =>
    have hkeyed : IsKeyed (str "mode") (str "mode=" ++ (str "\"" ++ (value ++ (str "\"" ++ r)))) :=
      ⟨_, rfl⟩
    obtain ⟨httl, hport, hssrc, -⟩ := kinds_fail (by decide) hkeyed
    obtain ⟨b, hport⟩ := hport (fun t => by cases t <;> decide) default
    have htext : str "mode=\"" ++ value ++ str "\"" ++ r =
        str "mode=" ++ (str "\"" ++ (value ++ (str "\"" ++ r))) := by
      have : str "mode=\"" = str "mode=" ++ str "\"" := by decide
      rw [this, List.append_assoc, List.append_assoc, List.append_assoc]
    rw [htext]
    exact ((httl (by decide) default).build a).alt ((hport.build a).alt
      (((hssrc (by decide) default).build a).alt
        ((mode_matches hp r default).build a).alt))
  | string value =>
    obtain ⟨httl, hport, hssrc, hmode⟩ := kinds_fail_token hp hr
    obtain ⟨b, hport⟩ := hport default
    have hspan := token_guards.plus_span (by simpa using hp.chars) hp.ne_nil hr.token []
    exact ((httl default).build a).alt ((hport.build a).alt (((hssrc default).build a).alt
      (((hmode default).build a).alt
        (Parser.Matches.build (f := fun v _ => Parameter.string v) hspan a))))

/-- Of a source with a leading zero digit only the name is read. -/
lemma parameter_matches_of_short {ssrc : UInt32} (h : ssrc.toNat < 0x10000000) {r : Text}
    (hr : Delimits r) (a : Parameter) :
    parameter_.Matches (parameterGen (.ssrc ssrc) ++ r) a
      (str "=" ++ (numeral hexDigitChar 16 ssrc.toNat ++ r)) (.string (str "ssrc")) := by
  simp only [parameterGen, List.append_assoc]
  refine (lit_matches (str ";") _ a).seq ?_
  have hkeyed : IsKeyed (str "ssrc")
      (str "ssrc=" ++ (numeral hexDigitChar 16 ssrc.toNat ++ r)) := ⟨_, rfl⟩
  obtain ⟨httl, hport, -, hmode⟩ := kinds_fail (by decide) hkeyed
  obtain ⟨b, hport⟩ := hport (fun t => by cases t <;> decide) default
  have hname : IsToken (str "ssrc") := by decide
  have hspan := token_guards.plus_span (r := str "=" ++ (numeral hexDigitChar 16 ssrc.toNat ++ r))
    (by simpa using hname.chars) hname.ne_nil (by simp [str, isTokenChar]) []
  exact ((httl (by decide) default).build a).alt ((hport.build a).alt
    (((ssrc_fails_of_short h hr default).build a).alt
      (((hmode (by decide) default).build a).alt
        (Parser.Matches.build (f := fun v _ => Parameter.string v) hspan a))))

lemma parameter_fails {s : Text} (h : ∀ d ∈ s.head?, d ≠ 59) (a : Parameter) :
    parameter_.Fails s a a := (lit_fails_of_head h [] a).seq

/-! ### The parameters of a specification -/

lemma parameterGen_length (p : Parameter) : 0 < (parameterGen p).length := by
  simp [parameterGen, str]

lemma delimits_parameters (ps : List Parameter) {r : Text} (hr : Delimits r) :
    Delimits (ps.flatMap parameterGen ++ r) := by
  cases ps with
  | nil => exact hr
  | cons p ps =>
    simp [Delimits, parameterGen, str]

/-- Generated parameters are read back in order, whatever the loop does after them. -/
lemma parameters_matches {ps : List Parameter} (hps : ∀ p ∈ ps, p.WellFormed ∧ p.FillsDigits)
    {r r' : Text} (hr : Delimits r) {acc b : List Parameter}
    (h : (star (pushBack parameter_)).Matches r (acc ++ ps) r' b) :
    (star (pushBack parameter_)).Matches (ps.flatMap parameterGen ++ r) acc r' b := by
  induction ps generalizing acc with
  | nil => simpa using h
  | cons p ps ih =>
    obtain ⟨hp, hps⟩ := List.forall_mem_cons.mp hps
    rw [List.flatMap_cons, List.append_assoc]
    have hfirst := (parameter_matches hp.1 hp.2 (delimits_parameters ps hr) default).pushBack acc
    refine hfirst.star ?_ (ih hps (by rwa [List.append_assoc]))
    have := parameterGen_length p
    simp only [List.length_append]
    omega

lemma parameters_stop {r : Text} (h : ∀ d ∈ r.head?, d ≠ 59) (acc : List Parameter) :
    (star (pushBack parameter_)).Matches r acc r acc :=
  ((parameter_fails h default).pushBack acc).star

/-- The loop ends behind the name of a source with a leading zero digit. -/
lemma parameters_matches_of_short {ssrc : UInt32} (h : ssrc.toNat < 0x10000000) {r : Text}
    (hr : Delimits r) (acc : List Parameter) :
    (star (pushBack parameter_)).Matches (parameterGen (.ssrc ssrc) ++ r) acc
      (str "=" ++ (numeral hexDigitChar 16 ssrc.toNat ++ r))
      (acc ++ [.string (str "ssrc")]) := by
  refine ((parameter_matches_of_short h hr default).pushBack acc).star ?_
    (parameters_stop (by simp [str]) _)
  have hlength : (str "=").length < (str ";").length + (str "ssrc=").length := by decide
  simp only [parameterGen, List.length_append]
  omega

/-! ### One specification -/

/-- What stands for the lower transport. -/
def lowerTransportText : Option Text → Text
  | none => []
  | some lowerTransport => str "/" ++ lowerTransport

lemma transportSpecGen_eq (s : TransportSpec) (r : Text) :
    transportSpecGen s ++ r = s.transportProtocol ++ (str "/" ++ (s.profile ++
      (lowerTransportText s.lowerTransport ++ (s.parameters.flatMap parameterGen ++ r)))) := by
  unfold transportSpecGen lowerTransportText
  cases s.lowerTransport with
  | none => simp
  | some lowerTransport => simp

/-- A specification is read back, with the parameters that the loop reads. -/
lemma transportSpec_matches {s : TransportSpec} (hs : s.WellFormed) {r r' : Text}
    (hr : r.head?.all (fun c => !isTokenChar c && c != 47) = true) {ps : List Parameter}
    (h : (star (pushBack parameter_)).Matches r [] r' ps) :
    transportSpec_.Matches (s.transportProtocol ++ (str "/" ++ (s.profile ++
      (lowerTransportText s.lowerTransport ++ r)))) default r' { s with parameters := ps } := by
  have hstop : r.head?.all (!isTokenChar ·) = true := by
    cases r with
    | nil => rfl
    | cons c r => simp_all
  have hslash : ∀ d ∈ r.head?, d ≠ 47 := by
    intro d hd
    rw [Option.mem_def] at hd
    simp_all
  have hprotocol := token_matches (r := str "/" ++ (s.profile ++
    (lowerTransportText s.lowerTransport ++ r))) hs.transportProtocol (by simp [str, isTokenChar])
    []
  have hnext : (lowerTransportText s.lowerTransport ++ r).head?.all (!isTokenChar ·) = true := by
    cases s.lowerTransport with
    | none => exact hstop
    | some l => simp [lowerTransportText, str, isTokenChar]
  have hprofile := token_matches hs.profile hnext []
  have hlower : (opt (build (fun v _ => some v) (lit (str "/") >> plus token))).Matches
      (lowerTransportText s.lowerTransport ++ r) none r s.lowerTransport := by
    cases hlower : s.lowerTransport with
    | none => exact (lit_fails_of_head hslash [] (default : Text)).opt_seq none
    | some l =>
      have htoken := token_matches (hs.lowerTransport l hlower) hstop []
      have hsome := ((lit_matches (str "/") (l ++ r) []).seq htoken).build
        (f := fun v _ => some v) none
      rw [lowerTransportText, List.append_assoc]
      exact hsome.opt
  exact Parser.Matches.seq (Parser.Matches.focus (d := (default : TransportSpec)) hprotocol)
    ((lit_matches (str "/") _ _).seq (Parser.Matches.seq
      (Parser.Matches.focus
        (d := ((⟨s.transportProtocol, [], none, []⟩ : TransportSpec))) hprofile)
      (Parser.Matches.seq
        (Parser.Matches.focus
          (d := ((⟨s.transportProtocol, s.profile, none, []⟩ : TransportSpec))) hlower)
        (Parser.Matches.focus
          (d := ((⟨s.transportProtocol, s.profile, s.lowerTransport, []⟩ : TransportSpec))) h))))

/-- What can follow a specification: the next one or the end. -/
def EndsSpec (r : Text) : Prop := r.head?.all (· == 44) = true

lemma EndsSpec.delimits {r : Text} (h : EndsSpec r) : Delimits r := by
  cases r with
  | nil => rfl
  | cons c r =>
    unfold EndsSpec at h
    simp_all [Delimits]

lemma EndsSpec.ne {r : Text} (h : EndsSpec r) {c : UInt8} (hc : c ≠ 44) : ∀ d ∈ r.head?, d ≠ c := by
  intro d hd
  unfold EndsSpec at h
  rw [Option.mem_def.mp hd, Option.all_some, beq_iff_eq] at h
  rw [h]
  exact Ne.symm hc

/-- All sources of a specification are written with eight digits. -/
def TransportSpec.FillsDigits (s : TransportSpec) : Prop := ∀ p ∈ s.parameters, p.FillsDigits

lemma transportSpec_matches_gen {s : TransportSpec} (hs : s.WellFormed) (hfull : s.FillsDigits)
    {r : Text} (hr : EndsSpec r) :
    transportSpec_.Matches (transportSpecGen s ++ r) default r s := by
  rw [transportSpecGen_eq]
  have hparameters : (star (pushBack parameter_)).Matches (s.parameters.flatMap parameterGen ++ r)
      [] r s.parameters :=
    parameters_matches (fun p hp => ⟨hs.parameters p hp, hfull p hp⟩) hr.delimits
      (parameters_stop (hr.ne (by decide)) _)
  exact transportSpec_matches hs ((delimits_parameters _ hr.delimits).head_all
    (by decide) (by decide)) hparameters

/-- The reading of a specification ends behind the name of its first source with a leading zero
digit. -/
lemma transportSpec_matches_of_short {s : TransportSpec} (hs : s.WellFormed)
    {before after : List Parameter} {ssrc : UInt32}
    (hparameters : s.parameters = before ++ .ssrc ssrc :: after)
    (hbefore : ∀ p ∈ before, p.FillsDigits) (h : ssrc.toNat < 0x10000000) {r : Text}
    (hr : EndsSpec r) :
    ∃ x, transportSpec_.Matches (transportSpecGen s ++ r) default (str "=" ++ x)
      { s with parameters := before ++ [.string (str "ssrc")] } := by
  refine ⟨numeral hexDigitChar 16 ssrc.toNat ++ (after.flatMap parameterGen ++ r), ?_⟩
  have hafter := delimits_parameters after hr.delimits
  have hdelimits : Delimits (parameterGen (.ssrc ssrc) ++ (after.flatMap parameterGen ++ r)) := by
    simp [Delimits, parameterGen, str]
  have hshort := parameters_matches_of_short h hafter before
  have hwf : ∀ p ∈ before, p.WellFormed ∧ p.FillsDigits := fun p hp =>
    ⟨hs.parameters p (by simp [hparameters, hp]), hbefore p hp⟩
  have hread := @parameters_matches before hwf _ _ hdelimits [] _ hshort
  rw [transportSpecGen_eq, hparameters, List.flatMap_append, List.flatMap_cons, List.append_assoc,
    List.append_assoc]
  exact transportSpec_matches hs ((delimits_parameters before hdelimits).head_all
    (by decide) (by decide)) hread

/-! ### The header -/

lemma generateTransportHeader_cons (s : TransportSpec) (ss : List TransportSpec) :
    generateTransportHeader ⟨s :: ss⟩ =
      transportSpecGen s ++ ss.flatMap fun s => str "," ++ transportSpecGen s := by
  unfold generateTransportHeader
  induction ss generalizing s with
  | nil => simp
  | cons s' ss ih =>
    simp only [List.map_cons, List.flatMap_cons] at ih ⊢
    rw [List.intercalate_cons_cons, ih s', List.append_assoc, List.append_assoc]

lemma endsSpec_specs (ss : List TransportSpec) {r : Text} (hr : EndsSpec r) :
    EndsSpec ((ss.flatMap fun s => str "," ++ transportSpecGen s) ++ r) := by
  cases ss with
  | nil => exact hr
  | cons s ss => simp [EndsSpec, str]

/-- The specifications after the first are read back in order, whatever the loop does after
them. -/
lemma specs_matches {ss : List TransportSpec} (hss : ∀ s ∈ ss, s.WellFormed ∧ s.FillsDigits)
    {r r' : Text} (hr : EndsSpec r) {acc b : List TransportSpec}
    (h : (Peg.star (lit (str ",") >> pushBack transportSpec_)).Matches r (acc ++ ss) r' b) :
    (Peg.star (lit (str ",") >> pushBack transportSpec_)).Matches
      ((ss.flatMap fun s => str "," ++ transportSpecGen s) ++ r) acc r' b := by
  induction ss generalizing acc with
  | nil => simpa using h
  | cons s ss ih =>
    obtain ⟨hs, hss⟩ := List.forall_mem_cons.mp hss
    rw [List.flatMap_cons, List.append_assoc, List.append_assoc]
    have hfirst := (lit_matches (str ",") _ acc).seq
      ((transportSpec_matches_gen hs.1 hs.2 (endsSpec_specs ss hr)).pushBack acc)
    refine hfirst.star ?_ (ih hss (by rwa [List.append_assoc]))
    have hlength : 0 < (str ",").length := by decide
    simp only [List.length_append]
    omega

lemma specs_stop {r : Text} (h : ∀ d ∈ r.head?, d ≠ 44) (acc : List TransportSpec) :
    (Peg.star (lit (str ",") >> pushBack transportSpec_)).Matches r acc r acc :=
  (lit_fails_of_head h [] acc).seq.star

/-- A header whose sources are all written with eight digits is read back. -/
lemma transportGrammar_matches {t : Transport} (ht : t.WellFormed) (hne : t.specifications ≠ [])
    (hfull : ∀ s ∈ t.specifications, s.FillsDigits) (a : Transport) :
    transportGrammar.Matches (generateTransportHeader t) a [] t := by
  obtain ⟨s, ss, hspecs⟩ := List.exists_cons_of_ne_nil hne
  obtain rfl : t = ⟨s :: ss⟩ := congrArg Transport.mk hspecs
  obtain ⟨hs, hss⟩ := List.forall_mem_cons.mp ht
  obtain ⟨hsfull, hssfull⟩ := List.forall_mem_cons.mp hfull
  have hrest := @specs_matches ss (fun s' h => ⟨hss s' h, hssfull s' h⟩) [] [] rfl [s] _
    (specs_stop (by simp) _)
  have hends := endsSpec_specs ss (show EndsSpec [] from rfl)
  rw [List.append_nil] at hrest hends
  rw [generateTransportHeader_cons]
  have hfirst := (transportSpec_matches_gen hs hsfull hends).pushBack []
  exact Parser.Matches.build (f := fun v _ => (⟨v⟩ : Transport)) (hfirst.seq hrest) a

/-- The reading ends in the first specification that has a source with a leading zero digit. -/
lemma transportGrammar_matches_of_short {t : Transport} (ht : t.WellFormed)
    {pre post : List TransportSpec} {s : TransportSpec}
    (hspecs : t.specifications = pre ++ s :: post)
    (hpre : ∀ s ∈ pre, s.FillsDigits) {before after : List Parameter} {ssrc : UInt32}
    (hparameters : s.parameters = before ++ .ssrc ssrc :: after)
    (hbefore : ∀ p ∈ before, p.FillsDigits) (h : ssrc.toNat < 0x10000000) (a : Transport) :
    ∃ x, transportGrammar.Matches (generateTransportHeader t) a (str "=" ++ x)
      ⟨pre ++ [{ s with parameters := before ++ [.string (str "ssrc")] }]⟩ := by
  obtain rfl : t = ⟨pre ++ s :: post⟩ := congrArg Transport.mk hspecs
  have hs : s.WellFormed := ht s (by simp)
  have hpost := endsSpec_specs post (show EndsSpec [] from rfl)
  rw [List.append_nil] at hpost
  obtain ⟨x, hshort⟩ := transportSpec_matches_of_short hs hparameters hbefore h hpost
  have hstop : ∀ acc, (Peg.star (lit (str ",") >> pushBack transportSpec_)).Matches
      (str "=" ++ x) acc (str "=" ++ x) acc := specs_stop (by simp [str])
  refine ⟨x, Parser.Matches.build (f := fun v _ => (⟨v⟩ : Transport)) ?_ a⟩
  cases pre with
  | nil =>
    rw [List.nil_append, generateTransportHeader_cons]
    exact (hshort.pushBack []).seq (hstop _)
  | cons s₀ pre =>
    obtain ⟨hs₀, htail⟩ := List.forall_mem_cons.mp ht
    obtain ⟨hfull₀, hpre⟩ := List.forall_mem_cons.mp hpre
    have hends : EndsSpec (str "," ++ (transportSpecGen s ++
        post.flatMap fun s => str "," ++ transportSpecGen s)) := by simp [EndsSpec, str]
    have hturn := ((lit_matches (str ",") (transportSpecGen s ++
      post.flatMap fun s => str "," ++ transportSpecGen s) ([s₀] ++ pre)).seq
        (hshort.pushBack ([s₀] ++ pre))).star (by
          have := hshort.suffix.length_le
          have hlength : 0 < (str ",").length := by decide
          simp only [List.length_append] at this ⊢
          omega) (hstop _)
    have hrest := @specs_matches pre (fun s' h => ⟨htail s' (by simp [h]), hpre s' h⟩) _ _ hends
      [s₀] _ hturn
    have hfirst := (transportSpec_matches_gen hs₀ hfull₀ (endsSpec_specs pre hends)).pushBack []
    rw [List.cons_append, generateTransportHeader_cons, List.flatMap_append, List.flatMap_cons,
      List.append_assoc]
    exact hfirst.seq hrest

/-- The first source of a list that is not written with eight digits. -/
lemma exists_short {ps : List Parameter} (h : ¬∀ p ∈ ps, p.FillsDigits) :
    ∃ before ssrc after, ps = before ++ .ssrc ssrc :: after ∧ (∀ p ∈ before, p.FillsDigits) ∧
      ssrc.toNat < 0x10000000 := by
  induction ps with
  | nil => exact absurd (List.forall_mem_nil _) h
  | cons p ps ih =>
    by_cases hp : p.FillsDigits
    · obtain ⟨before, ssrc, after, rfl, hbefore, hshort⟩ :=
        ih fun hps => h (List.forall_mem_cons.mpr ⟨hp, hps⟩)
      exact ⟨p :: before, ssrc, after, rfl, List.forall_mem_cons.mpr ⟨hp, hbefore⟩, hshort⟩
    · cases p with
      | ssrc value => exact ⟨[], value, ps, rfl, List.forall_mem_nil _, not_le.mp hp⟩
      | ttl value => exact absurd trivial hp
      | port value => exact absurd trivial hp
      | mode value => exact absurd trivial hp
      | string value => exact absurd trivial hp

/-- The first specification of a list with such a source. -/
lemma exists_short_spec {ss : List TransportSpec} (h : ¬∀ s ∈ ss, s.FillsDigits) :
    ∃ pre s post, ss = pre ++ s :: post ∧ (∀ s ∈ pre, s.FillsDigits) ∧ ¬s.FillsDigits := by
  induction ss with
  | nil => exact absurd (List.forall_mem_nil _) h
  | cons s ss ih =>
    by_cases hs : s.FillsDigits
    · obtain ⟨pre, s', post, rfl, hpre, hshort⟩ :=
        ih fun hss => h (List.forall_mem_cons.mpr ⟨hs, hss⟩)
      exact ⟨s :: pre, s', post, rfl, List.forall_mem_cons.mpr ⟨hs, hpre⟩, hshort⟩
    · exact ⟨[], s, ss, rfl, List.forall_mem_nil _, hs⟩

/-- A well-formed value is read back from its header exactly where it has a specification and all
its sources are written with eight digits. -/
lemma transportGrammar_matches_iff {t : Transport} (ht : t.WellFormed) (a : Transport) :
    transportGrammar.Matches (generateTransportHeader t) a [] t ↔
      t.specifications ≠ [] ∧ ∀ s ∈ t.specifications, s.FillsDigits := by
  constructor
  · intro h
    have hne : t.specifications ≠ [] := by
      intro hnil
      obtain rfl : t = ⟨[]⟩ := congrArg Transport.mk hnil
      have hspec : transportSpec_.Fails [] default default :=
        (Parser.Fails.focus (d := (default : TransportSpec)) (token_fails rfl [])).seq
      exact absurd h (Parser.Fails.build ((hspec.pushBack []).seq) a).not_matches
    refine ⟨hne, by_contra fun hshort => ?_⟩
    obtain ⟨pre, s, post, hspecs, hpre, hs⟩ := exists_short_spec hshort
    obtain ⟨before, ssrc, after, hparameters, hbefore, hlt⟩ := exists_short hs
    obtain ⟨x, hread⟩ :=
      transportGrammar_matches_of_short ht hspecs hpre hparameters hbefore hlt a
    have hrest := (h.unique hread).1
    simp [str] at hrest
  · rintro ⟨hne, hfull⟩
    exact transportGrammar_matches ht hne hfull a

end Rtsp
