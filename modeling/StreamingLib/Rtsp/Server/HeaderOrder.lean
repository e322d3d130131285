import StreamingLib.Rtsp.Server.Invariants

/-!
# The order of headers

What a request says with its headers is the list of values under each name, whatever the letter
case of the names and the order of headers of different names. The server reads nothing else.
-/

namespace Rtsp

/-! ### Header lists that say the same -/

/-- Header lists that differ only in the letter case of names and in the relative order of headers
of different names. -/
inductive Rearranged : RawHeaders → RawHeaders → Prop
  | nil : Rearranged [] []
  | cons {name name' : Text} (hname : toLowerCopy name = toLowerCopy name') (value : Text)
      {hs hs' : RawHeaders} : Rearranged hs hs' →
      Rearranged ((name, value) :: hs) ((name', value) :: hs')
  | swap {first second : Header} (hne : toLowerCopy first.1 ≠ toLowerCopy second.1)
      (hs : RawHeaders) : Rearranged (first :: second :: hs) (second :: first :: hs)
  | trans {hs₁ hs₂ hs₃ : RawHeaders} : Rearranged hs₁ hs₂ → Rearranged hs₂ hs₃ →
      Rearranged hs₁ hs₃

namespace Rearranged

lemma refl (hs : RawHeaders) : Rearranged hs hs := by
  induction hs with
  | nil => exact .nil
  | cons h hs ih => exact .cons rfl h.2 ih

lemma valuesOf_eq {hs hs' : RawHeaders} (h : Rearranged hs hs') (key : Text) :
    valuesOf hs key = valuesOf hs' key := by
  induction h with
  | nil => rfl
  | @cons name name' hname value hs hs' _ ih =>
    by_cases hkey : toLowerCopy name = key
    · have hkey' : toLowerCopy name' = key := hname ▸ hkey
      rw [valuesOf_cons_of_eq hkey, valuesOf_cons_of_eq hkey', ih]
    · have hkey' : toLowerCopy name' ≠ key := hname ▸ hkey
      rw [valuesOf_cons_of_ne hkey, valuesOf_cons_of_ne hkey', ih]
  | @swap first second hne hs =>
    by_cases hkey : toLowerCopy first.1 = key
    · have hkey' : toLowerCopy second.1 ≠ key := fun heq => hne (hkey.trans heq.symm)
      rw [valuesOf_cons_of_eq hkey, valuesOf_cons_of_ne hkey', valuesOf_cons_of_ne hkey',
        valuesOf_cons_of_eq hkey]
    · rw [valuesOf_cons_of_ne hkey]
      by_cases hkey' : toLowerCopy second.1 = key
      · rw [valuesOf_cons_of_eq hkey', valuesOf_cons_of_eq hkey', valuesOf_cons_of_ne hkey]
      · rw [valuesOf_cons_of_ne hkey', valuesOf_cons_of_ne hkey', valuesOf_cons_of_ne hkey]
  | trans _ _ ih₁ ih₂ => exact ih₁.trans ih₂

/-- A header moves in front of headers of other names. -/
lemma to_front (header : Header) {before : RawHeaders}
    (h : ∀ other ∈ before, toLowerCopy other.1 ≠ toLowerCopy header.1) (after : RawHeaders) :
    Rearranged (header :: (before ++ after)) (before ++ header :: after) := by
  induction before with
  | nil => exact refl _
  | cons other before ih =>
    have hswap := swap (h other List.mem_cons_self).symm (before ++ after)
    have hrest := ih fun other hmem => h other (List.mem_cons_of_mem _ hmem)
    exact hswap.trans (cons rfl other.2 hrest)

end Rearranged

/-- The first header of a name that has values. -/
lemma exists_first_of_valuesOf {hs : RawHeaders} {key value : Text} {values : List Text}
    (h : valuesOf hs key = value :: values) :
    ∃ before name after, hs = before ++ (name, value) :: after ∧ toLowerCopy name = key ∧
      ∀ header ∈ before, toLowerCopy header.1 ≠ key := by
  induction hs with
  | nil => cases h
  | cons header hs ih =>
    by_cases hkey : toLowerCopy header.1 = key
    · rw [valuesOf_cons_of_eq hkey, List.cons.injEq] at h
      exact ⟨[], header.1, hs, by rw [← h.1, List.nil_append], hkey, by simp⟩
    · rw [valuesOf_cons_of_ne hkey] at h
      obtain ⟨before, name, after, rfl, hname, hbefore⟩ := ih h
      refine ⟨header :: before, name, after, rfl, hname, ?_⟩
      simpa [hkey] using hbefore

/-- Two lists say the same exactly if they have the same values under each name. -/
lemma rearranged_iff {hs hs' : RawHeaders} :
    Rearranged hs hs' ↔ ∀ key, valuesOf hs key = valuesOf hs' key := by
  constructor
  · exact Rearranged.valuesOf_eq
  · intro h
    induction hs generalizing hs' with
    | nil =>
      cases hs' with
      | nil => exact .nil
      | cons header hs' =>
        have hnil := h (toLowerCopy header.1)
        rw [valuesOf_cons_of_eq rfl] at hnil
        cases hnil
    | cons header hs ih =>
      have hfirst := h (toLowerCopy header.1)
      rw [valuesOf_cons_of_eq rfl] at hfirst
      obtain ⟨before, name, after, rfl, hname, hbefore⟩ := exists_first_of_valuesOf hfirst.symm
      have hfront := Rearranged.to_front (name, header.2) (hname ▸ hbefore) after
      refine .trans (.cons hname.symm header.2 (ih fun key => ?_)) hfront
      have hkey := (h key).trans (hfront.valuesOf_eq key).symm
      by_cases heq : toLowerCopy header.1 = key
      · have heq' : toLowerCopy (name, header.2).1 = key := hname.trans heq
        rw [valuesOf_cons_of_eq heq, valuesOf_cons_of_eq heq', List.cons.injEq] at hkey
        exact hkey.2
      · have heq' : toLowerCopy (name, header.2).1 ≠ key := hname ▸ heq
        rwa [valuesOf_cons_of_ne heq, valuesOf_cons_of_ne heq'] at hkey

/-! ### Normalized headers -/

lemma intercalate_append_cons (sep front value : Text) (values : List Text) :
    sep.intercalate ((front ++ value) :: values) = front ++ sep.intercalate (value :: values) := by
  cases values with
  | nil => simp
  | cons next values => simp

lemma foldl_join (value : Text) (values : List Text) :
    values.foldl (fun joined value => joined ++ str "," ++ value) value =
      (str ",").intercalate (value :: values) := by
  induction values generalizing value with
  | nil => simp
  | cons next values ih =>
    rw [List.foldl_cons, ih, intercalate_append_cons, List.intercalate_cons_cons]

lemma joinValues_eq (values : List Text) :
    joinValues values = if values = [] then none else some ((str ",").intercalate values) := by
  cases values with
  | nil => rfl
  | cons value values => rw [joinValues, foldl_join, if_neg (List.cons_ne_nil value values)]

/-- Lists that say the same are normalized to the same headers. -/
lemma normalizeHeaders_congr {hs hs' : RawHeaders} (h : Rearranged hs hs') :
    normalizeHeaders hs = normalizeHeaders hs' := by
  apply Finmap.ext_lookup
  intro key
  rw [lookup_normalizeHeaders, lookup_normalizeHeaders, h.valuesOf_eq key]

/-! ### Requests -/

section Requests

variable {env : Environment} {draws : Draws} {r r' : Request} {headers : NormalizedHeaders}

/-- SETUP reads nothing of a request but its URI and the normalized headers. -/
lemma setup_congr (huri : r.uri = r'.uri) (session : ServerSession) :
    setup env draws session (r, headers) = setup env draws session (r', headers) := by
  simp only [setup, setupChecks, commonResponseSkeleton, huri]

lemma methods_congr (huri : r.uri = r'.uri) {name : Text} {method : MethodImplementation}
    (h : (methods env draws).lookup name = some method) (session : ServerSession) :
    method session (r, headers) = method session (r', headers) := by
  have hmem := mem_methods h
  simp only [methods, List.mem_cons, List.not_mem_nil, or_false, Prod.mk.injEq] at hmem
  obtain ⟨-, rfl⟩ | ⟨-, rfl⟩ | ⟨-, rfl⟩ | ⟨-, rfl⟩ | ⟨-, rfl⟩ := hmem
  · rfl
  · exact setup_congr huri session
  · rfl
  · rfl
  · rfl

namespace ServerState

variable (s : ServerState) (requester : Address)

lemma handleSetup_congr (hmethod : r.methodOrExtension = r'.methodOrExtension)
    (huri : r.uri = r'.uri) :
    s.handleSetup env draws (r, headers) requester =
      s.handleSetup env draws (r', headers) requester := by
  unfold handleSetup
  dsimp only
  rw [← hmethod]
  cases hlookup : (methods env draws).lookup r.methodOrExtension with
  | none => rfl
  | some method => simp only [call, methods_congr huri hlookup]

lemma handleMethod_congr (hmethod : r.methodOrExtension = r'.methodOrExtension)
    (huri : r.uri = r'.uri) {method : MethodImplementation}
    (hlookup : (methods env draws).lookup r.methodOrExtension = some method)
    (identifier cseq : Text) :
    s.handleMethod method identifier cseq (r, headers) requester =
      s.handleMethod method identifier cseq (r', headers) requester := by
  unfold handleMethod
  simp only [call, methods_congr huri hlookup, hmethod]

/-- Requests are answered by their method, their URI and their normalized headers. -/
lemma handleIncomingRequest_congr (hmethod : r.methodOrExtension = r'.methodOrExtension)
    (huri : r.uri = r'.uri) (hheaders : normalizeHeaders r.headers = normalizeHeaders r'.headers) :
    s.handleIncomingRequest env draws r requester =
      s.handleIncomingRequest env draws r' requester := by
  unfold handleIncomingRequest
  simp only [← hheaders, ← hmethod, ← s.handleSetup_congr requester hmethod huri]
  cases hsession : (normalizeHeaders r.headers).lookup (str "session") with
  | none => rfl
  | some identifier =>
    cases hlookup : (methods env draws).lookup r.methodOrExtension with
    | none => rfl
    | some method =>
      simp only [s.handleMethod_congr requester hmethod huri hlookup]
      rfl

end ServerState

/-- A lower-cased name is bound to the values of its headers, joined by commas in order, and no
other name is bound; so a rearranged request gets the same response and leaves the same state. -/
theorem header_normalisation :
    (∀ (hs : RawHeaders) (key : Text), (normalizeHeaders hs).lookup key =
      if valuesOf hs key = [] then none else some ((str ",").intercalate (valuesOf hs key))) ∧
    ∀ (s : ServerState) (env : Environment) (draws : Draws) (requester : Address)
      (r r' : Request), r.methodOrExtension = r'.methodOrExtension → r.uri = r'.uri →
      Rearranged r.headers r'.headers →
      s.handleIncomingRequest env draws r requester =
        s.handleIncomingRequest env draws r' requester := by
  constructor
  · intro hs key
    rw [lookup_normalizeHeaders, joinValues_eq]
  · intro s env draws requester r r' hmethod huri hheaders
    exact s.handleIncomingRequest_congr requester hmethod huri (normalizeHeaders_congr hheaders)

/-- A PLAY request with its two headers in the other order and in other letters. -/
theorem header_normalisation_play :
    Rearranged playMovie.headers [(str "SESSION", str "a"), (str "cseq", str "1")] ∧
      ({} : ServerState).handleIncomingRequest emptyRoot {} playMovie default =
        ({} : ServerState).handleIncomingRequest emptyRoot {} { playMovie with
          headers := [(str "SESSION", str "a"), (str "cseq", str "1")] } default := by
  have hswap : Rearranged [(str "CSeq", str "1"), (str "Session", str "a")]
      [(str "Session", str "a"), (str "CSeq", str "1")] := .swap (by decide) []
  have hcase : Rearranged [(str "Session", str "a"), (str "CSeq", str "1")]
      [(str "SESSION", str "a"), (str "cseq", str "1")] :=
    .cons (by decide) _ (.cons (by decide) _ .nil)
  have hheaders := hswap.trans hcase
  exact ⟨hheaders, header_normalisation.2 {} emptyRoot {} default playMovie _ rfl rfl hheaders⟩

end Requests

end Rtsp
