import Mathlib.Data.Finmap
import StreamingLib.Rtsp.Definitions

/-!
# Normalized headers

`normalize_headers` of `rtsp_headers.cpp` compares names without regard to case and joins the
values of headers of the same name.
-/

namespace Rtsp

/-- `rtsp::normalized_headers`. -/
abbrev NormalizedHeaders := Finmap fun _ : Text => Text

/-- `internal_request`. -/
abbrev InternalRequest := Request × NormalizedHeaders

/-- `std::tolower` in the "C" locale. -/
def toLower (c : UInt8) : UInt8 := if 65 ≤ c && c ≤ 90 then c + 32 else c

/-- `boost::algorithm::to_lower_copy`. -/
def toLowerCopy (s : Text) : Text := s.map toLower

def normalizeStep (newHeaders : NormalizedHeaders) (header : Header) : NormalizedHeaders :=
  let harmonizedKey := toLowerCopy header.1
  match newHeaders.lookup harmonizedKey with
  | none => newHeaders.insert harmonizedKey header.2
  | some value => newHeaders.insert harmonizedKey (value ++ str "," ++ header.2)

def normalizeHeaders (rawHeaders : RawHeaders) : NormalizedHeaders :=
  rawHeaders.foldl normalizeStep ∅

/-! ### Looking up -/

/-- The values of headers of one name, in order. -/
def joinValues : List Text → Option Text
  | [] => none
  | value :: values => some (values.foldl (fun joined value => joined ++ str "," ++ value) value)

lemma joinValues_concat (values : List Text) (value : Text) :
    joinValues (values ++ [value]) =
      some (match joinValues values with
        | none => value
        | some joined => joined ++ str "," ++ value) := by
  cases values with
  | nil => rfl
  | cons first values => simp [joinValues, List.foldl_append]

/-- The values that are joined under a name. -/
def valuesOf (rawHeaders : RawHeaders) (key : Text) : List Text :=
  (rawHeaders.filter fun header => toLowerCopy header.1 = key).map (·.2)

lemma lookup_normalizeStep (headers : NormalizedHeaders) (header : Header) (key : Text) :
    (normalizeStep headers header).lookup key =
      if toLowerCopy header.1 = key then
        some (match headers.lookup key with
          | none => header.2
          | some joined => joined ++ str "," ++ header.2)
      else headers.lookup key := by
  unfold normalizeStep
  split_ifs with hkey
  · subst hkey
    cases hlookup : headers.lookup (toLowerCopy header.1) with
    | none => simp [hlookup]
    | some joined => simp [hlookup]
  · cases hlookup : headers.lookup (toLowerCopy header.1) with
    | none => simp [hlookup, Finmap.lookup_insert_of_ne _ (Ne.symm hkey)]
    | some joined => simp [hlookup, Finmap.lookup_insert_of_ne _ (Ne.symm hkey)]

/-- A name is bound to its values, joined with commas. -/
lemma lookup_normalizeHeaders (rawHeaders : RawHeaders) (key : Text) :
    (normalizeHeaders rawHeaders).lookup key = joinValues (valuesOf rawHeaders key) := by
  induction rawHeaders using List.reverseRecOn with
  | nil => rfl
  | append_singleton rawHeaders header ih =>
    rw [normalizeHeaders, List.foldl_append, List.foldl_cons, List.foldl_nil,
      lookup_normalizeStep, ← normalizeHeaders, ih]
    split_ifs with hkey
    · rw [← joinValues_concat]
      simp [valuesOf, hkey]
    · simp [valuesOf, hkey]

/-- What joining keeps is true of all that is bound. -/
lemma normalizeHeaders_keeps {P : Text → Prop}
    (hjoin : ∀ {v w}, P v → P w → P (v ++ str "," ++ w)) {rawHeaders : RawHeaders}
    (h : ∀ header ∈ rawHeaders, P header.2) {key value : Text}
    (hlookup : (normalizeHeaders rawHeaders).lookup key = some value) : P value := by
  induction rawHeaders using List.reverseRecOn generalizing value with
  | nil => cases hlookup
  | append_singleton rawHeaders header ih =>
    obtain ⟨hbefore, hlast⟩ := List.forall_mem_append.mp h
    have hheader : P header.2 := hlast header (List.mem_singleton_self _)
    rw [normalizeHeaders, List.foldl_append, List.foldl_cons, List.foldl_nil,
      lookup_normalizeStep, ← normalizeHeaders] at hlookup
    split_ifs at hlookup
    · cases hjoined : (normalizeHeaders rawHeaders).lookup key with
      | none =>
        rw [hjoined] at hlookup
        cases hlookup
        exact hheader
      | some joined =>
        rw [hjoined] at hlookup
        cases hlookup
        exact hjoin (ih hbefore hjoined) hheader
    · exact ih hbefore hlookup

lemma valuesOf_cons_of_eq {header : Header} {key : Text} (h : toLowerCopy header.1 = key)
    (rawHeaders : RawHeaders) :
    valuesOf (header :: rawHeaders) key = header.2 :: valuesOf rawHeaders key := by
  simp [valuesOf, h]

lemma valuesOf_cons_of_ne {header : Header} {key : Text} (h : toLowerCopy header.1 ≠ key)
    (rawHeaders : RawHeaders) : valuesOf (header :: rawHeaders) key = valuesOf rawHeaders key := by
  simp [valuesOf, h]

/-- Headers of other names bind nothing. -/
lemma valuesOf_eq_nil {rawHeaders : RawHeaders} {key : Text}
    (h : ∀ header ∈ rawHeaders, toLowerCopy header.1 ≠ key) : valuesOf rawHeaders key = [] := by
  rw [valuesOf, List.map_eq_nil_iff, List.filter_eq_nil_iff]
  exact fun header hmem heq => h header hmem (of_decide_eq_true heq)

end Rtsp
