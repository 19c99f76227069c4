import ContentGateway.Http.Form
import ContentGateway.Proofs.Text.Pieces
import ContentGateway.Proofs.Url.Percent
import ContentGateway.Url.Building

/-!
# Parameters read back

Parameters that are added to a URL are read back from its query, whatever names and values they
have.
-/

namespace ContentGateway

theorem Url.withParameters_eq (u : Url) (parameters : List (String × String)) :
    exists query, u.withParameters parameters = { u with query := query } := by
  unfold withParameters
  split
  · exact ⟨_, rfl⟩
  · exact ⟨_, rfl⟩

namespace Http
namespace Form

open Url (encodeForm encodeFormChar formText)

def blanked (c : Char) : Char :=
  if c == '+' then ' ' else c

/-- A character that forms have as it stands. -/
def isKept (c : Char) : Bool :=
  c.isAlphanum || "*-._".toList.contains c

theorem kept_ne {c : Char} (h : isKept c = true) : c ≠ '+' ∧ c ≠ '%' ∧ c ≠ '&' ∧ c ≠ '=' := by
  refine ⟨?_, ?_, ?_, ?_⟩
  all_goals
    rintro rfl
    exact absurd h (by decide)

theorem encodeFormChar_eq (c : Char) :
    encodeFormChar c =
      if c == ' ' then ['+']
      else if isKept c then [c]
      else (Utf8.encodeChar c).flatMap Percent.encodeByte := rfl

theorem mem_encodeForm {text : String} {c : Char} (h : c ∈ (encodeForm text).toList) :
    c ≠ '&' ∧ c ≠ '=' := by
  unfold encodeForm at h
  rw [String.toList_ofList] at h
  rcases List.mem_flatMap.mp h with ⟨d, _, hc⟩
  rw [encodeFormChar_eq] at hc
  split at hc
  · rw [List.mem_singleton.mp hc]
    decide
  split at hc
  · next hkept =>
      rw [List.mem_singleton.mp hc]
      exact (kept_ne hkept).2.2
  · rcases List.mem_flatMap.mp hc with ⟨b, _, hc⟩
    rcases Percent.mem_encodeByte hc with rfl | hdigit
    · decide
    · constructor
      · rintro rfl
        exact absurd hdigit (by decide)
      · rintro rfl
        exact absurd hdigit (by decide)

theorem map_blanked_encodeBytes (bytes : List UInt8) :
    (bytes.flatMap Percent.encodeByte).map blanked = bytes.flatMap Percent.encodeByte := by
  have hchars : forall c, c ∈ bytes.flatMap Percent.encodeByte -> blanked c = c := by
    intro c hc
    rcases List.mem_flatMap.mp hc with ⟨b, _, hc⟩
    have hplus : c ≠ '+' := by
      rintro rfl
      rcases Percent.mem_encodeByte hc with hpercent | hdigit
      · exact absurd hpercent (by decide)
      · exact absurd hdigit (by decide)
    unfold blanked
    rw [if_neg (by simpa using hplus)]
  exact (List.map_congr_left hchars).trans (List.map_id _)

theorem decode_encodeFormChar (c : Char) (rest : List Char) :
    Percent.decode ((encodeFormChar c).map blanked ++ rest) =
      Utf8.encodeChar c ++ Percent.decode rest := by
  rw [encodeFormChar_eq]
  split
  · next hblank =>
      rw [beq_iff_eq] at hblank
      rw [hblank]
      exact Percent.decode_cons (by decide) rest
  split
  · next hkept =>
      have hc := kept_ne hkept
      have hsame : blanked c = c := by
        unfold blanked
        rw [if_neg (by simpa using hc.1)]
      rw [List.map_singleton, hsame]
      exact Percent.decode_cons hc.2.1 rest
  · rw [map_blanked_encodeBytes, Percent.decode_encodeBytes]

theorem decode_encodeFormChars (chars : List Char) :
    Percent.decode ((chars.flatMap encodeFormChar).map blanked) = Utf8.encode chars := by
  induction chars with
  | nil => rfl
  | cons c rest ih =>
      rw [List.flatMap_cons, List.map_append, decode_encodeFormChar, ih]
      rfl

theorem decode_encodeForm (text : String) : decode (encodeForm text).toList = text := by
  unfold decode encodeForm
  rw [String.toList_ofList]
  show String.ofList (Utf8.decodeLossy
    (Percent.decode ((text.toList.flatMap encodeFormChar).map blanked))) = text
  rw [decode_encodeFormChars, Utf8.decodeLossy_encode, String.ofList_toList]

/-!
# Queries
-/

def partOf (p : String × String) : String :=
  encodeForm p.1 ++ "=" ++ encodeForm p.2

theorem toList_partOf (p : String × String) :
    (partOf p).toList = (encodeForm p.1).toList ++ '=' :: (encodeForm p.2).toList := by
  unfold partOf
  rw [String.toList_append, String.toList_append, List.append_assoc]
  rfl

theorem pair_partOf (p : String × String) : pair (partOf p).toList = p := by
  have hname : '=' ∉ (encodeForm p.1).toList := fun hc => (mem_encodeForm hc).2 rfl
  unfold pair
  rw [toList_partOf, splitFirst_append hname]
  simp only [decode_encodeForm]

theorem not_separator_partOf (p : String × String) : '&' ∉ (partOf p).toList := by
  rw [toList_partOf]
  intro hc
  rcases List.mem_append.mp hc with hname | hc
  · exact (mem_encodeForm hname).1 rfl
  · rcases List.mem_cons.mp hc with hequals | hvalue
    · exact absurd hequals (by decide)
    · exact (mem_encodeForm hvalue).1 rfl

/-- Parameters are read back from their text. -/
theorem pairs_formText (parameters : List (String × String)) :
    pairs (formText parameters) = parameters := by
  have hparts : (parameters.map partOf).map String.toList ≠ [] ∨ parameters = [] := by
    cases parameters with
    | nil => exact .inr rfl
    | cons p rest => exact .inl (List.cons_ne_nil _ _)
  rcases hparts with hsome | rfl
  · have hsplit : splitBy (· == '&') (formText parameters).toList =
        (parameters.map partOf).map String.toList := by
      show splitBy _ (String.intercalate "&" (parameters.map partOf)).toList = _
      rw [String.toList_intercalate]
      refine splitBy_intercalate ?_ hsome
      intro part hpart
      rcases List.mem_map.mp hpart with ⟨text, htext, rfl⟩
      rcases List.mem_map.mp htext with ⟨p, _, rfl⟩
      exact not_separator_partOf p
    have hfilter : ((parameters.map partOf).map String.toList).filter (fun part => !part.isEmpty) =
        (parameters.map partOf).map String.toList := by
      rw [List.filter_eq_self]
      intro part hpart
      rcases List.mem_map.mp hpart with ⟨text, htext, rfl⟩
      rcases List.mem_map.mp htext with ⟨p, _, rfl⟩
      rw [toList_partOf]
      simp
    have hpairs : (pair ∘ String.toList) ∘ partOf = id := by
      funext p
      rw [Function.comp_apply, Function.comp_apply, pair_partOf, id_eq]
    unfold pairs
    rw [hsplit, hfilter, List.map_map, List.map_map, hpairs, List.map_id]
  · rfl

/-- Parameters that are added to a URL without a query are the parameters of its query. -/
theorem pairs_withParameters {u : Url} (h : u.query = none) (parameters : List (String × String)) :
    pairs ((u.withParameters parameters).query.getD "") = parameters := by
  unfold Url.withParameters
  split
  · next hempty =>
      rw [h, List.isEmpty_iff.mp hempty]
      rfl
  · simp only [h, Option.getD_some, String.empty_append]
    exact pairs_formText parameters

end Form
end Http
end ContentGateway
