import ContentGateway.Proofs.Url.Joining

/-!
# Segments put behind URLs

Segments that are put behind the text of a URL are read back below its path exactly if the URL
opens to them: it ends in a slash, nothing is written behind its path, and its host can be read
from its written form.  The last segment may be any text, and has to be whole.
-/

namespace ContentGateway
namespace Url

/-- A name that stands for itself as a segment. -/
structure Steady (name : String) : Prop where
  settled : Settled name
  spelled : meaning name = Utf8.ofString name

/-- A URL behind whose text a path may be put. -/
structure Opens (u : Url) : Prop where
  query : u.query = none
  fragment : u.fragment = none
  slash : exists front, u.path = .segments (front ++ [""])
  host : exists a, u.authority = some a ∧ Host.ofSpecial? a.host.display.toList = some a.host

theorem whole_empty : Whole "" := by
  refine ⟨?_, ?_, rfl, by decide⟩
  · intro c hc
    cases hc
  · intro c hc
    cases hc

theorem levels_concat_empty (front : List String) : levels (front ++ [""]) = front := by
  unfold levels
  rw [List.getLast?_concat, if_pos (by decide), List.dropLast_concat]

theorem levels_concat {last : String} (h : last ≠ "") (front : List String) :
    levels (front ++ [last]) = front ++ [last] := by
  unfold levels
  rw [List.getLast?_concat, if_neg (by simpa using h)]

theorem not_standsFor_self {path names : List String} {name : String} (hname : name ≠ "")
    (h : path.map meaning =
      (levels path).map meaning ++ (name :: names).map Utf8.ofString) : False := by
  rcases List.eq_nil_or_concat path with rfl | ⟨front, last, hpath⟩
  · have hlength := congrArg List.length h
    simp at hlength
  rw [List.concat_eq_append] at hpath
  subst hpath
  by_cases hlast : last = ""
  · subst hlast
    rw [levels_concat_empty, List.map_append, List.append_cancel_left_eq, List.map_cons,
      List.map_cons, List.cons.injEq] at h
    exact ofString_ne_nil hname h.1.symm
  · rw [levels_concat hlast] at h
    have hlength := congrArg List.length h
    simp at hlength

theorem trailer_eq_nil {u : Url} (hquery : u.query = none) (hfragment : u.fragment = none) :
    u.trailer = [] := by
  unfold trailer
  rw [hquery, hfragment]
  rfl

theorem pathPart_trailer {u : Url} (h : ¬ (u.query = none ∧ u.fragment = none))
    (text : List Char) : pathPart (u.trailer ++ text) = [] := by
  unfold trailer
  cases hquery : u.query with
  | some q =>
      have hbegins : ((some q).map ("?" ++ ·)).getD "" = "?" ++ q := rfl
      rw [hbegins, String.toList_append, String.toList_append]
      exact pathPart_of_mark (.inl rfl) _
  | none =>
      cases hfragment : u.fragment with
      | some f =>
          have hbegins : ((none : Option String).map ("?" ++ ·)).getD "" ++
              ((some f).map ("#" ++ ·)).getD "" = "#" ++ f := String.empty_append
          rw [hbegins, String.toList_append]
          exact pathPart_of_mark (.inr rfl) _
      | none => exact absurd ⟨hquery, hfragment⟩ h

namespace Web

variable {u : Url} {a : Authority} {front : List String} {last : String}

theorem last_of_opens (h : u.Web a front last) (hopens : u.Opens) : last = "" := by
  rcases hopens.slash with ⟨front', hpath⟩
  rw [h.path, UrlPath.segments.injEq] at hpath
  exact List.head_eq_of_cons_eq (List.append_inj_right' hpath rfl)

section Names

variable {names : List String} {name : String}

theorem parse?_of_opens (h : u.Web a front last) (hopens : u.Opens)
    (hnames : forall n, n ∈ names -> Steady n) (hname : Whole name) :
    parse? (u.display ++ String.intercalate "/" (names ++ [name])) =
      some { u with path := .segments (front ++ names ++ [written false (front ++ names)
        name.toList]) } := by
  have hhost : Host.ofSpecial? a.host.display.toList = some a.host := by
    rcases hopens.host with ⟨a', hauthority, hhost⟩
    rw [h.authority, Option.some.injEq] at hauthority
    rw [hauthority]
    exact hhost
  have hfront : forall s, s ∈ front ++ names -> Settled s := by
    intro s hs
    rcases List.mem_append.mp hs with hs | hs
    · exact h.settled s (List.mem_append_left _ hs)
    · exact (hnames s hs).settled
  rcases hname.parts with ⟨hpath, hquery, hfragment⟩
  rcases parts_append (firm_above fun s hs => (hnames s hs).settled) name.toList with
    ⟨habovePath, haboveQuery, haboveFragment⟩
  rw [h.parse?_append, hhost, Option.map_some, trailer_eq_nil hopens.query hopens.fragment,
    List.nil_append, toList_intercalate, habovePath, haboveQuery, haboveFragment, hpath, hquery,
    hfragment, h.last_of_opens hopens]
  have habove : above front ++ (("" : String).toList ++ (above names ++ name.toList)) =
      above (front ++ names) ++ name.toList := by
    unfold above
    rw [List.flatMap_append, List.append_assoc]
    rfl
  have hpieces : splitBy isSlash name.toList = [name.toList] :=
    splitBy_of_none fun c hc => (hname.plain c hc).1
  rw [habove, specialSegments_above hfront, hpieces, descend, hname.not_level.1,
    hname.not_level.2, if_neg Bool.false_ne_true, if_neg Bool.false_ne_true, descend,
    Option.map_none, Option.map_none]
  have hauthority := h.authority
  have hnoQuery := hopens.query
  have hnoFragment := hopens.fragment
  cases u
  simp only at hauthority hnoQuery hnoFragment ⊢
  rw [hauthority, hnoQuery, hnoFragment]

theorem standsFor_of_opens (hnames : forall n, n ∈ names -> Steady n) (hname : Whole name)
    {u' : Url} (hpath : u'.path = .segments (front ++ names ++ [written false (front ++ names)
      name.toList])) : u'.StandsFor (front ++ [""]) (names ++ [name]) := by
  have hwritten : meaning (written false (front ++ names) name.toList) = Utf8.ofString name := by
    unfold meaning written marked
    rw [String.toList_ofList]
    exact (Percent.decode_encode_of_sparing Percent.sparing_inPath _).trans hname.spelled
  have hmeanings : names.map meaning = names.map Utf8.ofString :=
    List.map_congr_left fun n hn => (hnames n hn).spelled
  refine ⟨_, hpath, ?_⟩
  rw [levels_concat_empty, List.map_append, List.map_append, List.map_append, hmeanings,
    List.map_singleton, List.map_singleton, hwritten, List.append_assoc]

theorem splitBy_below (hfirst : names ≠ []) (hnames : forall n, n ∈ names -> Steady n)
    (hlast : Settled last) (text : List Char) :
    exists pieces, splitBy isSlash (last.toList ++ (above names ++ text)) =
      pieces ++ splitBy isSlash text := by
  cases names with
  | nil => exact absurd rfl hfirst
  | cons n names =>
      have hn := (hnames n List.mem_cons_self).settled
      have hjoined : forall c, c ∈ last.toList ++ n.toList -> isSlash c = false := by
        intro c hc
        rcases List.mem_append.mp hc with hc | hc
        · exact hlast.whole c hc
        · exact hn.whole c hc
      refine ⟨(last.toList ++ n.toList) :: names.map String.toList, ?_⟩
      rw [above_cons, List.append_assoc, List.cons_append, ← List.append_assoc,
        splitBy_append hjoined (by decide),
        splitBy_above fun s hs => (hnames s (List.mem_cons_of_mem _ hs)).settled.whole]
      rfl

theorem whole_of_standsFor (hfirst : names ≠ []) (hnames : forall n, n ∈ names -> Steady n)
    (hlast : Settled last) {base : List (List UInt8)}
    (h : (descend false front (splitBy isSlash (last.toList ++
        (above names ++ pathPart name.toList)))).map meaning =
      base ++ (names ++ [name]).map Utf8.ofString) : Whole name := by
  rcases splitBy_below hfirst hnames hlast (pathPart name.toList) with ⟨pieces, hpieces⟩
  rcases List.eq_nil_or_concat (splitBy isSlash (pathPart name.toList)) with hnil |
    ⟨before, piece, hlastPiece⟩
  · exact absurd hnil (splitBy_ne_nil _ _)
  rw [List.concat_eq_append] at hlastPiece
  rcases getLast?_descend (pieces ++ before) piece front with ⟨segment, hsegment, hmeaning⟩
  rw [List.append_assoc, ← hlastPiece, ← hpieces] at hsegment
  have hread : meaning segment = Utf8.ofString name := by
    rcases List.getLast?_eq_some_iff.mp hsegment with ⟨others, hothers⟩
    rw [hothers, List.map_append, List.map_append, ← List.append_assoc, List.map_singleton,
      List.map_singleton] at h
    exact List.head_eq_of_cons_eq (List.append_inj_right' h rfl)
  have hmem : piece ∈ splitBy isSlash (pathPart name.toList) := by
    rw [hlastPiece]
    exact List.mem_append_right _ List.mem_cons_self
  rcases hmeaning with rfl | ⟨habove, hsame, hmeaning⟩
  · obtain rfl : "" = name := Utf8.ofString_injective hread
    exact whole_empty
  · rw [hmeaning] at hread
    refine whole_of_piece hmem hread ?_
    unfold isSkipped
    rw [Bool.or_eq_false_iff, beq_eq_false_iff_ne, beq_eq_false_iff_ne]
    constructor
    · rintro rfl
      rw [(isSame_iff piece).mpr hread] at hsame
      cases hsame
    · rintro rfl
      rw [(isAbove_iff piece).mpr hread] at habove
      cases habove

theorem length_pieces (hlast : Settled last) (hnames : forall n, n ∈ names -> Steady n)
    (hname : Whole name) :
    (splitBy isSlash (last.toList ++ (above names ++ name.toList))).length = names.length + 1 := by
  rw [length_splitBy_append hlast.whole, splitBy_above fun n hn => (hnames n hn).settled.whole,
    splitBy_of_none fun c hc => (hname.plain c hc).1, List.length_append, List.length_map,
    List.length_singleton]

theorem ends_of_standsFor (h : u.Web a front last) (hfirst : (names ++ [name]).head? ≠ some "")
    {text : List Char}
    (hmeaning : (specialSegments (above front ++ (last.toList ++
        pathPart (u.trailer ++ text)))).map meaning =
      (levels (front ++ [last])).map meaning ++ (names ++ [name]).map Utf8.ofString) :
    u.query = none ∧ u.fragment = none := by
  by_contra hends
  rw [pathPart_trailer hends, List.append_nil, specialSegments_settled h.settled] at hmeaning
  cases names with
  | nil => exact not_standsFor_self (fun hempty => hfirst (by simp [hempty])) hmeaning
  | cons n names => exact not_standsFor_self (fun hempty => hfirst (by simp [hempty])) hmeaning

/-- There are as many pieces as names, so that all levels of the path have to be there before. -/
theorem last_of_standsFor (hlast : Settled last) (hnames : forall n, n ∈ names -> Steady n)
    (hname : Whole name)
    (hmeaning : (descend false front (splitBy isSlash (last.toList ++
        (above names ++ name.toList)))).map meaning =
      (levels (front ++ [last])).map meaning ++ (names ++ [name]).map Utf8.ofString) :
    last = "" := by
  by_contra hslash
  have hdescend := length_descend_le
    (splitBy isSlash (last.toList ++ (above names ++ name.toList))) front
  rw [length_pieces hlast hnames hname] at hdescend
  have hlength := congrArg List.length hmeaning
  rw [levels_concat hslash] at hlength
  simp only [List.length_map, List.length_append, List.length_singleton] at hlength
  omega

/--
Names that are put behind the text of a URL are read back below its path if and only if the URL
opens and the last name is whole.
-/
theorem standsFor_iff (h : u.Web a front last) (hnames : forall n, n ∈ names -> Steady n)
    (hfirst : (names ++ [name]).head? ≠ some "") (hname : names = [] -> Whole name) :
    (exists u', parse? (u.display ++ String.intercalate "/" (names ++ [name])) = some u' ∧
      u'.authority = u.authority ∧ u'.StandsFor (front ++ [last]) (names ++ [name])) ↔
      u.Opens ∧ Whole name := by
  constructor
  · rintro ⟨u', hparse, hauthority, path, hpath, hmeaning⟩
    rw [h.parse?_append] at hparse
    rcases Option.map_eq_some_iff.mp hparse with ⟨host, hhost, rfl⟩
    rw [h.authority, Option.some.injEq] at hauthority
    have hsame : host = a.host := congrArg Authority.host hauthority
    rw [UrlPath.segments.injEq] at hpath
    subst hpath
    have hends := h.ends_of_standsFor hfirst hmeaning
    have hlast : Settled last := h.settled last (by simp)
    have hfront : forall s, s ∈ front -> Settled s :=
      fun s hs => h.settled s (List.mem_append_left _ hs)
    rw [trailer_eq_nil hends.1 hends.2, List.nil_append, toList_intercalate,
      (parts_append (firm_above fun s hs => (hnames s hs).settled) name.toList).1,
      specialSegments_above hfront] at hmeaning
    have hwhole : Whole name := by
      by_cases hnone : names = []
      · exact hname hnone
      · exact whole_of_standsFor hnone hnames hlast hmeaning
    rw [hwhole.parts.1] at hmeaning
    obtain rfl := last_of_standsFor hlast hnames hwhole hmeaning
    exact ⟨⟨hends.1, hends.2, ⟨front, h.path⟩, a, h.authority, by rw [hhost, hsame]⟩, hwhole⟩
  · rintro ⟨hopens, hwhole⟩
    refine ⟨_, h.parse?_of_opens hopens hnames hwhole, rfl, ?_⟩
    rw [h.last_of_opens hopens]
    exact standsFor_of_opens hnames hwhole rfl

end Names

end Web

end Url
end ContentGateway
