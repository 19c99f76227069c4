import ContentGateway.Proofs.Url.Authority
import ContentGateway.Proofs.Url.Segments

/-!
# Paths put behind URLs

What is read where a text stands behind the written form of a URL.  The text adds to the path
only if the URL ends in a slash, and then it adds the segments that it was made of, as long as
each of them comes out of a path as it was put in.
-/

namespace ContentGateway
namespace Url

/-!
# Parts of a text
-/

def cleanEnd (text : List Char) : List Char :=
  (text.rdropWhile fun c => c.toNat ≤ 0x20).filter fun c => !isLineBreak c

def pathPart (text : List Char) : List Char :=
  (cut '?' (cut '#' (cleanEnd text)).1).1

def queryPart (text : List Char) : Option (List Char) :=
  (cut '?' (cut '#' (cleanEnd text)).1).2

def fragmentPart (text : List Char) : Option (List Char) :=
  (cut '#' (cleanEnd text)).2

theorem visible_of_firm {c : Char} (h : isFirm c = true) : 0x20 < c.toNat ∧ c ≠ '?' ∧ c ≠ '#' := by
  simpa [isFirm] using h

theorem not_isLineBreak_of_visible {c : Char} (h : 0x20 < c.toNat) : isLineBreak c = false := by
  unfold isLineBreak
  rw [Bool.or_eq_false_iff, Bool.or_eq_false_iff, beq_eq_false_iff_ne, beq_eq_false_iff_ne,
    beq_eq_false_iff_ne]
  refine ⟨⟨?_, ?_⟩, ?_⟩
  · rintro rfl
    exact absurd h (by decide)
  · rintro rfl
    exact absurd h (by decide)
  · rintro rfl
    exact absurd h (by decide)

theorem cleanEnd_append {front : List Char} (h : forall c, c ∈ front -> 0x20 < c.toNat)
    (text : List Char) : cleanEnd (front ++ text) = front ++ cleanEnd text := by
  have hvisible : forall c, c ∈ front -> decide (c.toNat ≤ 0x20) = false :=
    fun c hc => decide_eq_false (Nat.not_le.mpr (h c hc))
  have hkept : front.filter (fun c => !isLineBreak c) = front := by
    rw [List.filter_eq_self]
    intro c hc
    rw [not_isLineBreak_of_visible (h c hc)]
    rfl
  unfold cleanEnd
  rw [rdropWhile_append hvisible, List.filter_append, hkept]

theorem clean_append {front : List Char} (hfront : front ≠ [])
    (h : forall c, c ∈ front -> 0x20 < c.toNat) (text : List Char) :
    clean (front ++ text) = front ++ cleanEnd text := by
  have hvisible : forall c, c ∈ front -> decide (c.toNat ≤ 0x20) = false :=
    fun c hc => decide_eq_false (Nat.not_le.mpr (h c hc))
  rw [← cleanEnd_append h]
  unfold clean cleanEnd
  rw [trimBy_append hfront hvisible, rdropWhile_append hvisible]

theorem cut_append {c : Char} {front : List Char} (h : c ∉ front) (text : List Char) :
    cut c (front ++ text) = (front ++ (cut c text).1, (cut c text).2) := by
  rcases takeWhile_append_of_absent h text with ⟨htake, hdrop⟩
  unfold cut splitFirst
  rw [htake, hdrop]
  cases text.dropWhile (· != c) with
  | nil => rfl
  | cons d after => rfl

theorem cut_of_absent {c : Char} {text : List Char} (h : c ∉ text) : cut c text = (text, none) := by
  unfold cut
  rw [splitFirst_of_absent h]

theorem cut_self (c : Char) (text : List Char) : cut c (c :: text) = ([], some text) := by
  have hsplit := splitFirst_append (show c ∉ [] from List.not_mem_nil) text
  unfold cut
  rw [List.nil_append] at hsplit
  rw [hsplit]

theorem cut_fst (c : Char) (text : List Char) :
    c ∉ (cut c text).1 ∧ (cut c text).1.Sublist text := by
  unfold cut
  cases hsplit : splitFirst c text with
  | none =>
      refine ⟨?_, List.Sublist.refl _⟩
      intro hc
      rcases List.mem_iff_append.mp hc with ⟨front, after, rfl⟩
      unfold splitFirst at hsplit
      split at hsplit
      · next hdrop =>
          have hall := List.dropWhile_eq_nil_iff.mp hdrop c (by simp)
          simp at hall
      · cases hsplit
  | some parts =>
      unfold splitFirst at hsplit
      split at hsplit
      · cases hsplit
      · cases hsplit
        refine ⟨?_, List.takeWhile_sublist _⟩
        intro hc
        have hne := List.mem_takeWhile_imp hc
        simp at hne

section Firm

variable {front : List Char}

theorem absent_of_firm (h : forall c, c ∈ front -> isFirm c = true) : '?' ∉ front ∧ '#' ∉ front := by
  constructor
  · intro hc
    exact absurd (h _ hc) (by decide)
  · intro hc
    exact absurd (h _ hc) (by decide)

theorem parts_append (h : forall c, c ∈ front -> isFirm c = true) (text : List Char) :
    pathPart (front ++ text) = front ++ pathPart text ∧
      queryPart (front ++ text) = queryPart text ∧
      fragmentPart (front ++ text) = fragmentPart text := by
  rcases absent_of_firm h with ⟨hquery, hfragment⟩
  have hclean := cleanEnd_append (fun c hc => (visible_of_firm (h c hc)).1) text
  have hcut : cut '#' (cleanEnd (front ++ text)) =
      (front ++ (cut '#' (cleanEnd text)).1, (cut '#' (cleanEnd text)).2) := by
    rw [hclean, cut_append hfragment]
  unfold pathPart queryPart fragmentPart
  rw [hcut, cut_append hquery]
  exact ⟨rfl, rfl, rfl⟩

end Firm

theorem pathPart_of_mark {mark : Char} (h : mark = '?' ∨ mark = '#') (text : List Char) :
    pathPart (mark :: text) = [] := by
  have hvisible : forall c, c ∈ [mark] -> 0x20 < c.toNat := by
    intro c hc
    rw [List.mem_singleton.mp hc]
    rcases h with rfl | rfl
    · decide
    · decide
  have hclean := cleanEnd_append hvisible text
  rw [List.singleton_append, List.singleton_append] at hclean
  unfold pathPart
  rw [hclean]
  rcases h with rfl | rfl
  · have hcut := cut_append (show '#' ∉ ['?'] by decide) (cleanEnd text)
    rw [List.singleton_append, List.singleton_append] at hcut
    rw [hcut, cut_self]
  · rw [cut_self]
    rfl

theorem cleanEnd_sublist (text : List Char) : (cleanEnd text).Sublist text :=
  List.filter_sublist.trans (List.rdropWhile_prefix _ _).sublist

theorem pathPart_sublist_cleanEnd (text : List Char) : (pathPart text).Sublist (cleanEnd text) :=
  (cut_fst '?' _).2.trans (cut_fst '#' _).2

theorem pathPart_sublist (text : List Char) : (pathPart text).Sublist text :=
  (pathPart_sublist_cleanEnd text).trans (cleanEnd_sublist text)

/-!
# Names that are kept
-/

/-- A name that comes out of a path as it was put in. -/
structure Whole (name : String) : Prop where
  plain : forall c, c ∈ name.toList ->
    isSlash c = false ∧ isLineBreak c = false ∧ c ≠ '?' ∧ c ≠ '#'
  finished : forall c, name.toList.getLast? = some c -> 0x20 < c.toNat
  spelled : Percent.decode name.toList = Utf8.ofString name
  named : isSkipped name = false

theorem cleanEnd_eq_self_iff (text : List Char) :
    cleanEnd text = text ↔
      (forall c, text.getLast? = some c -> 0x20 < c.toNat) ∧
        forall c, c ∈ text -> isLineBreak c = false := by
  have hprefix : (text.rdropWhile fun c => decide (c.toNat ≤ 0x20)).Sublist text :=
    (List.rdropWhile_prefix _ _).sublist
  constructor
  · intro h
    have hdrop : (text.rdropWhile fun c => decide (c.toNat ≤ 0x20)) = text := by
      refine hprefix.eq_of_length_le ?_
      have hfilter : (cleanEnd text).length ≤
          (text.rdropWhile fun c => decide (c.toNat ≤ 0x20)).length :=
        List.filter_sublist.length_le
      rwa [h] at hfilter
    constructor
    · intro c hc
      rcases List.getLast?_eq_some_iff.mp hc with ⟨front, rfl⟩
      have hlast := List.rdropWhile_eq_self_iff.mp hdrop (by simp)
      simpa using hlast
    · intro c hc
      unfold cleanEnd at h
      rw [hdrop, List.filter_eq_self] at h
      simpa using h c hc
  · rintro ⟨hlast, hbreaks⟩
    have hdrop : (text.rdropWhile fun c => decide (c.toNat ≤ 0x20)) = text := by
      rw [List.rdropWhile_eq_self_iff]
      intro hne
      have hvisible := hlast _ (List.getLast?_eq_getLast_of_ne_nil hne)
      simpa using hvisible
    unfold cleanEnd
    rw [hdrop, List.filter_eq_self]
    intro c hc
    rw [hbreaks c hc]
    rfl

theorem Whole.parts {name : String} (h : Whole name) :
    pathPart name.toList = name.toList ∧ queryPart name.toList = none ∧
      fragmentPart name.toList = none := by
  have hclean : cleanEnd name.toList = name.toList :=
    (cleanEnd_eq_self_iff _).mpr ⟨h.finished, fun c hc => (h.plain c hc).2.1⟩
  have hfragment : '#' ∉ name.toList := fun hc => (h.plain _ hc).2.2.2 rfl
  have hquery : '?' ∉ name.toList := fun hc => (h.plain _ hc).2.2.1 rfl
  unfold pathPart queryPart fragmentPart
  rw [hclean, cut_of_absent hfragment, cut_of_absent hquery]
  exact ⟨rfl, rfl, rfl⟩

theorem Whole.not_level {name : String} (h : Whole name) :
    isAbove name.toList = false ∧ isSame name.toList = false := by
  have hskip : name ≠ "." ∧ name ≠ ".." := by
    have hnamed := h.named
    unfold isSkipped at hnamed
    simpa using hnamed
  constructor
  · rw [Bool.eq_false_iff, ne_eq, isAbove_iff, h.spelled]
    exact fun hsame => hskip.2 (Utf8.ofString_injective hsame)
  · rw [Bool.eq_false_iff, ne_eq, isSame_iff, h.spelled]
    exact fun hsame => hskip.1 (Utf8.ofString_injective hsame)

/-- A part of a text that is read as the whole text is the whole text. -/
theorem eq_of_sublist_of_decode {piece text : List Char} (hsublist : piece.Sublist text)
    (h : Percent.decode piece = Utf8.encode text) : piece = text := by
  have hbytes : (Utf8.encode piece).Sublist (Utf8.encode text) :=
    hsublist.flatMap Utf8.encodeChar
  have hlength := Percent.length_decode_le piece
  rw [h] at hlength
  exact Utf8.encode_injective (hbytes.eq_of_length_le hlength)

theorem clean_of_pathPart_eq_self {text : List Char} (h : pathPart text = text) :
    cleanEnd text = text ∧ '?' ∉ text ∧ '#' ∉ text := by
  have hclean : cleanEnd text = text := by
    refine (cleanEnd_sublist text).eq_of_length_le ?_
    have hlength := (pathPart_sublist_cleanEnd text).length_le
    rwa [h] at hlength
  have hcut : (cut '?' (cut '#' text).1).1 = text := by
    unfold pathPart at h
    rwa [hclean] at h
  rcases cut_fst '?' (cut '#' text).1 with ⟨hquery, hsublist⟩
  rw [hcut] at hquery hsublist
  exact ⟨hclean, hquery, fun hc => (cut_fst '#' text).1 (hsublist.subset hc)⟩

/-- A name is whole if the last piece of what counts as path in it is read as the name. -/
theorem whole_of_piece {name : String} {piece : List Char}
    (hpiece : piece ∈ splitBy isSlash (pathPart name.toList))
    (hread : Percent.decode piece = Utf8.ofString name)
    (hnamed : isSkipped name = false) : Whole name := by
  have hpart := pathPart_sublist name.toList
  have hname : piece = name.toList :=
    eq_of_sublist_of_decode ((sublist_of_mem_splitBy hpiece).trans hpart) hread
  have hwhole : pathPart name.toList = name.toList := by
    refine hpart.eq_of_length_le ?_
    rw [← hname]
    have hlength := (sublist_of_mem_splitBy hpiece).length_le
    rwa [hname] at hlength ⊢
  rcases clean_of_pathPart_eq_self hwhole with ⟨hclean, hquery, hfragment⟩
  rcases (cleanEnd_eq_self_iff _).mp hclean with ⟨hlast, hbreaks⟩
  refine ⟨?_, hlast, ?_, hnamed⟩
  · intro c hc
    refine ⟨not_separator_of_mem hpiece c (by rw [hname]; exact hc), hbreaks c hc, ?_, ?_⟩
    · rintro rfl
      exact hquery hc
    · rintro rfl
      exact hfragment hc
  · rw [← hname]
    exact hread

/-!
# URLs of web servers
-/

/-- A URL of a web server as it is read: an authority, and a path that ends in a last segment. -/
structure Web (u : Url) (a : Authority) (front : List String) (last : String) : Prop where
  scheme : u.scheme = "http" ∨ u.scheme = "https"
  authority : u.authority = some a
  path : u.path = .segments (front ++ [last])
  placed : a.Placed u.scheme
  settled : forall s, s ∈ front ++ [last] -> Settled s

def trailer (u : Url) : List Char :=
  ((u.query.map ("?" ++ ·)).getD "" ++ (u.fragment.map ("#" ++ ·)).getD "").toList

theorem isSpecial_of_web {scheme : String} (h : scheme = "http" ∨ scheme = "https") :
    isSpecial scheme = true := by
  rcases h with rfl | rfl
  · rfl
  · rfl

theorem web_of_parse? {text : String} {u : Url} (h : parse? text = some u)
    (hscheme : u.scheme = "http" ∨ u.scheme = "https") :
    exists a front last, u.Web a front last := by
  unfold parse? at h
  rcases Option.bind_eq_some_iff.mp h with ⟨⟨name, rest⟩, _, h⟩
  rcases Option.bind_eq_some_iff.mp h with ⟨scheme, _, h⟩
  rcases hfragment : cut '#' rest with ⟨behind, fragment⟩
  rcases hquery : cut '?' behind with ⟨place, query⟩
  simp only [hfragment, hquery] at h
  split at h
  · next hfile =>
      rcases Option.bind_eq_some_iff.mp h with ⟨p, _, h⟩
      cases h
      rw [beq_iff_eq] at hfile
      rcases hscheme with hscheme | hscheme
      · exact absurd (hfile.symm.trans hscheme) (by decide)
      · exact absurd (hfile.symm.trans hscheme) (by decide)
  split at h
  · next hspecial =>
      rcases Option.bind_eq_some_iff.mp h with ⟨p, hplace, h⟩
      cases h
      rcases Option.map_eq_some_iff.mp hplace with ⟨⟨a, path⟩, hspecialPlace, hsame⟩
      cases hsame
      unfold placeOfSpecial? at hspecialPlace
      rcases Option.bind_eq_some_iff.mp hspecialPlace with ⟨⟨a', rest'⟩, hauthority, hpath⟩
      cases hpath
      rcases specialSegments_eq_concat _ with ⟨front, last, hsegments⟩
      exact ⟨a, front, last, hscheme, rfl, congrArg UrlPath.segments hsegments,
        Authority.placed_of_authority? hspecial hauthority,
        fun s hs => settled_specialSegments _ s (hsegments ▸ hs)⟩
  · next hspecial =>
      rcases Option.bind_eq_some_iff.mp h with ⟨p, _, h⟩
      cases h
      exact absurd (isSpecial_of_web hscheme) hspecial

theorem placeOfSpecial?_front {scheme : String} {authority : List Char} (hsome : authority ≠ [])
    (h : forall c, c ∈ authority -> isSlash c = false) {behind : List Char}
    (hbehind : behind.takeWhile (fun c => !isSlash c) = []) :
    placeOfSpecial? scheme ('/' :: '/' :: (authority ++ behind)) =
      (authority? scheme authority).map fun p =>
        (p.1, .segments (specialSegments (behind.drop 1))) := by
  have hall : forall c, c ∈ authority -> (!isSlash c) = true := by
    intro c hc
    rw [h c hc]
    rfl
  have hslashes : ('/' :: '/' :: (authority ++ behind)).dropWhile isSlash =
      authority ++ behind := by
    cases authority with
    | nil => exact absurd rfl hsome
    | cons c rest =>
        have hc := h c List.mem_cons_self
        simp [hc, show isSlash '/' = true from rfl]
  have hdrop : behind.dropWhile (fun c => !isSlash c) = behind := by
    have hwhole := List.takeWhile_append_dropWhile (p := fun c => !isSlash c) (l := behind)
    rwa [hbehind] at hwhole
  unfold placeOfSpecial?
  simp only [hslashes]
  rw [List.takeWhile_append_of_pos hall, List.dropWhile_append_of_pos hall, hbehind, hdrop,
    List.append_nil]
  cases authority? scheme authority with
  | none => rfl
  | some p => rfl

theorem placeOfSpecial?_append {scheme : String} {authority : List Char} (hsome : authority ≠ [])
    (h : forall c, c ∈ authority -> isSlash c = false) (path : List Char) :
    placeOfSpecial? scheme ('/' :: '/' :: (authority ++ '/' :: path)) =
      (authority? scheme authority).map fun p => (p.1, .segments (specialSegments path)) :=
  placeOfSpecial?_front hsome h rfl

theorem parse?_of_clean {scheme : String} (hscheme : scheme = "http" ∨ scheme = "https")
    {text : String} {rest : List Char} (h : clean text.toList = scheme.toList ++ ':' :: rest) :
    parse? text =
      (placeOfSpecial? scheme (cut '?' (cut '#' rest).1).1).map fun place =>
        ⟨scheme, some place.1, place.2,
          (cut '?' (cut '#' rest).1).2.map fun q =>
            String.ofList (Percent.encode Percent.inSpecialQuery q),
          (cut '#' rest).2.map fun f =>
            String.ofList (Percent.encode Percent.inFragment f)⟩ := by
  unfold parse?
  rw [h]
  rcases hscheme with rfl | rfl
  · rw [splitFirst_append (by decide)]
    have hread : scheme? "http".toList = some "http" := by
      decide +kernel
    simp only [Option.bind_eq_bind, Option.bind_some, hread]
    cases placeOfSpecial? "http" (cut '?' (cut '#' rest).1).1 with
    | none => rfl
    | some place => rfl
  · rw [splitFirst_append (by decide)]
    have hread : scheme? "https".toList = some "https" := by
      decide +kernel
    simp only [Option.bind_eq_bind, Option.bind_some, hread]
    cases placeOfSpecial? "https" (cut '?' (cut '#' rest).1).1 with
    | none => rfl
    | some place => rfl

theorem parse?_of_authority {scheme : String} (hscheme : scheme = "http" ∨ scheme = "https")
    {place : List Char} (hsome : place ≠ [])
    (hplace : forall c, c ∈ place -> isFirm c = true ∧ isSlash c = false) {text : String}
    (htext : text.toList = scheme.toList ++ ':' :: '/' :: '/' :: place) :
    parse? text =
      (authority? scheme place).map fun p => ⟨scheme, some p.1, .segments [""], none, none⟩ := by
  have hfirm : forall c, c ∈ ':' :: '/' :: '/' :: place -> isFirm c = true := by
    intro c hc
    rw [List.mem_cons, List.mem_cons, List.mem_cons] at hc
    rcases hc with rfl | rfl | rfl | hc
    · decide
    · decide
    · decide
    · exact (hplace c hc).1
  have hvisible : forall c, c ∈ text.toList -> 0x20 < c.toNat := by
    intro c hc
    rw [htext] at hc
    rcases List.mem_append.mp hc with hc | hc
    · rcases hscheme with rfl | rfl
      · exact forall_of_all (P := fun c => 0x20 < c.toNat) (by decide) c hc
      · exact forall_of_all (P := fun c => 0x20 < c.toNat) (by decide) c hc
    · exact (visible_of_firm (hfirm c hc)).1
  have hclean : clean text.toList = scheme.toList ++ ':' :: '/' :: '/' :: place := by
    have hend : cleanEnd [] = [] := rfl
    have hwhole := clean_append (by rw [htext]; simp) hvisible []
    rw [List.append_nil, hend, List.append_nil] at hwhole
    rw [hwhole, htext]
  have hsegments : specialSegments [] = [""] := by
    decide +kernel
  have hread : placeOfSpecial? scheme ('/' :: '/' :: (place ++ [])) = _ :=
    placeOfSpecial?_front hsome (fun c hc => (hplace c hc).2) rfl
  rw [List.append_nil, List.drop_nil, hsegments] at hread
  rcases absent_of_firm fun c hc => hfirm c (List.mem_cons_of_mem _ hc) with ⟨hquery, hfragment⟩
  rw [parse?_of_clean hscheme hclean, cut_of_absent hfragment]
  simp only [cut_of_absent hquery, hread, Option.map_map, Option.map_none]
  rfl

theorem Settled.firm {segment : String} (h : Settled segment) :
    forall c, c ∈ segment.toList -> isFirm c = true := by
  intro c hc
  exact of_ascii (P := fun c => Percent.inPath c = false -> isFirm c = true) (by decide +kernel)
    (Percent.ascii_of_not_inPath (h.kept c hc)) (h.kept c hc)

theorem firm_above {segments : List String} (h : forall s, s ∈ segments -> Settled s) :
    forall c, c ∈ above segments -> isFirm c = true := by
  intro c hc
  rcases List.mem_flatMap.mp hc with ⟨s, hs, hc⟩
  rcases List.mem_append.mp hc with hc | hc
  · exact (h s hs).firm c hc
  · rw [List.mem_singleton.mp hc]
    decide

namespace Web

variable {u : Url} {a : Authority} {front : List String} {last : String}

def body (a : Authority) (front : List String) (last : String) : List Char :=
  '/' :: '/' :: (a.display.toList ++ '/' :: (above front ++ last.toList))

theorem toList_display (h : u.Web a front last) :
    u.display.toList = u.scheme.toList ++ ':' :: body a front last ++ u.trailer := by
  have hauthority : u.authorityText = "//" ++ a.display := by
    unfold authorityText
    rw [h.authority]
  have hcolon : ":".toList = [':'] := rfl
  have hslashes : "//".toList = ['/', '/'] := rfl
  unfold display trailer body
  rw [hauthority, h.path]
  simp [toList_display_segments, hcolon, hslashes]

theorem firm_body (h : u.Web a front last) : forall c, c ∈ body a front last -> isFirm c = true := by
  have hfront : forall s, s ∈ front -> Settled s :=
    fun s hs => h.settled s (List.mem_append_left _ hs)
  have hlast : Settled last := h.settled last (by simp)
  intro c hc
  simp only [body, List.mem_cons, List.mem_append] at hc
  rcases hc with rfl | rfl | hc | rfl | hc | hc
  · decide
  · decide
  · exact (h.placed.firm c hc).1
  · decide
  · exact firm_above hfront c hc
  · exact hlast.firm c hc

theorem visible (h : u.Web a front last) :
    forall c, c ∈ u.scheme.toList ++ ':' :: body a front last -> 0x20 < c.toNat := by
  intro c hc
  rcases List.mem_append.mp hc with hc | hc
  · have hall : u.scheme.toList.all (fun c => decide (0x20 < c.toNat)) = true := by
      rcases h.scheme with hscheme | hscheme
      · rw [hscheme]
        decide
      · rw [hscheme]
        decide
    simpa using List.all_eq_true.mp hall c hc
  · rcases List.mem_cons.mp hc with rfl | hc
    · decide
    · exact (visible_of_firm (h.firm_body c hc)).1

/-- What is read where a text stands behind the written form. -/
theorem parse?_append (h : u.Web a front last) (text : String) :
    parse? (u.display ++ text) =
      (Host.ofSpecial? a.host.display.toList).map fun host =>
        ⟨u.scheme, some { a with host := host },
          .segments (specialSegments
            (above front ++ (last.toList ++ pathPart (u.trailer ++ text.toList)))),
          (queryPart (u.trailer ++ text.toList)).map fun q =>
            String.ofList (Percent.encode Percent.inSpecialQuery q),
          (fragmentPart (u.trailer ++ text.toList)).map fun f =>
            String.ofList (Percent.encode Percent.inFragment f)⟩ := by
  have hclean : clean (u.display ++ text).toList = u.scheme.toList ++ ':' ::
      (body a front last ++ cleanEnd (u.trailer ++ text.toList)) := by
    rw [String.toList_append, h.toList_display, List.append_assoc, clean_append (by simp) h.visible]
    simp
  have hassoc : body a front last ++ pathPart (u.trailer ++ text.toList) =
      '/' :: '/' :: (a.display.toList ++ '/' ::
        (above front ++ (last.toList ++ pathPart (u.trailer ++ text.toList)))) := by
    simp [body]
  have hsome : a.display.toList ≠ [] := by
    rw [a.toList_display]
    intro hnil
    exact h.placed.host.filled (List.append_eq_nil_iff.mp (List.append_eq_nil_iff.mp hnil).2).1
  rcases absent_of_firm h.firm_body with ⟨hquery, hfragment⟩
  rw [parse?_of_clean h.scheme hclean, cut_append hfragment, cut_append hquery]
  show (placeOfSpecial? u.scheme (body a front last ++
    pathPart (u.trailer ++ text.toList))).map _ = _
  rw [hassoc, placeOfSpecial?_append hsome (fun c hc => (h.placed.firm c hc).2),
    Authority.authority?_display (isSpecial_of_web h.scheme) h.placed]
  cases Host.ofSpecial? a.host.display.toList with
  | none => rfl
  | some host => rfl

end Web

end Url
end ContentGateway
