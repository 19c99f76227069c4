import Mathlib.Data.List.Induction
import ContentGateway.Proofs.Text.Ascii
import ContentGateway.Proofs.Url.Percent
import ContentGateway.Url.Building

/-!
# Segments below a path

Whether the segments that are added to a path are read back as the names that were given for
them.  A name is lost if it names a level, holds a line break, or is a drive at the beginning of
the path of a file; any other name is read back, whatever characters it has.
-/

namespace ContentGateway
namespace Url

def meaning (segment : String) : List UInt8 :=
  Percent.decode segment.toList

/-- The segments below which another one is put; the path that ends in its first slash has none. -/
def below (path : List String) : List String :=
  if path == [""] then [] else path

def levels (path : List String) : List String :=
  if path.getLast? == some "" then path.dropLast else path

def counted (name : String) : List Char :=
  name.toList.filter fun c => !isLineBreak c

def isSkipped (name : String) : Bool :=
  name == "." || name == ".."

theorem length_below_le (path : List String) : (below path).length ≤ path.length := by
  unfold below
  split
  · exact Nat.zero_le _
  · exact Nat.le_refl _

theorem below_of_ne {path : List String} (h : path ≠ [""]) : below path = path := by
  unfold below
  rw [if_neg (by simpa using h)]

/-!
# Drives
-/

theorem length_marked (isFile : Bool) (path : List String) (text : List Char) :
    (marked isFile path text).length = text.length := by
  unfold marked
  split
  · next h =>
      have hdrive : isDrive text = true := by
        simp only [Bool.and_eq_true] at h
        exact h.2
      unfold isDrive at hdrive
      split at hdrive
      · rfl
      · cases hdrive
  · rfl

/-- What is encoded keeps the characters that the name of a drive may have. -/
structure KeepsDrives (excluded : Char -> Bool) : Prop where
  letter : forall c, c.isAlpha = true -> excluded c = false
  mark : excluded ':' = false ∧ excluded '|' = false

theorem isDrive_of_letter {c : Char} (h : c.isAlpha = false) (rest : List Char) :
    isDrive (c :: rest) = false := by
  unfold isDrive
  split
  · next heq =>
      cases heq
      simp [h]
  · rfl

theorem isDrive_of_mark {d : Char} (h : d ≠ ':' ∧ d ≠ '|') (c : Char) (rest : List Char) :
    isDrive (c :: d :: rest) = false := by
  unfold isDrive
  split
  · next heq =>
      cases heq
      simp [h]
  · rfl

theorem isDrive_encode {excluded : Char -> Bool} (h : KeepsDrives excluded) (text : List Char) :
    isDrive (Percent.encode excluded text) = isDrive text := by
  cases text with
  | nil => rfl
  | cons c rest =>
      rcases Percent.encode_cons excluded c rest with hc | ⟨hc, after, hafter⟩
      · rw [hc]
        cases rest with
        | nil => rfl
        | cons d rest =>
            rcases Percent.encode_cons excluded d rest with hd | ⟨hd, after, hafter⟩
            · rw [hd]
              cases rest with
              | nil => rfl
              | cons e rest =>
                  rcases Percent.encode_cons excluded e rest with he | ⟨_, after, he⟩
                  · rw [he]
                    rfl
                  · rw [he]
                    rfl
            · have hmark : d ≠ ':' ∧ d ≠ '|' := by
                constructor
                · rintro rfl
                  rw [h.mark.1] at hd
                  cases hd
                · rintro rfl
                  rw [h.mark.2] at hd
                  cases hd
              rw [hafter, isDrive_of_mark hmark, isDrive_of_mark (by decide)]
      · have hletter : c.isAlpha = false := by
          cases halpha : c.isAlpha with
          | false => rfl
          | true =>
              rw [h.letter c halpha] at hc
              cases hc
        rw [hafter, isDrive_of_letter hletter, isDrive_of_letter (by decide)]

theorem encode_marked {excluded : Char -> Bool} (h : KeepsDrives excluded) (isFile : Bool)
    (path : List String) (text : List Char) :
    marked isFile path (Percent.encode excluded text) =
      Percent.encode excluded (marked isFile path text) := by
  unfold marked
  rw [isDrive_encode h]
  split
  · next hdrive =>
      have htext : isDrive text = true := by
        simp only [Bool.and_eq_true] at hdrive
        exact hdrive.2
      unfold isDrive at htext
      split at htext
      · next letter mark =>
          have hletter : letter.isAlpha = true := by
            simp only [Bool.and_eq_true] at htext
            exact htext.1
          rw [Percent.encode_cons_kept (h.letter letter hletter)]
          simp only [List.take, List.cons_append, List.nil_append]
          rw [Percent.encode_cons_kept (h.letter letter hletter),
            Percent.encode_cons_kept h.mark.1]
          rfl
      · cases htext
  · rfl

/-!
# Single segments
-/

def segmentExcludes (scheme : String) : Char -> Bool :=
  if isSpecial scheme then Percent.inSpecialSegment else Percent.inSegment

theorem keepsDrives_segment (scheme : String) : KeepsDrives (segmentExcludes scheme) := by
  unfold segmentExcludes
  split
  · refine ⟨?_, by decide⟩
    intro c hc
    exact of_ascii (P := fun c => c.isAlpha = true -> Percent.inSpecialSegment c = false)
      (by decide +kernel) (ascii_of_isAlpha hc) hc
  · refine ⟨?_, by decide⟩
    intro c hc
    exact of_ascii (P := fun c => c.isAlpha = true -> Percent.inSegment c = false)
      (by decide +kernel) (ascii_of_isAlpha hc) hc

theorem segmentExcludes_percent (scheme : String) : segmentExcludes scheme '%' = true := by
  unfold segmentExcludes
  split
  · decide
  · decide

theorem meaning_encodeSegment (scheme : String) (path : List String) (segment : List Char) :
    meaning (encodeSegment scheme path segment) =
      Utf8.encode (marked (scheme == "file") path segment) := by
  have hsegment : encodeSegment scheme path segment =
      String.ofList (Percent.encode (segmentExcludes scheme)
        (marked (scheme == "file") path segment)) := by
    rw [← encode_marked (keepsDrives_segment scheme)]
    rfl
  unfold meaning
  rw [hsegment, String.toList_ofList, Percent.decode_encode (segmentExcludes_percent scheme)]

/-- A name that is read back from its segment below a path. -/
structure Kept (scheme : String) (path : List String) (name : String) : Prop where
  named : isSkipped name = false
  whole : counted name = name.toList
  unmarked : marked (scheme == "file") path name.toList = name.toList

theorem isSkipped_of_dots {name : String} (h : counted name = name.toList)
    (hdots : counted name = ['.'] ∨ counted name = ['.', '.']) : isSkipped name = true := by
  rw [h] at hdots
  have hname : name = "." ∨ name = ".." := by
    rcases hdots with hdots | hdots
    · exact .inl (String.toList_inj.mp hdots)
    · exact .inr (String.toList_inj.mp hdots)
  rcases hname with rfl | rfl
  · rfl
  · rfl

theorem pushSegment_of_kept {scheme : String} {path : List String} {name : String}
    (h : Kept scheme (below path) name) :
    exists segment, pushSegment scheme path name = below path ++ [segment] ∧
      meaning segment = Utf8.ofString name := by
  have hdots : ¬ (counted name = ['.'] ∨ counted name = ['.', '.']) := by
    intro hdots
    exact absurd (isSkipped_of_dots h.whole hdots) (ne_true_of_eq_false h.named)
  rw [not_or] at hdots
  refine ⟨encodeSegment scheme (below path) (counted name), ?_, ?_⟩
  · unfold pushSegment
    have hskip := h.named
    unfold isSkipped at hskip
    rw [hskip]
    show (if counted name == ['.'] then _ else if counted name == ['.', '.'] then _ else _) = _
    rw [if_neg (by simpa using hdots.1), if_neg (by simpa using hdots.2)]
    rfl
  · rw [meaning_encodeSegment, h.whole, h.unmarked]
    rfl

theorem pushSegment_of_skipped {name : String} (h : isSkipped name = true) (scheme : String)
    (path : List String) : pushSegment scheme path name = path := by
  unfold isSkipped at h
  unfold pushSegment
  rw [h]
  rfl

theorem pushSegment_eq_concat (scheme : String) (path : List String) {name : String}
    (h : isSkipped name = false) :
    exists front segment, pushSegment scheme path name = front ++ [segment] ∧
      front.length ≤ (below path).length ∧
      (segment = "" ∨ front = below path ∧
        meaning segment = Utf8.encode (marked (scheme == "file") (below path) (counted name))) := by
  unfold isSkipped at h
  unfold pushSegment
  rw [h]
  show exists front segment, (if counted name == ['.'] then below path ++ [""]
    else if counted name == ['.', '.'] then ascend (below path) ++ [""]
    else below path ++ [encodeSegment scheme (below path) (counted name)]) = _ ∧ _
  split
  · exact ⟨_, _, rfl, Nat.le_refl _, .inl rfl⟩
  split
  · refine ⟨_, _, rfl, ?_, .inl rfl⟩
    unfold ascend
    simp only
    split
    · exact Nat.le_refl _
    · rw [List.length_dropLast]
      exact Nat.sub_le _ _
  · exact ⟨_, _, rfl, Nat.le_refl _, .inr ⟨rfl, meaning_encodeSegment _ _ _⟩⟩

theorem kept_of_meaning {scheme : String} {path : List String} {name : String}
    (h : isSkipped name = false)
    (hmeaning : Utf8.encode (marked (scheme == "file") path (counted name)) =
      Utf8.ofString name) : Kept scheme path name := by
  have hmarked := Utf8.encode_injective hmeaning
  have hlength : (counted name).length = name.toList.length := by
    rw [← length_marked (scheme == "file") path (counted name), hmarked]
  have hwhole : counted name = name.toList :=
    List.filter_eq_self.mpr (List.length_filter_eq_length_iff.mp hlength)
  rw [hwhole] at hmarked
  exact ⟨h, hwhole, hmarked⟩

/-!
# Sequences of segments
-/

section Sequences

variable {scheme : String} {path : List String}

def KeptAll (scheme : String) : List String -> List String -> Prop
  | _, [] => True
  | above, name :: rest => Kept scheme above name ∧ KeptAll scheme (above ++ [name]) rest

theorem keptAll_concat (names : List String) (above : List String) (name : String) :
    KeptAll scheme above (names ++ [name]) ↔
      KeptAll scheme above names ∧ Kept scheme (above ++ names) name := by
  induction names generalizing above with
  | nil => simp [KeptAll]
  | cons first rest ih =>
      rw [List.cons_append, KeptAll, KeptAll, ih, List.append_assoc, and_assoc]
      rfl

theorem Kept.congr {above above' : List String} {name : String} (h : Kept scheme above name)
    (hempty : above.isEmpty = above'.isEmpty) : Kept scheme above' name := by
  refine ⟨h.named, h.whole, ?_⟩
  have hunmarked := h.unmarked
  unfold marked at hunmarked ⊢
  rw [← hempty]
  exact hunmarked

theorem length_below_push_le (scheme : String) (path : List String) (name : String) :
    (below (pushSegment scheme path name)).length ≤ (below path).length + 1 := by
  cases hskip : isSkipped name with
  | true =>
      rw [pushSegment_of_skipped hskip]
      exact Nat.le_succ _
  | false =>
      rcases pushSegment_eq_concat scheme path hskip with ⟨front, segment, hpush, hfront, _⟩
      rw [hpush]
      refine Nat.le_trans (length_below_le _) ?_
      rw [List.length_append]
      exact Nat.add_le_add_right hfront 1

theorem length_below_foldl_le (scheme : String) (names path : List String) :
    (below (names.foldl (pushSegment scheme) path)).length ≤
      (below path).length + names.length := by
  induction names generalizing path with
  | nil => exact Nat.le_refl _
  | cons name rest ih =>
      rw [List.foldl_cons, List.length_cons]
      refine Nat.le_trans (ih _) ?_
      have hpush := length_below_push_le scheme path name
      omega

theorem ofString_ne_nil {name : String} (h : name ≠ "") : Utf8.ofString name ≠ [] := by
  intro hnil
  have hempty : Utf8.ofString name = Utf8.ofString "" := hnil
  exact h (Utf8.ofString_injective hempty)

theorem isEmpty_congr {α β : Type} {l : List α} {l' : List β} (h : l.length = l'.length) :
    l.isEmpty = l'.isEmpty := by
  cases l with
  | nil =>
      rw [List.eq_nil_of_length_eq_zero h.symm]
      rfl
  | cons a l =>
      cases l' with
      | nil => cases h
      | cons b l' => rfl

theorem below_concat {segment name : String} (hname : name ≠ "")
    (h : meaning segment = Utf8.ofString name) (front : List String) :
    below (front ++ [segment]) = front ++ [segment] := by
  apply below_of_ne
  intro hempty
  cases front with
  | nil =>
      rw [List.nil_append, List.cons.injEq] at hempty
      rw [hempty.1] at h
      exact ofString_ne_nil hname h.symm
  | cons first rest =>
      have hlength := congrArg List.length hempty
      simp at hlength

/-- A path is read back as what was put below another one exactly if every name is. -/
theorem below_foldl_meaning_iff {names : List String}
    (hnames : forall name, name ∈ names -> name ≠ "") :
    (below (names.foldl (pushSegment scheme) path)).map meaning =
        (below path).map meaning ++ names.map Utf8.ofString ↔
      KeptAll scheme (below path) names := by
  -- the last name stands at the end of the path, so the induction takes it off first
  induction names using List.reverseRecOn with
  | nil => simp [KeptAll]
  | append_singleton names name ih =>
      have hnames' := ih fun n hn => hnames n (List.mem_append_left _ hn)
      have hname : name ≠ "" := hnames name (by simp)
      rw [keptAll_concat, ← hnames', List.foldl_concat, List.map_append, List.map_singleton,
        ← List.append_assoc]
      have hshort := length_below_foldl_le scheme names path
      constructor
      · intro h
        have hlength : (below (pushSegment scheme (names.foldl (pushSegment scheme) path)
            name)).length = (below path).length + names.length + 1 := by
          have hmapped := congrArg List.length h
          simpa [Nat.add_assoc] using hmapped
        cases hskip : isSkipped name with
        | true =>
            rw [pushSegment_of_skipped hskip] at hlength
            omega
        | false =>
            rcases pushSegment_eq_concat scheme (names.foldl (pushSegment scheme) path) hskip with
              ⟨front, segment, hpush, hfront, hsegment⟩
            rw [hpush] at h hlength
            have hne : front ++ [segment] ≠ [""] := by
              intro hempty
              rw [hempty] at hlength
              cases hlength
            rw [below_of_ne hne, List.map_append, List.map_singleton] at h
            rcases List.append_inj' h rfl with ⟨hinner, hlast⟩
            have hmeaning := (List.cons.inj hlast).1
            rcases hsegment with rfl | ⟨rfl, hread⟩
            · exact absurd hmeaning.symm (ofString_ne_nil hname)
            · rw [hread] at hmeaning
              refine ⟨hinner, (kept_of_meaning hskip hmeaning).congr (isEmpty_congr ?_)⟩
              have hmapped := congrArg List.length hinner
              simpa using hmapped
      · rintro ⟨h, hkept⟩
        have hplace : (below path ++ names).length =
            (below (names.foldl (pushSegment scheme) path)).length := by
          have hmapped := congrArg List.length h
          simpa using hmapped.symm
        rcases pushSegment_of_kept (hkept.congr (isEmpty_congr hplace)) with
          ⟨segment, hpush, hmeaning⟩
        rw [hpush, below_concat hname hmeaning, List.map_append, h, List.map_singleton, hmeaning]

end Sequences

/-!
# Segments added to a URL
-/

theorem below_withoutFinalSlash {base : List String} (h : base ≠ ["", ""]) :
    below (withoutFinalSlash base) = levels base := by
  unfold withoutFinalSlash levels
  cases hlast : base.getLast? == some "" with
  | false =>
      rw [Bool.false_and, if_neg Bool.false_ne_true]
      apply below_of_ne
      rintro rfl
      cases hlast
  | true =>
      rw [Bool.true_and, if_pos rfl]
      rcases List.getLast?_eq_some_iff.mp (beq_iff_eq.mp hlast) with ⟨front, rfl⟩
      rw [List.dropLast_concat]
      cases front with
      | nil => rfl
      | cons first rest =>
          rw [if_pos (by simp)]
          apply below_of_ne
          intro hfront
          exact h (by rw [hfront]; rfl)

/-- A URL whose path stands for that of another one and, below it, for names. -/
def StandsFor (base names : List String) (u : Url) : Prop :=
  exists path, u.path = .segments path ∧
    path.map meaning = (levels base).map meaning ++ names.map Utf8.ofString

theorem extend?_of_segments {u : Url} {base : List String} (h : u.path = .segments base)
    (names : List String) :
    u.extend? names = some { u with
      path := .segments (names.foldl (pushSegment u.scheme) (withoutFinalSlash base)) } := by
  unfold extend?
  rw [h]

theorem below_of_meaning {path names : List String} {front : List (List UInt8)}
    (hsome : names ≠ []) (hnames : forall name, name ∈ names -> name ≠ "")
    (h : path.map meaning = front ++ names.map Utf8.ofString) : below path = path := by
  apply below_of_ne
  rintro rfl
  rcases List.exists_mem_of_ne_nil names hsome with ⟨name, hname⟩
  have hmem : Utf8.ofString name ∈ [""].map meaning := by
    rw [h]
    exact List.mem_append_right _ (List.mem_map_of_mem hname)
  exact ofString_ne_nil (hnames name hname) (List.mem_singleton.mp hmem)

theorem exists_standsFor_iff {u : Url} {base : List String} (hbase : u.path = .segments base)
    {names : List String} (hsome : names ≠ []) (hnames : forall name, name ∈ names -> name ≠ "") :
    (exists u', u.extend? names = some u' ∧ u'.StandsFor base names) ↔
      base ≠ ["", ""] ∧ KeptAll u.scheme (levels base) names := by
  have hpath : (exists u', u.extend? names = some u' ∧ u'.StandsFor base names) ↔
      (names.foldl (pushSegment u.scheme) (withoutFinalSlash base)).map meaning =
        (levels base).map meaning ++ names.map Utf8.ofString := by
    rw [extend?_of_segments hbase]
    constructor
    · rintro ⟨u', hu', path, hpath, hmeaning⟩
      cases hu'
      cases hpath
      exact hmeaning
    · intro hmeaning
      exact ⟨_, rfl, _, rfl, hmeaning⟩
  rw [hpath]
  by_cases hslashes : base = ["", ""]
  · -- the path without its final slash is taken for one that has no segments
    have hshort := length_below_foldl_le u.scheme names (withoutFinalSlash base)
    subst hslashes
    constructor
    · intro h
      have hlength := congrArg List.length h
      rw [below_of_meaning hsome hnames h] at hshort
      have hnone : (below (withoutFinalSlash ["", ""])).length = 0 := rfl
      have hone : (levels ["", ""]).length = 1 := rfl
      rw [List.length_map, List.length_append, List.length_map, List.length_map] at hlength
      omega
    · rintro ⟨h, _⟩
      exact absurd rfl h
  · rw [← below_withoutFinalSlash hslashes, ← below_foldl_meaning_iff hnames]
    constructor
    · intro h
      refine ⟨hslashes, ?_⟩
      rw [below_of_meaning hsome hnames h]
      exact h
    · rintro ⟨_, h⟩
      have hne : names.foldl (pushSegment u.scheme) (withoutFinalSlash base) ≠ [""] := by
        intro hslash
        rw [hslash] at h
        rcases List.append_eq_nil_iff.mp h.symm with ⟨_, hnil⟩
        exact hsome (List.map_eq_nil_iff.mp hnil)
      rw [below_of_ne hne] at h
      exact h

/-- Names that are read back are told apart by their URLs. -/
theorem StandsFor.injective {u : Url} {base names names' : List String}
    (h : u.StandsFor base names) (h' : u.StandsFor base names') : names = names' := by
  rcases h with ⟨path, hpath, hmeaning⟩
  rcases h' with ⟨path', hpath', hmeaning'⟩
  rw [hpath, UrlPath.segments.injEq] at hpath'
  subst hpath'
  rw [hmeaning, List.append_cancel_left_eq] at hmeaning'
  exact List.map_injective_iff.mpr (fun _ _ hsame => Utf8.ofString_injective hsame) hmeaning'

end Url
end ContentGateway
