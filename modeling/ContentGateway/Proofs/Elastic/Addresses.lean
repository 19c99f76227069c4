import ContentGateway.Proofs.Elastic.Server
import ContentGateway.Proofs.Text.Blank
import ContentGateway.Proofs.Url.Building

/-!
# Addresses of documents

The URL of a document stands for its index and its id exactly if both are kept as they are by
the building of URLs.  Names of levels and names with line breaks are not kept, and documents
under such ids share their URLs with others.
-/

namespace ContentGateway
namespace Elastic

variable {W : Type}

theorem Engine.url_eq_ok_iff {e : Engine W} {segments : List String} {u : Url} :
    e.url segments = .ok u ↔ e.settings.url.extend? segments = some u := by
  unfold url
  cases e.settings.url.extend? segments with
  | none => simp
  | some u' => simp

theorem ne_empty_of_nonBlank {text : String} (h : nonBlank (some text) ≠ none) : text ≠ "" := by
  rintro rfl
  exact h (by decide)

/-- The URL of a document stands for the base path, the index and the id. -/
def Engine.Locates (e : Engine W) (base : List String) (index id : String) : Prop :=
  exists u, e.url (Target.document index id).segments = .ok u ∧ u.StandsFor base [index, "_doc", id]

/-- Both the index and the id are kept where they are put below the base path. -/
structure Engine.Keeps (e : Engine W) (base : List String) (index id : String) : Prop where
  slashes : base ≠ ["", ""]
  name : Url.Kept e.settings.url.scheme (Url.levels base) index
  place : Url.Kept e.settings.url.scheme (Url.levels base ++ [index] ++ ["_doc"]) id

theorem kept_type (scheme : String) (above : List String) : Url.Kept scheme above "_doc" := by
  refine ⟨by decide, by decide, ?_⟩
  unfold Url.marked
  rw [if_neg]
  simp only [Bool.and_eq_true, not_and]
  intro _
  decide

theorem Engine.locates_iff {e : Engine W} {base : List String}
    (hbase : e.settings.url.path = .segments base) {index id : String} (hindex : index ≠ "")
    (hid : id ≠ "") : e.Locates base index id ↔ e.Keeps base index id := by
  have hnames : forall name, name ∈ [index, "_doc", id] -> name ≠ "" := by
    simp [hindex, hid]
  have hexists := Url.exists_standsFor_iff hbase (List.cons_ne_nil _ _) hnames
  unfold Locates
  simp only [Engine.url_eq_ok_iff]
  show (exists u, e.settings.url.extend? [index, "_doc", id] = some u ∧ _) ↔ _
  rw [hexists, Url.KeptAll, Url.KeptAll, Url.KeptAll, Url.KeptAll]
  constructor
  · rintro ⟨hslashes, hname, _, hplace, _⟩
    exact ⟨hslashes, hname, hplace⟩
  · intro h
    exact ⟨h.slashes, h.name, kept_type _ _, h.place, trivial⟩

def rootEngine : Engine Unit :=
  ⟨.unreachable fun _ => pure (),
    ⟨⟨"http", some ⟨"", "", .domain "es.test", some 9200⟩, .segments [""], none, none⟩,
      Settings.usualCluster, false, .ofSeconds 2⟩, pure ""⟩

theorem keeps_rootEngine : rootEngine.Keeps [""] (lowerCase "Docs") "50% a/b?#.." := by
  have hlower : lowerCase "Docs" = "docs" := by
    decide +kernel
  rw [hlower]
  exact ⟨by decide, ⟨by decide, by decide, by decide⟩, ⟨by decide, by decide, by decide⟩⟩

/--
The URL of a document below a base with a path stands for the segments of that path, the index
in lower case, `_doc` and the id, exactly if both names are kept; and documents whose names are
kept have the same URL only if they agree in both.
-/
theorem Engine.locates_documents (e : Engine W) {base : List String}
    (hbase : e.settings.url.path = .segments base) :
    (forall index id, nonBlank (some index) ≠ none -> nonBlank (some id) ≠ none ->
      (e.Locates base (lowerCase index) id ↔ e.Keeps base (lowerCase index) id)) ∧
    forall index id index' id', nonBlank (some index) ≠ none -> nonBlank (some id) ≠ none ->
      nonBlank (some index') ≠ none -> nonBlank (some id') ≠ none ->
      e.Keeps base (lowerCase index) id -> e.Keeps base (lowerCase index') id' ->
      e.url (Target.document (lowerCase index) id).segments =
        e.url (Target.document (lowerCase index') id').segments ->
      lowerCase index = lowerCase index' ∧ id = id' := by
  have hlocates : forall index id, nonBlank (some index) ≠ none -> nonBlank (some id) ≠ none ->
      (e.Locates base (lowerCase index) id ↔ e.Keeps base (lowerCase index) id) := by
    intro index id hindex hid
    exact e.locates_iff hbase (ne_empty_of_nonBlank (nonBlank_lowerCase hindex))
      (ne_empty_of_nonBlank hid)
  refine ⟨hlocates, ?_⟩
  intro index id index' id' hindex hid hindex' hid' hkeeps hkeeps' hsame
  rcases (hlocates index id hindex hid).mpr hkeeps with ⟨u, hu, hstands⟩
  rcases (hlocates index' id' hindex' hid').mpr hkeeps' with ⟨u', hu', hstands'⟩
  rw [hsame, hu', Except.ok.injEq] at hu
  subst hu
  have hnames := hstands.injective hstands'
  simp only [List.cons.injEq, and_true, true_and] at hnames
  exact hnames

theorem locates_documents_rootEngine :
    rootEngine.Locates [""] (lowerCase "Docs") "50% a/b?#.." ∧
      lowerCase "Docs" = lowerCase "DOCS" := by
  have hlower : lowerCase "DOCS" = lowerCase "Docs" := by
    decide +kernel
  have hkeeps : rootEngine.Keeps [""] (lowerCase "DOCS") "50% a/b?#.." := by
    rw [hlower]
    exact keeps_rootEngine
  rcases rootEngine.locates_documents rfl with ⟨hlocates, hinjective⟩
  constructor
  · exact (hlocates "Docs" "50% a/b?#.." (by decide) (by decide)).mpr keeps_rootEngine
  · refine (hinjective "Docs" "50% a/b?#.." "DOCS" "50% a/b?#.." (by decide) (by decide)
      (by decide) (by decide) keeps_rootEngine hkeeps ?_).1
    rw [hlower]

/-- An id with a tab has the URL of the id without it. -/
theorem tab_not_located :
    (exists u, rootEngine.url (Target.document (lowerCase "docs") "a\tb").segments = .ok u ∧
      rootEngine.url (Target.document (lowerCase "docs") "ab").segments = .ok u) ∧
    ¬ forall index id, nonBlank (some index) ≠ none -> nonBlank (some id) ≠ none ->
      rootEngine.Locates [""] (lowerCase index) id := by
  have hbase : rootEngine.settings.url.path = .segments [""] := rfl
  constructor
  · have hsame : rootEngine.settings.url.extend?
          (Target.document (lowerCase "docs") "a\tb").segments =
        rootEngine.settings.url.extend? (Target.document (lowerCase "docs") "ab").segments := by
      decide +kernel
    rw [Url.extend?_of_segments hbase, Url.extend?_of_segments hbase] at hsame
    refine ⟨_, Engine.url_eq_ok_iff.mpr (Url.extend?_of_segments hbase _), ?_⟩
    rw [Engine.url_eq_ok_iff, Url.extend?_of_segments hbase]
    exact hsame.symm
  · intro h
    have hlocates := h "docs" "a\tb" (by decide) (by decide)
    have hkeeps := (rootEngine.locates_iff hbase
      (ne_empty_of_nonBlank (nonBlank_lowerCase (by decide))) (by decide)).mp hlocates
    have hwhole := hkeeps.place.whole
    revert hwhole
    decide

end Elastic
end ContentGateway
