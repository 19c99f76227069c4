import ContentGateway.Ipfs.Cluster
import ContentGateway.Proofs.DomainName
import ContentGateway.Proofs.Json.Characters
import ContentGateway.Proofs.Json.Record
import ContentGateway.Proofs.Json.Text
import ContentGateway.Proofs.Text.Ascii
import ContentGateway.Proofs.Text.Pieces

/-!
# Lists of pins

The pins of a cluster are read alike from an array and line by line.  An entry takes one
line, since a compact text holds no line ends, and what an entry says besides the identity
is passed over, whatever it is and however deep it is nested.
-/

namespace ContentGateway
namespace Ipfs
namespace Cluster

open JsonText

/-!
# Entries
-/

/-- A pin as it is listed: its identity, written as a string or as a link, among other members. -/
structure Entry where
  id : String
  isLink : Bool
  before : List (String × Json)
  after : List (String × Json)
  others : forall e, e ∈ before ++ after -> e.1 ≠ "cid"

namespace Entry

def identity (e : Entry) : Json :=
  if e.isLink then .object [("/", .string e.id)] else .string e.id

def toJson (e : Entry) : Json :=
  .object (e.before ++ ("cid", e.identity) :: e.after)

def chars (e : Entry) : List Char :=
  Json.render e.toJson

end Entry

theorem fillMembers_within {σ : Type} {slots : List (Slot σ)} {members : List (String × Json)}
    (h : forall m, m ∈ members -> Slot.knows slots m.1 = false) (room : Nat)
    (rest : List (Option String × Tree)) (seen : List String) (r : σ) :
    Slot.fillMembers slots (membersWithin room members ++ rest) seen r =
      Slot.fillMembers slots rest seen r := by
  induction members with
  | nil => rfl
  | cons m members ih =>
      rcases m with ⟨k, v⟩
      rcases List.forall_mem_cons.mp h with ⟨hslot, hothers⟩
      have hfind : slots.find? (fun s => s.names.contains k) = none :=
        Option.not_isSome_iff_eq_none.mp (Bool.eq_false_iff.mp hslot)
      rw [membersWithin, List.cons_append, Slot.fillMembers, hfind]
      simp only [passable_treeWithin, if_true]
      exact ih hothers

theorem knows_cid {name : String} (h : name ≠ "cid") :
    Slot.knows [.required "cid" Cluster.identity fun s _ => s] name = false := by
  have hname : ["cid"].contains name = false := by
    simpa using h
  unfold Slot.knows
  rw [List.find?_cons_of_neg]
  · rfl
  · exact Bool.eq_false_iff.mp hname

theorem identity_within (e : Entry) {room : Nat} (hroom : 0 < room) :
    Cluster.identity (treeWithin room e.identity) = .ok e.id := by
  unfold Entry.identity
  split
  · rw [treeWithin, bounded_of_pos hroom]
    rfl
  · rfl

theorem pinReading_within (e : Entry) {room : Nat} (hroom : 1 < room) :
    pinReading (treeWithin room e.toJson) = .ok e.id := by
  have hidentity : Cluster.identity (treeWithin (room - 1) e.identity) = .ok e.id :=
    identity_within e (by omega)
  have hbefore : forall m, m ∈ e.before -> m.1 ≠ "cid" :=
    fun m hm => e.others m (List.mem_append_left _ hm)
  have hafter : forall m, m ∈ e.after -> m.1 ≠ "cid" :=
    fun m hm => e.others m (List.mem_append_right _ hm)
  have hmembers : membersWithin (room - 1) (e.before ++ ("cid", e.identity) :: e.after) =
      membersWithin (room - 1) e.before ++
        (some "cid", treeWithin (room - 1) e.identity) ::
          (membersWithin (room - 1) e.after ++ []) := by
    rw [membersWithin_eq_map, membersWithin_eq_map, membersWithin_eq_map, List.map_append,
      List.map_cons, List.append_nil]
  have hfill : Slot.fillMembers [.required "cid" Cluster.identity fun s _ => s]
      (membersWithin (room - 1) (e.before ++ ("cid", e.identity) :: e.after)) [] "" =
        .ok (["cid"], e.id) := by
    rw [hmembers, fillMembers_within fun m hm => knows_cid (hbefore m hm),
      Slot.fillMembers_new (k := "cid") rfl rfl List.not_mem_nil (Slot.fill_required hidentity ..),
      fillMembers_within fun m hm => knows_cid (hafter m hm)]
    rfl
  rw [Entry.toJson, treeWithin, bounded_of_pos (by omega), pinReading, Reading.record,
    Reading.object, hfill]
  · rfl
  · intro items complete heq
    cases heq
  · intro items complete heq
    cases heq

/-!
# Arrays
-/

theorem readStringAs_compact {α : Type} (read : Reading α) (v : Json) :
    readStringAs read v.compact = read (treeWithin maxDepth v) := by
  unfold readStringAs readAs
  rw [Json.compact, String.toList_ofList, tree_render_within]
  simp only [if_true]
  cases read (treeWithin maxDepth v) with
  | error fault => rfl
  | ok answer => rfl

theorem list_entries (entries : List Entry) :
    Reading.list pinReading (treeWithin maxDepth (.array (entries.map Entry.toJson))) =
      .ok (entries.map Entry.id) := by
  have hitems : Reading.listItems pinReading
      (entries.map (treeWithin (maxDepth - 1) ∘ Entry.toJson)) = .ok (entries.map Entry.id) :=
    Reading.listItems_map fun e _ => pinReading_within e (by decide)
  rw [treeWithin, bounded_of_pos (by decide), itemsWithin_eq_map, List.map_map, Reading.list, hitems]
  rfl

theorem parsePins_array (entries : List Entry) :
    parsePins (Json.compact (.array (entries.map Entry.toJson))) = .ok (entries.map Entry.id) := by
  have hcompact : Json.compact (.array (entries.map Entry.toJson)) =
      String.ofList ('[' :: Json.renderItems (entries.map Entry.toJson)) := rfl
  have hread := readStringAs_compact (Reading.list pinReading) (.array (entries.map Entry.toJson))
  unfold parsePins
  rw [hcompact, String.toList_ofList, List.dropWhile_cons_of_neg (by decide), ← hcompact]
  simp only [hread, list_entries]
  rw [hcompact, String.toList_ofList]
  rfl

/-!
# Lines of a text
-/

theorem beq_newline {line : List Char} (h : '\n' ∉ line) :
    forall c, c ∈ line -> (c == '\n') = false := by
  intro c hc
  rw [beq_eq_false_iff_ne]
  rintro rfl
  exact h hc

theorem filledLines_append {front : List Char} (h : '\n' ∉ front) (rest : List Char) :
    Node.filledLines (String.ofList (front ++ '\n' :: rest)) =
      Node.filledLines (String.ofList front) ++ Node.filledLines (String.ofList rest) := by
  unfold Node.filledLines
  simp only [String.toList_ofList]
  rw [splitBy_append (beq_newline h) rfl, splitBy_of_none (beq_newline h), ← List.singleton_append,
    List.map_append, List.filter_append, List.map_append]

def unreturned (line : List Char) : List Char :=
  if line.getLast? == some '\r' then line.dropLast else line

theorem filledLines_line {line : List Char} (h : '\n' ∉ line) :
    Node.filledLines (String.ofList line) =
      if (unreturned line).all isBlank then [] else [String.ofList (unreturned line)] := by
  have hline : Node.filledLines (String.ofList line) =
      ([unreturned line].filter fun line => !line.all isBlank).map String.ofList := by
    unfold Node.filledLines
    rw [String.toList_ofList, splitBy_of_none (beq_newline h)]
    rfl
  rw [hline]
  cases hblank : (unreturned line).all isBlank with
  | true => simp [hblank]
  | false => simp [hblank]

theorem unreturned_subset (line : List Char) : unreturned line ⊆ line := by
  unfold unreturned
  split
  · exact List.dropLast_subset line
  · exact List.Subset.refl line

theorem filledLines_blank {line : List Char} (h : forall c, c ∈ line -> isBlank c = true)
    (hline : '\n' ∉ line) : Node.filledLines (String.ofList line) = [] := by
  rw [filledLines_line hline, if_pos]
  exact List.all_eq_true.mpr fun c hc => h c (unreturned_subset line hc)

theorem newline_not_mem_append {line ending : List Char} (hline : '\n' ∉ line)
    (h : ending = [] ∨ ending = ['\r']) : '\n' ∉ line ++ ending := by
  intro hmem
  rcases List.mem_append.mp hmem with hmem | hmem
  · exact hline hmem
  · rcases h with rfl | rfl
    · cases hmem
    · exact absurd hmem (by decide)

namespace Entry

theorem chars_eq (e : Entry) : exists rest, e.chars = '\x7b' :: rest :=
  ⟨_, rfl⟩

theorem newline_not_mem_chars (e : Entry) : '\n' ∉ e.chars :=
  newline_not_mem_render e.toJson

theorem not_blank (e : Entry) : e.chars.all isBlank = false := by
  rcases e.chars_eq with ⟨rest, hchars⟩
  rw [hchars]
  rfl

theorem filledLines_chars (e : Entry) {ending : List Char} (h : ending = [] ∨ ending = ['\r']) :
    Node.filledLines (String.ofList (e.chars ++ ending)) = [e.toJson.compact] := by
  have hunreturned : unreturned (e.chars ++ ending) = e.chars := by
    unfold unreturned
    rcases h with rfl | rfl
    · rw [List.append_nil, if_neg]
      intro hlast
      have hmem := List.mem_of_getLast? (beq_iff_eq.mp hlast)
      exact absurd (inline_render e.toJson '\r' hmem) (by decide)
    · simp
  rw [filledLines_line (newline_not_mem_append e.newline_not_mem_chars h), hunreturned, e.not_blank]
  rfl

end Entry

/-!
# Pins line by line
-/

inductive Line where
  | pin (entry : Entry)
  | blank (text : List Char) (h : forall c, c ∈ text -> isBlank c = true ∧ c ≠ '\n')

namespace Line

def text : Line -> List Char
  | pin e => e.chars
  | blank text _ => text

def entry? : Line -> Option Entry
  | pin e => some e
  | blank _ _ => none

theorem newline_not_mem_text (l : Line) : '\n' ∉ l.text := by
  cases l with
  | pin e => exact e.newline_not_mem_chars
  | blank text h => exact fun hmem => (h _ hmem).2 rfl

theorem filledLines_text (l : Line) {ending : List Char} (h : ending = [] ∨ ending = ['\r']) :
    Node.filledLines (String.ofList (l.text ++ ending)) =
      l.entry?.toList.map fun e => e.toJson.compact := by
  cases l with
  | pin e => exact e.filledLines_chars h
  | blank text hblank =>
      apply filledLines_blank
      · intro c hc
        rcases List.mem_append.mp hc with htext | hend
        · exact (hblank c htext).1
        · rcases h with rfl | rfl
          · cases hend
          · rw [List.mem_singleton.mp hend]
            rfl
      · exact newline_not_mem_append (fun hmem => (hblank _ hmem).2 rfl) h

end Line

inductive LineEnd where
  | feed
  | returnAndFeed

def LineEnd.text : LineEnd -> List Char
  | feed => ['\n']
  | returnAndFeed => ['\r', '\n']

theorem LineEnd.isBlank_text (ending : LineEnd) : forall c, c ∈ ending.text -> isBlank c = true := by
  cases ending with
  | feed => exact forall_of_all (by decide)
  | returnAndFeed => exact forall_of_all (by decide)

/-- Lines with their ends, and what stands behind the last of these: a pin, or perhaps nothing. -/
structure Sheet where
  lines : List (Line × LineEnd)
  last : Line

namespace Sheet

def chars (s : Sheet) : List Char :=
  s.lines.flatMap (fun l => l.1.text ++ l.2.text) ++ s.last.text

def text (s : Sheet) : String :=
  String.ofList s.chars

def entries (s : Sheet) : List Entry :=
  (s.lines.map Prod.fst ++ [s.last]).filterMap Line.entry?

theorem chars_cons (l : Line) (ending : LineEnd) (lines : List (Line × LineEnd)) (last : Line) :
    (mk ((l, ending) :: lines) last).chars = l.text ++ ending.text ++ (mk lines last).chars := by
  unfold chars
  rw [List.flatMap_cons, List.append_assoc]

theorem entries_cons (l : Line) (ending : LineEnd) (lines : List (Line × LineEnd)) (last : Line) :
    (mk ((l, ending) :: lines) last).entries = l.entry?.toList ++ (mk lines last).entries := by
  unfold entries
  rw [List.map_cons, List.cons_append, List.filterMap_cons]
  cases l with
  | pin e => rfl
  | blank => rfl

theorem filledLines_cons (l : Line) (ending : LineEnd) (rest : List Char) :
    Node.filledLines (String.ofList (l.text ++ ending.text ++ rest)) =
      (l.entry?.toList.map fun e => e.toJson.compact) ++
        Node.filledLines (String.ofList rest) := by
  cases ending with
  | feed =>
      have hline := l.filledLines_text (Or.inl rfl)
      rw [List.append_nil] at hline
      rw [← hline, ← filledLines_append l.newline_not_mem_text, List.append_assoc]
      rfl
  | returnAndFeed =>
      have hreturn : '\n' ∉ l.text ++ ['\r'] :=
        newline_not_mem_append l.newline_not_mem_text (Or.inr rfl)
      rw [← l.filledLines_text (Or.inr rfl), ← filledLines_append hreturn, List.append_assoc,
        List.append_assoc]
      rfl

theorem filledLines_chars (s : Sheet) :
    Node.filledLines (String.ofList s.chars) = s.entries.map fun e => e.toJson.compact := by
  rcases s with ⟨lines, last⟩
  induction lines with
  | nil =>
      have hlast := last.filledLines_text (Or.inl rfl)
      rw [List.append_nil] at hlast
      show Node.filledLines (String.ofList last.text) = _
      rw [hlast]
      cases last with
      | pin e => rfl
      | blank => rfl
  | cons l lines ih =>
      rcases l with ⟨l, ending⟩
      rw [chars_cons, filledLines_cons, ih, entries_cons, List.map_append]

theorem dropWhile_of_head {s : Sheet} {rest : List Char} (h : s.chars = '\x7b' :: rest) :
    (s.chars.dropWhile isBlank).head? ≠ some '[' ∧
      Node.filledLines (String.ofList (s.chars.dropWhile isBlank)) =
        s.entries.map fun e => e.toJson.compact := by
  have hdrop : s.chars.dropWhile isBlank = s.chars := by
    rw [h]
    exact List.dropWhile_cons_of_neg (by decide)
  have hhead : s.chars.head? ≠ some '[' := by
    rw [h]
    simp
  rw [hdrop]
  exact ⟨hhead, s.filledLines_chars⟩

/-- Blank lines in front are skipped without a loss, and what is left is not taken for an array. -/
theorem dropWhile_chars (s : Sheet) :
    (s.chars.dropWhile isBlank).head? ≠ some '[' ∧
      Node.filledLines (String.ofList (s.chars.dropWhile isBlank)) =
        s.entries.map fun e => e.toJson.compact := by
  rcases s with ⟨lines, last⟩
  induction lines with
  | nil =>
      cases last with
      | pin e => exact dropWhile_of_head (s := ⟨[], .pin e⟩) rfl
      | blank text h =>
          have hdrop : (mk [] (.blank text h)).chars.dropWhile isBlank = [] :=
            List.dropWhile_eq_nil_iff.mpr fun c hc => (h c hc).1
          rw [hdrop]
          exact ⟨nofun, rfl⟩
  | cons l lines ih =>
      rcases l with ⟨l, ending⟩
      cases l with
      | pin e => exact dropWhile_of_head (s := ⟨(.pin e, ending) :: lines, last⟩) rfl
      | blank text h =>
          have hblank : forall c, c ∈ text ++ ending.text -> isBlank c = true := by
            intro c hc
            rcases List.mem_append.mp hc with htext | hend
            · exact (h c htext).1
            · exact ending.isBlank_text c hend
          have hdrop : (mk ((.blank text h, ending) :: lines) last).chars.dropWhile isBlank =
              (mk lines last).chars.dropWhile isBlank := by
            rw [chars_cons]
            exact List.dropWhile_append_of_pos hblank
          rw [hdrop, entries_cons]
          exact ih

end Sheet

theorem parsePins_lines (s : Sheet) : parsePins s.text = .ok (s.entries.map Entry.id) := by
  rcases s.dropWhile_chars with ⟨hhead, hlines⟩
  have hread : forall e, e ∈ s.entries ->
      readStringAs pinReading e.toJson.compact = pure e.id := by
    intro e _
    rw [readStringAs_compact]
    exact pinReading_within e (by decide)
  unfold parsePins Sheet.text
  simp only [String.toList_ofList, beq_iff_eq, hhead, if_false, hlines]
  rw [List.mapM_map]
  exact mapM_eq_pure hread

/-- Both forms of a list of pins say the same: the array of the entries, and the entries line
by line with either line end and blank lines anywhere, are read as the identities in order. -/
theorem lists_read_alike (entries : List Entry) :
    parsePins (Json.compact (.array (entries.map Entry.toJson))) = .ok (entries.map Entry.id) ∧
      forall s : Sheet, s.entries = entries -> parsePins s.text = .ok (entries.map Entry.id) := by
  constructor
  · exact parsePins_array entries
  · rintro s rfl
    exact parsePins_lines s

def plainEntry : Entry :=
  ⟨"QmA", false, [], [("peer_map", .object [("cid", .null)])], by simp⟩

def linkedEntry : Entry :=
  ⟨"Qm\n\"B", true, [("name", .array [.null])], [], by simp⟩

def mixedSheet : Sheet :=
  ⟨[(.blank [' ', '\t'] (by simp [isBlank]), .feed), (.pin plainEntry, .returnAndFeed),
    (.blank [] nofun, .returnAndFeed)], .pin linkedEntry⟩

theorem lists_read_alike_mixed :
    mixedSheet.text =
        " \t\n\x7b\"cid\":\"QmA\",\"peer_map\":\x7b\"cid\":null\x7d\x7d\r\n\r\n" ++
          "\x7b\"name\":[null],\"cid\":\x7b\"/\":\"Qm\\n\\\"B\"\x7d\x7d" ∧
      parsePins mixedSheet.text = .ok ["QmA", "Qm\n\"B"] ∧
      parsePins (Json.compact (.array [plainEntry.toJson, linkedEntry.toJson])) =
        .ok ["QmA", "Qm\n\"B"] := by
  have hentries : mixedSheet.entries = [plainEntry, linkedEntry] := rfl
  rcases lists_read_alike [plainEntry, linkedEntry] with ⟨harray, hlines⟩
  refine ⟨by decide +kernel, hlines mixedSheet hentries, harray⟩

end Cluster
end Ipfs
end ContentGateway
