import ContentGateway.Ipfs.HostList
import ContentGateway.Proofs.Url.Hosts
import ContentGateway.Proofs.Url.Joining

/-!
# Host lists read

What a list of hosts stands for, each with a port or without one.  A host without a port gets
the usual one; only an address between brackets does not, since its last colon is taken for
the one before a port.
-/

namespace ContentGateway
namespace Ipfs

/-!
# URLs of hosts and ports
-/

/-- The URL of a host and a port as it is kept: the usual port of the scheme is left out. -/
def hostedUrl (host : Host) (port : Nat) : Url :=
  ⟨"http", some ⟨"", "", host, if port = 80 then none else some port⟩, .segments [""], none, none⟩

theorem address_hostedUrl {host : Host} (h : host ≠ .domain "") (port : Nat) :
    (hostedUrl host port).address = host.display ++ ":" ++ toString port := by
  have hhost : (hostedUrl host port).host? = some host := by
    unfold Url.host? hostedUrl
    simp [h]
  have hport : (hostedUrl host port).port? = some port := by
    unfold Url.port? hostedUrl
    simp only [Option.bind_some]
    split
    · next husual =>
        rw [husual]
        rfl
    · rfl
  unfold Url.address
  rw [hhost, hport]
  rfl

theorem hostUrl_canonical {host : Host} (h : host.Canonical) {port : Nat}
    (hport : port ≤ Environment.largestPort) :
    hostUrl host.display port = .ok (hostedUrl host port) := by
  have htext : ("http://" ++ host.display ++ ":" ++ toString port).toList =
      "http".toList ++ ':' :: '/' :: '/' ::
        (host.display.toList ++ Authority.portText (some port)) := by
    rw [Authority.portText_some, String.toList_append, String.toList_append, String.toList_append,
      Nat.toString_eq_repr, Nat.toList_repr, List.append_assoc, List.append_assoc]
    rfl
  have husual : (Url.usualPort? "http" == some port) = true ↔ port = 80 := by
    rw [show Url.usualPort? "http" = some 80 from rfl, beq_iff_eq, Option.some.injEq]
    exact eq_comm
  have hread := Url.parse?_of_authority (.inl rfl)
    (List.append_ne_nil_of_left_ne_nil h.placed.filled _)
    (fun c hc => Authority.firm_of_plain (Authority.plain_place h.placed _ c hc)) htext
  rw [Authority.authority?_host rfl h.placed hport, h.read_back] at hread
  unfold hostUrl
  rw [hread]
  simp only [Option.map_some, husual]
  rfl

namespace HostList

/-!
# Entries
-/

structure Entry where
  host : Host
  port : Option Nat

namespace Entry

def text (e : Entry) : List Char :=
  e.host.display.toList ++ Authority.portText e.port

/-- The host is in its canonical form, no comma is in its name, and the port is one. -/
structure Proper (e : Entry) : Prop where
  host : e.host.Canonical
  comma : forall name, e.host = .domain name -> ',' ∉ name.toList
  port : forall p, e.port = some p -> p ≤ Environment.largestPort

/-- An address between brackets and no port behind it. -/
def Bare (e : Entry) : Prop :=
  e.port = none ∧ exists pieces, e.host = .ipv6 pieces

def address (usualPort : Nat) (e : Entry) : String :=
  e.host.display ++ ":" ++ toString (e.port.getD usualPort)

def url (usualPort : Nat) (e : Entry) : Url :=
  hostedUrl e.host (e.port.getD usualPort)

section Proper

variable {e : Entry}

theorem Proper.no_comma (h : e.Proper) : ',' ∉ e.text := by
  have hdigit : forall d, d < 16 -> Nat.digitChar d ≠ ',' := by
    decide
  intro hc
  rcases List.mem_append.mp hc with hhost | hport
  · rcases e with ⟨host, port⟩
    cases host with
    | domain name => exact h.comma name rfl hhost
    | ipv4 address =>
        exact Host.of_digit_or (P := fun c => c ≠ ',') (by decide) hdigit
          (Host.mem_ipv4Text hhost) rfl
    | ipv6 pieces =>
        rw [Host.toList_display_ipv6, List.mem_cons, List.mem_append, List.mem_singleton] at hhost
        rcases hhost with hopen | hinside | hclose
        · exact absurd hopen (by decide)
        · exact Host.of_digit_or (P := fun c => c ≠ ',') (by decide) hdigit
            (Host.mem_ipv6Text hinside) rfl
        · exact absurd hclose (by decide)
  · exact Host.of_digit_or (P := fun c => c ≠ ',') (by decide) hdigit
      (Authority.digit_of_mem_portText hport) rfl

theorem Proper.ink (h : e.Proper) : forall c, c ∈ e.text -> isBlank c = false := by
  intro c hc
  have hascii : c.toNat < 128 := by
    rcases List.mem_append.mp hc with hhost | hport
    · exact h.host.ascii c hhost
    · exact Host.of_digit_or (P := fun c => c.toNat < 128) (by decide)
        (fun _ hd => (Host.ordinary_digitChar hd).1) (Authority.digit_of_mem_portText hport)
  have hplain := Authority.plain_place h.host.placed e.port c hc
  have hvisible := (Url.visible_of_firm (Authority.firm_of_plain hplain).1).1
  exact of_ascii (P := fun c => 0x20 < c.toNat -> isBlank c = false) (by decide +kernel) hascii
    hvisible

theorem Proper.no_scheme (h : e.Proper) : containsText (String.ofList e.text) "://" = false := by
  have hslash : '/' ∉ (String.ofList e.text).toList := by
    rw [String.toList_ofList]
    exact fun hc => absurd (Authority.plain_place h.host.placed e.port _ hc) (by decide)
  exact holdsPart_of_absent (show '/' ∈ "://".toList by decide) hslash

theorem Proper.entryUrl_eq (h : e.Proper) {usualPort : Nat}
    (husual : usualPort ≤ Environment.largestPort) (hbare : ¬ e.Bare) :
    entryUrl usualPort (String.ofList e.text) = .ok (e.url usualPort) := by
  unfold entryUrl
  rw [h.no_scheme, if_neg Bool.false_ne_true, String.toList_ofList]
  rcases e with ⟨host, port⟩
  cases port with
  | none =>
      have hcolon : ':' ∉ host.display.toList := by
        rw [h.host.colon_iff]
        exact fun hpieces => hbare ⟨rfl, hpieces⟩
      have htext : text ⟨host, none⟩ = host.display.toList := List.append_nil _
      rw [htext, splitLast_of_absent hcolon]
      simp only
      rw [String.ofList_toList]
      exact hostUrl_canonical h.host husual
  | some p =>
      have hbound := h.port p rfl
      have hcolon : ':' ∉ Nat.toDigits 10 p :=
        Host.absent_of_toDigits (by decide) (by decide) fun _ hd => (Host.digitChar_plain hd).2.1
      have htext : text ⟨host, some p⟩ = host.display.toList ++ ':' :: Nat.toDigits 10 p := by
        rw [← Authority.portText_some]
        rfl
      rw [htext, splitLast_append hcolon]
      simp only [Decimal.natural?_toDigits hbound, String.ofList_toList]
      exact hostUrl_canonical h.host hbound

/-- What stands behind the last colon of a bare entry is taken for a port, the bracket included. -/
theorem Proper.entryUrl_bare (h : e.Proper) (hbare : e.Bare) (usualPort : Nat) :
    exists front behind, e.text = front ++ ':' :: behind ∧ ':' ∉ behind ∧
      entryUrl usualPort (String.ofList e.text) =
        .error (.invalidNumber (String.ofList e.text) (String.ofList behind)) := by
  have hno := h.no_scheme
  rcases e with ⟨host, port⟩
  rcases hbare with ⟨rfl, pieces, rfl⟩
  cases h.host with
  | ipv6 hlength hpieces =>
      rcases exists_last_place (Host.colon_mem_ipv6Text (show 2 ≤ pieces.length by omega)) with
        ⟨front, behind, hinside, habsent⟩
      have htext : text ⟨.ipv6 pieces, none⟩ = ('[' :: front) ++ ':' :: (behind ++ [']']) := by
        show (Host.ipv6 pieces).display.toList ++ [] = _
        rw [Host.toList_display_ipv6, hinside]
        simp
      have hbehind : ':' ∉ behind ++ [']'] := by
        simpa using habsent
      refine ⟨_, _, htext, hbehind, ?_⟩
      unfold entryUrl
      rw [hno, if_neg Bool.false_ne_true, String.toList_ofList, htext, splitLast_append hbehind]
      simp only
      rw [Decimal.natural?_of_mem (c := ']') (by simp) (by decide) (by decide)]

end Proper

end Entry

/-!
# Lists
-/

/-- What stands between two commas: an entry or nothing, and blanks around it. -/
structure Slot where
  before : List Char
  entry : Option Entry
  after : List Char

namespace Slot

def text (s : Slot) : List Char :=
  s.before ++ ((s.entry.map Entry.text).getD [] ++ s.after)

structure Proper (s : Slot) : Prop where
  before : forall c, c ∈ s.before -> isBlank c = true
  entry : forall e, s.entry = some e -> e.Proper
  after : forall c, c ∈ s.after -> isBlank c = true

end Slot

def listText (slots : List Slot) : String :=
  String.ofList ([','].intercalate (slots.map Slot.text))

def listed (slots : List Slot) : List Entry :=
  slots.filterMap Slot.entry

section Proper

variable {slots : List Slot}

theorem Slot.Proper.no_comma {s : Slot} (h : s.Proper) : ',' ∉ s.text := by
  intro hc
  rcases List.mem_append.mp hc with hbefore | hc
  · exact absurd (h.before _ hbefore) (by decide)
  rcases List.mem_append.mp hc with hentry | hafter
  · cases he : s.entry with
    | none =>
        rw [he] at hentry
        cases hentry
    | some e =>
        rw [he] at hentry
        exact (h.entry e he).no_comma hentry
  · exact absurd (h.after _ hafter) (by decide)

theorem Slot.Proper.trim_eq {s : Slot} (h : s.Proper) :
    trimBy isBlank s.text = (s.entry.map Entry.text).getD [] := by
  refine trimBy_around h.before ?_ h.after
  cases he : s.entry with
  | none =>
      intro c hc
      cases hc
  | some e => exact (h.entry e he).ink

theorem entries_listText (h : forall s, s ∈ slots -> s.Proper) :
    entries (listText slots) = (listed slots).map fun e => String.ofList e.text := by
  cases slots with
  | nil => rfl
  | cons first rest =>
      have hsplit : splitBy (· == ',') (listText (first :: rest)).toList =
          (first :: rest).map Slot.text := by
        unfold listText
        rw [String.toList_ofList]
        refine splitBy_intercalate ?_ (List.cons_ne_nil _ _)
        intro text htext
        rcases List.mem_map.mp htext with ⟨s, hs, rfl⟩
        exact (h s hs).no_comma
      unfold entries listed
      rw [hsplit, List.map_map, List.filterMap_map, List.map_filterMap]
      refine List.filterMap_congr ?_
      intro s hs
      show (if (trimBy isBlank s.text).isEmpty = true then none
        else some (String.ofList (trimBy isBlank s.text))) = _
      rw [(h s hs).trim_eq]
      cases he : s.entry with
      | none => rfl
      | some e =>
          have hsome : e.text.isEmpty = false := by
            rw [List.isEmpty_eq_false_iff]
            exact List.append_ne_nil_of_left_ne_nil ((h s hs).entry e he).host.placed.filled _
          show (if e.text.isEmpty = true then none else some (String.ofList e.text)) = _
          rw [hsome, if_neg Bool.false_ne_true]
          rfl

theorem proper_of_mem_listed (h : forall s, s ∈ slots -> s.Proper) {e : Entry}
    (he : e ∈ listed slots) : e.Proper := by
  rcases List.mem_filterMap.mp he with ⟨s, hs, hentry⟩
  exact (h s hs).entry e hentry

end Proper

theorem mapM_of_failure {α β ε : Type} {read : α -> Except ε β} {value : α -> β}
    {before : List α} (hbefore : forall b, b ∈ before -> read b = .ok (value b)) {a : α}
    {failure : ε} (h : read a = .error failure) (after : List α) :
    (before ++ a :: after).mapM read = .error failure := by
  rw [List.mapM_append, List.mapM_cons, mapM_eq_pure hbefore, h]
  rfl

/--
Each entry of a list is read as the URL of its host, with its own port or with the usual one.
If there is a bare entry, the first one is reported, with what stands behind its last colon.
-/
theorem urls_listed {usualPort : Nat} (husual : usualPort ≤ Environment.largestPort)
    {slots : List Slot} (h : forall s, s ∈ slots -> s.Proper) :
    ((forall e, e ∈ listed slots -> ¬ e.Bare) ->
      exists us, urls usualPort (listText slots) = .ok us ∧
        (forall u, u ∈ us -> u.scheme = "http") ∧
        us.map Url.address = (listed slots).map (Entry.address usualPort)) ∧
    (forall before e after, listed slots = before ++ e :: after ->
      (forall b, b ∈ before -> ¬ b.Bare) -> e.Bare ->
      exists front behind, e.text = front ++ ':' :: behind ∧ ':' ∉ behind ∧
        urls usualPort (listText slots) =
          .error (.invalidNumber (String.ofList e.text) (String.ofList behind))) := by
  have hurls : urls usualPort (listText slots) =
      (listed slots).mapM fun e => entryUrl usualPort (String.ofList e.text) := by
    unfold urls
    rw [entries_listText h, List.mapM_map, Function.comp_def]
  constructor
  · intro hbare
    have hread : forall e, e ∈ listed slots ->
        entryUrl usualPort (String.ofList e.text) = pure (e.url usualPort) :=
      fun e he => (proper_of_mem_listed h he).entryUrl_eq husual (hbare e he)
    refine ⟨(listed slots).map (Entry.url usualPort), ?_, ?_, ?_⟩
    · rw [hurls, mapM_eq_pure hread]
      rfl
    · intro u hu
      rcases List.mem_map.mp hu with ⟨e, _, rfl⟩
      rfl
    · rw [List.map_map]
      refine List.map_congr_left fun e he => ?_
      exact address_hostedUrl
        (beq_eq_false_iff_ne.mp (proper_of_mem_listed h he).host.placed.ne_nowhere) _
  · intro before e after hlisted hbefore hbare
    have hproper : forall a, a ∈ before ++ e :: after -> a.Proper :=
      fun a ha => proper_of_mem_listed h (by rw [hlisted]; exact ha)
    rcases (hproper e (by simp)).entryUrl_bare hbare usualPort with
      ⟨front, behind, htext, hbehind, hread⟩
    refine ⟨front, behind, htext, hbehind, ?_⟩
    rw [hurls, hlisted]
    have hfront : forall b, b ∈ before ->
        entryUrl usualPort (String.ofList b.text) = .ok (b.url usualPort) :=
      fun b hb => (hproper b (List.mem_append_left _ hb)).entryUrl_eq husual (hbefore b hb)
    exact mapM_of_failure hfront hread after

def loopback : Host :=
  .ipv6 [0, 0, 0, 0, 0, 0, 0, 1]

def mixed : List Slot :=
  [⟨[' '], some ⟨.domain "node-1.example", none⟩, []⟩, ⟨['\t'], none, []⟩,
    ⟨[], some ⟨.ipv4 167772167, some 80⟩, [' ']⟩, ⟨[], some ⟨loopback, some 9095⟩, []⟩]

theorem canonical_loopback : loopback.Canonical :=
  .ipv6 rfl (by decide)

theorem proper_slot {before after : List Char} {host : Host} {port : Option Nat}
    (hhost : host.Canonical) (hcomma : forall name, host = .domain name -> ',' ∉ name.toList)
    (hport : forall p, port = some p -> p ≤ Environment.largestPort)
    (hbefore : forall c, c ∈ before -> isBlank c = true)
    (hafter : forall c, c ∈ after -> isBlank c = true) :
    (Slot.mk before (some ⟨host, port⟩) after).Proper := by
  refine ⟨hbefore, ?_, hafter⟩
  rintro e he
  cases he
  exact ⟨hhost, hcomma, hport⟩

theorem proper_mixed : forall s, s ∈ mixed -> s.Proper := by
  have hname : (Host.domain "node-1.example").Canonical :=
    Host.canonical_of_ordinary
      ⟨forall_of_all (by decide), forall_of_all (by decide +kernel),
        forall_of_all (by decide +kernel), by decide +kernel⟩
      (by decide) (by decide +kernel)
  have hblank : forall c, c ∈ [' '] -> isBlank c = true := forall_of_all (by decide)
  have hnone : forall c, c ∈ ([] : List Char) -> isBlank c = true := nofun
  intro s hs
  simp only [mixed, List.mem_cons, List.not_mem_nil, or_false] at hs
  rcases hs with rfl | rfl | rfl | rfl
  · exact proper_slot hname (by rintro _ ⟨⟩; decide) nofun hblank hnone
  · exact ⟨forall_of_all (by decide), nofun, hnone⟩
  · exact proper_slot (.ipv4 (by decide)) nofun (by rintro _ ⟨⟩; decide) hnone hblank
  · exact proper_slot canonical_loopback nofun (by rintro _ ⟨⟩; decide) hnone hnone

theorem urls_listed_mixed :
    listText mixed = " node-1.example,\t,10.0.0.7:80 ,[::1]:9095" ∧
    (exists us, urls 5001 (listText mixed) = .ok us ∧
      us.map Url.address = ["node-1.example:5001", "10.0.0.7:80", "[::1]:9095"]) ∧
    exists behind, urls 5001 (listText (mixed ++ [⟨[], some ⟨loopback, none⟩, []⟩])) =
      .error (.invalidNumber "[::1]" behind) := by
  have hport : 5001 ≤ Environment.largestPort := by
    decide
  have hmixed : forall e, e ∈ listed mixed -> ¬ e.Bare := by
    have hlisted : listed mixed = [⟨.domain "node-1.example", none⟩,
        ⟨.ipv4 167772167, some 80⟩, ⟨loopback, some 9095⟩] := rfl
    intro e he
    rw [hlisted] at he
    simp only [List.mem_cons, List.not_mem_nil, or_false] at he
    rcases he with rfl | rfl | rfl
    · rintro ⟨_, _, hhost⟩
      cases hhost
    · rintro ⟨hnone, _⟩
      cases hnone
    · rintro ⟨hnone, _⟩
      cases hnone
  have hall : forall s, s ∈ mixed ++ [⟨[], some ⟨loopback, none⟩, []⟩] -> s.Proper := by
    intro s hs
    rcases List.mem_append.mp hs with hs | hs
    · exact proper_mixed s hs
    · rw [List.mem_singleton.mp hs]
      exact proper_slot canonical_loopback nofun nofun nofun nofun
  have haddresses : (listed mixed).map (Entry.address 5001) =
      ["node-1.example:5001", "10.0.0.7:80", "[::1]:9095"] := by
    decide +kernel
  have hlist : listText mixed = " node-1.example,\t,10.0.0.7:80 ,[::1]:9095" := by
    decide +kernel
  have htext : String.ofList (Entry.text ⟨loopback, none⟩) = "[::1]" := by
    decide +kernel
  rcases (urls_listed hport proper_mixed).1 hmixed with ⟨us, hurls, _, hread⟩
  rcases (urls_listed hport hall).2 (listed mixed) ⟨loopback, none⟩ [] rfl hmixed ⟨rfl, _, rfl⟩ with
    ⟨_, behind, _, _, hrefused⟩
  rw [htext] at hrefused
  exact ⟨hlist, ⟨us, hurls, hread.trans haddresses⟩, _, hrefused⟩

/-- An address of eight pieces in a list, on its own, is not read. -/
theorem loopback_unread :
    loopback.Canonical ∧ loopback.display = "[::1]" ∧
      urls 5001 loopback.display = .error (.invalidNumber "[::1]" "1]") := by
  have hdisplay : loopback.display = "[::1]" := by
    decide +kernel
  have hentries : entries "[::1]" = ["[::1]"] := by
    decide +kernel
  have hscheme : containsText "[::1]" "://" = false := by
    decide +kernel
  have hsplit : splitLast ':' "[::1]".toList = some ("[:".toList, "1]".toList) := by
    decide +kernel
  have hport : Decimal.natural? Environment.largestPort "1]" = none := by
    decide +kernel
  have hread : entryUrl 5001 "[::1]" = .error (.invalidNumber "[::1]" "1]") := by
    unfold entryUrl
    simp only [hscheme, hsplit, String.ofList_toList, hport, Bool.false_eq_true, if_false]
  refine ⟨canonical_loopback, hdisplay, ?_⟩
  unfold urls
  rw [hdisplay, hentries, List.mapM_cons, hread]
  rfl

end HostList
end Ipfs
end ContentGateway
