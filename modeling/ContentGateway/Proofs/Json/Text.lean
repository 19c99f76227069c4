import ContentGateway.Proofs.Json.Numerals
import ContentGateway.Proofs.Text.Utf8

/-!
# Values read back

The compact text of every value is read to its end, whatever follows it, as the tree that
the reading may build of it: too deep a container is marked, and numbers are read as their
texts say.  A legible value that is not too deep is read as its own tree.  Strings and the
sequences in containers are taken up one element at a time; a container ends where its
bracket stands.
-/

namespace ContentGateway
namespace JsonText

/-!
# Strings
-/

theorem hexUnit?_control {n : Nat} (hn : n < 32) :
    hexUnit? (some '0') (some '0') (some (hexDigit (n / 16))) (some (hexDigit (n % 16))) =
      some n := by
  decide +revert

theorem readString_plain {c : Char} (hquote : c ≠ '"') (hslash : c ≠ '\\')
    (hcontrol : ¬ c.toNat < 32) (done : List Char) (rest : List Glyph) :
    readString none true done (some c :: rest) = readString none true (c :: done) rest := by
  rw [readString.eq_def]
  simp only [hquote, hslash, hcontrol, if_false]
  rfl

theorem readString_short {e c : Char} (he : e ≠ 'u') (hc : escaped? e = some c)
    (done : List Char) (rest : List Glyph) :
    readString none true done (some '\\' :: some e :: rest) =
      readString none true (c :: done) rest := by
  have hquote : '\\' ≠ '"' := by
    decide
  rw [readString.eq_def]
  simp only [hquote, if_false, if_true]
  split
  · next h =>
      cases h
      exact absurd rfl he
  · next h =>
      cases h
      rw [hc]
      rfl
  · next _ h => exact absurd rfl (h _ _)

theorem readString_control {c : Char} (hc : c.toNat < 32) (done : List Char)
    (rest : List Glyph) :
    readString none true done
        (some '\\' :: some 'u' :: some '0' :: some '0' :: some (hexDigit (c.toNat / 16)) ::
          some (hexDigit (c.toNat % 16)) :: rest) =
      readString none true (c :: done) rest := by
  have hquote : '\\' ≠ '"' := by
    decide
  have hhigh : isHighHalf c.toNat = false := by
    unfold isHighHalf
    rw [Bool.and_eq_false_iff]
    exact Or.inl (decide_eq_false (by omega))
  have hlow : isLowHalf c.toNat = false := by
    unfold isLowHalf
    rw [Bool.and_eq_false_iff]
    exact Or.inl (decide_eq_false (by omega))
  rw [readString.eq_def]
  simp only [hquote, if_false, if_true, hexUnit?_control hc, hhigh, hlow, Bool.false_eq_true,
    Char.ofNat_toNat]
  rfl

theorem readString_escape (c : Char) (done : List Char) (rest : List Glyph) :
    readString none true done ((Json.escape c).map some ++ rest) =
      readString none true (c :: done) rest := by
  unfold Json.escape
  split
  · next h =>
      subst h
      exact readString_short (by decide) rfl done rest
  split
  · next h =>
      subst h
      exact readString_short (by decide) rfl done rest
  split
  · next h =>
      subst h
      exact readString_short (by decide) rfl done rest
  split
  · next h =>
      subst h
      exact readString_short (by decide) rfl done rest
  split
  · next h =>
      subst h
      exact readString_short (by decide) rfl done rest
  split
  · next h =>
      subst h
      exact readString_short (by decide) rfl done rest
  split
  · next h =>
      subst h
      exact readString_short (by decide) rfl done rest
  split
  · next h =>
      exact readString_control h done rest
  · next hquote hslash _ _ _ _ _ hcontrol =>
      exact readString_plain hquote hslash hcontrol done rest

theorem readString_quoted (s : String) (rest : List Glyph) :
    readString none true [] ((s.toList.flatMap Json.escape ++ ['"']).map some ++ rest) =
      some (some s, rest) := by
  have hchars : forall (text done : List Char),
      readString none true done ((text.flatMap Json.escape ++ ['"']).map some ++ rest) =
        some (some (String.ofList (done.reverse ++ text)), rest) := by
    intro text
    induction text with
    | nil =>
        intro done
        rw [List.append_nil]
        show readString none true done (some '"' :: rest) = _
        rw [readString.eq_def]
        rfl
    | cons c text ih =>
        intro done
        rw [List.flatMap_cons, List.append_assoc, List.map_append, List.append_assoc,
          readString_escape, ih, List.reverse_cons, List.append_assoc]
        rfl
  rw [hchars, List.reverse_nil, List.nil_append, String.ofList_toList]

/-!
# Containers
-/

def numberTree (n : Number) : Tree :=
  match readSigned (Json.numberText n) with
  | some (value, _) => .number value
  | none => .null

mutual

/-- What the text of a value is read as where containers may be nested `room` deep. -/
def treeWithin : Nat -> Json -> Tree
  | _, .null => .null
  | _, .bool b => .bool b
  | _, .number n => numberTree n
  | _, .string s => .string (some s)
  | room, .array items => bounded room (.array (itemsWithin (room - 1) items) true)
  | room, .object members => bounded room (.object (membersWithin (room - 1) members) true)

def itemsWithin : Nat -> List Json -> List Tree
  | _, [] => []
  | room, v :: rest => treeWithin room v :: itemsWithin room rest

def membersWithin : Nat -> List (String × Json) -> List (Option String × Tree)
  | _, [] => []
  | room, (k, v) :: rest => (some k, treeWithin room v) :: membersWithin room rest

end

theorem isGap_digit {c : Char} {d : Nat} (hc : Decimal.digit? c = some d) :
    isGap (some c) = false := by
  cases hgap : isGap (some c) with
  | false => rfl
  | true =>
      simp only [isGap, Bool.or_eq_true, beq_iff_eq, Option.some.injEq] at hgap
      rcases hgap with ((rfl | rfl) | rfl) | rfl
      · cases hc
      · cases hc
      · cases hc
      · cases hc

theorem numberTree_cases (n : Number) :
    (Json.numberText n = ['n', 'u', 'l', 'l'] ∧ numberTree n = .null) ∨
    (exists text value, Json.numberText n = '-' :: text ∧ numberTree n = .number value ∧
      readNumber true (text.map some) = some (value, [])) ∨
    exists c d text value, Json.numberText n = c :: text ∧ Decimal.digit? c = some d ∧
      numberTree n = .number value ∧
      readNumber false (some c :: text.map some) = some (value, []) := by
  unfold numberTree
  rcases numberText_cases n with htext | ⟨text, hnumeral, htext | htext⟩
  · rw [htext]
    exact Or.inl ⟨rfl, rfl⟩
  · rcases hnumeral.head with ⟨c, d, rest, rfl, hc⟩
    rcases readNumber_numeral hnumeral false with ⟨value, hread⟩
    have hsigned : readSigned (c :: rest) = some (value, []) := by
      unfold readSigned
      split
      · next h =>
          cases h
          cases hc
      · exact hread
    rw [htext, hsigned]
    exact Or.inr (Or.inr ⟨c, d, rest, value, rfl, hc, rfl, hread⟩)
  · rcases readNumber_numeral hnumeral true with ⟨value, hread⟩
    have hsigned : readSigned ('-' :: text) = some (value, []) := hread
    rw [htext, hsigned]
    exact Or.inr (Or.inl ⟨text, value, rfl, rfl, hread⟩)

theorem render_head (v : Json) :
    exists c text, Json.render v = c :: text ∧ isGap (some c) = false ∧ c ≠ ']' := by
  cases v with
  | null => exact ⟨'n', _, rfl, by decide, by decide⟩
  | bool b =>
      cases b with
      | false => exact ⟨'f', _, rfl, by decide, by decide⟩
      | true => exact ⟨'t', _, rfl, by decide, by decide⟩
  | number n =>
      rcases numberTree_cases n with ⟨htext, _⟩ | ⟨text, _, htext, _⟩ | ⟨c, d, text, _, htext, hc, _⟩
      · exact ⟨'n', _, htext, by decide, by decide⟩
      · exact ⟨'-', text, htext, by decide, by decide⟩
      · refine ⟨c, text, htext, isGap_digit hc, ?_⟩
        rintro rfl
        cases hc
  | string s => exact ⟨'"', _, rfl, by decide, by decide⟩
  | array items => exact ⟨'[', _, rfl, by decide, by decide⟩
  | object members => exact ⟨'\x7b', _, rfl, by decide, by decide⟩

theorem skipGap_of_head {g : Glyph} (hg : isGap g = false) (rest : List Glyph) :
    skipGap (g :: rest) = g :: rest := by
  unfold skipGap
  rw [List.dropWhile_cons, hg]
  rfl

/-- Reading stops behind the value. -/
def Reads (v : Json) : Prop :=
  -- two steps for each character are enough: one reads a value, one goes on behind it
  forall steps room rest, 2 * (Json.render v).length ≤ steps -> Ended rest ->
    readValue steps room ((Json.render v).map some ++ rest) = (treeWithin room v, some rest)

theorem reads_null : Reads .null := by
  intro steps room rest hsteps hrest
  cases steps with
  | zero => cases hsteps
  | succ steps => rfl

theorem reads_bool (b : Bool) : Reads (.bool b) := by
  intro steps room rest hsteps hrest
  cases steps with
  | zero => cases b <;> cases hsteps
  | succ steps =>
      cases b with
      | false => rfl
      | true => rfl

theorem reads_string (s : String) : Reads (.string s) := by
  intro steps room rest hsteps hrest
  cases steps with
  | zero => cases hsteps
  | succ steps =>
      show readValue (steps + 1) room
        (some '"' :: ((s.toList.flatMap Json.escape ++ ['"']).map some ++ rest)) = _
      rw [readValue, skipGap_of_head (by decide)]
      simp only [readString_quoted]
      rfl

theorem readValue_digit {c : Char} {d : Nat} (hc : Decimal.digit? c = some d)
    (steps room : Nat) (rest : List Glyph) :
    readValue (steps + 1) room (some c :: rest) =
      match readNumber false (some c :: rest) with
      | none => (.broken, none)
      | some (n, rest) => (.number n, some rest) := by
  rw [readValue, skipGap_of_head (isGap_digit hc)]
  split
  · next h =>
      cases h
      cases hc
  · next h =>
      cases h
      cases hc
  · next h =>
      cases h
      cases hc
  · next h =>
      cases h
      cases hc
  · next h =>
      cases h
      cases hc
  · next h =>
      cases h
      cases hc
  · next h =>
      cases h
      cases hc
  · rfl

theorem reads_number (n : Number) : Reads (.number n) := by
  intro steps room rest hsteps hrest
  have hrender : Json.render (.number n) = Json.numberText n := rfl
  have htree : treeWithin room (.number n) = numberTree n := rfl
  rcases numberTree_cases n with ⟨htext, hn⟩ | ⟨text, value, htext, hn, hread⟩ |
    ⟨c, d, text, value, htext, hc, hn, hread⟩
  · rw [hrender, htext] at hsteps ⊢
    rw [htree, hn]
    exact reads_null steps room rest hsteps hrest
  · rw [hrender, htext] at hsteps ⊢
    cases steps with
    | zero => cases hsteps
    | succ steps =>
        show (match readNumber true (text.map some ++ rest) with
          | none => (Tree.broken, none)
          | some (n, rest) => (Tree.number n, some rest)) = _
        rw [readNumber_append hread hrest, htree, hn]
        rfl
  · rw [hrender, htext] at hsteps ⊢
    cases steps with
    | zero => cases hsteps
    | succ steps =>
        have hmore := readNumber_append hread hrest
        rw [List.map_cons, List.cons_append, readValue_digit hc]
        rw [List.cons_append] at hmore
        rw [hmore, htree, hn]
        rfl

def ReadsItems (items : List Json) : Prop :=
  forall steps room rest, 2 * (Json.renderItems items).length ≤ steps ->
    readItems steps room ((Json.renderItems items).map some ++ rest) =
      (itemsWithin room items, some rest)

theorem readsItems_single {v : Json} (hv : Reads v) : ReadsItems [v] := by
  intro steps room rest hsteps
  cases steps with
  | zero => simp [Json.renderItems] at hsteps
  | succ steps =>
      have hlength : 2 * (Json.render v).length ≤ steps := by
        simp only [Json.renderItems, List.length_append, List.length_singleton] at hsteps
        omega
      have hread := hv steps room (some ']' :: rest) hlength (Or.inr (Or.inl rfl))
      simp only [Json.renderItems, List.map_append, List.append_assoc, List.map_cons,
        List.map_nil, List.singleton_append, readItems, hread]
      rfl

theorem readsItems_cons {v w : Json} {more : List Json} (hv : Reads v)
    (hrest : ReadsItems (w :: more)) : ReadsItems (v :: w :: more) := by
  intro steps room rest hsteps
  cases steps with
  | zero => simp [Json.renderItems] at hsteps
  | succ steps =>
      have hlength : 2 * (Json.render v).length ≤ steps ∧
          2 * (Json.renderItems (w :: more)).length ≤ steps := by
        rw [Json.renderItems, List.length_append, List.length_cons] at hsteps
        · omega
        · simp
      have hread := hv steps room
        (some ',' :: ((Json.renderItems (w :: more)).map some ++ rest)) hlength.1 (Or.inl rfl)
      have hmore := hrest steps room rest hlength.2
      rw [Json.renderItems, List.map_append, List.append_assoc, List.map_cons, List.cons_append,
        readItems, hread]
      · show (treeWithin room v :: (readItems steps room _).1, (readItems steps room _).2) = _
        rw [hmore]
        rfl
      · simp

theorem bounded_of_pos {room : Nat} (h : 0 < room) (t : Tree) : bounded room t = t :=
  if_neg (Nat.ne_of_gt h)

theorem readValue_array {g : Glyph} (hgap : isGap g = false) (hclose : g ≠ some ']')
    (steps room : Nat) (rest : List Glyph) :
    readValue (steps + 1) room (some '[' :: g :: rest) =
      (bounded room (.array (readItems steps (room - 1) (g :: rest)).1
        (readItems steps (room - 1) (g :: rest)).2.isSome),
        (readItems steps (room - 1) (g :: rest)).2) := by
  rw [readValue, skipGap_of_head (by decide)]
  simp only [skipGap_of_head hgap]
  split
  · next h =>
      cases h
      exact absurd rfl hclose
  · rfl

theorem reads_array {items : List Json} (hitems : items ≠ [] -> ReadsItems items) :
    Reads (.array items) := by
  intro steps room rest hsteps hrest
  rw [Json.render, List.length_cons] at hsteps
  cases steps with
  | zero => omega
  | succ steps =>
      cases items with
      | nil =>
          show (bounded room (.array [] true), some rest) = _
          rfl
      | cons v more =>
          have hread := hitems (List.cons_ne_nil v more) steps (room - 1) rest (by omega)
          have hhead : exists c text, Json.renderItems (v :: more) = c :: text ∧
              isGap (some c) = false ∧ c ≠ ']' := by
            rcases render_head v with ⟨c, text, htext, hgap, hclose⟩
            cases more with
            | nil => exact ⟨c, text ++ [']'], by rw [Json.renderItems, htext]; rfl, hgap, hclose⟩
            | cons w more =>
                exact ⟨c, _, by rw [Json.renderItems, htext, List.cons_append]; simp, hgap, hclose⟩
          rcases hhead with ⟨c, text, htext, hgap, hclose⟩
          have hclose' : some c ≠ some ']' := by
            simpa using hclose
          rw [htext, List.map_cons, List.cons_append] at hread
          rw [Json.render, List.map_cons, htext, List.map_cons, List.cons_append, List.cons_append,
            readValue_array hgap hclose', hread]
          rfl

def ReadsMembers (members : List (String × Json)) : Prop :=
  forall steps room rest, 2 * (Json.renderMembers members).length ≤ steps ->
    readMembers steps room ((Json.renderMembers members).map some ++ rest) =
      (membersWithin room members, some rest)

def readMember (steps room : Nat) (k : String) (text : List Glyph) :
    List (Option String × Tree) × Option (List Glyph) :=
  match readValue steps room text with
  | (t, none) => ([(some k, t)], none)
  | (t, some rest) =>
      match skipGap rest with
      | some ',' :: rest =>
          ((some k, t) :: (readMembers steps room rest).1, (readMembers steps room rest).2)
      | some '\x7d' :: rest => ([(some k, t)], some rest)
      | _ => ([(some k, t)], none)

theorem readMembers_first (k : String) (v : Json) (steps room : Nat) (tail : List Glyph) :
    readMembers (steps + 1) room ((Json.quote k ++ ':' :: Json.render v).map some ++ tail) =
      readMember steps room k ((Json.render v).map some ++ tail) := by
  have hstring := readString_quoted k (some ':' :: ((Json.render v).map some ++ tail))
  have htext : (Json.quote k ++ ':' :: Json.render v).map some ++ tail =
      some '"' :: ((k.toList.flatMap Json.escape ++ ['"']).map some ++
        some ':' :: ((Json.render v).map some ++ tail)) := by
    simp [Json.quote]
  have hcolon : skipGap (some ':' :: ((Json.render v).map some ++ tail)) =
      some ':' :: ((Json.render v).map some ++ tail) := skipGap_of_head (by decide) _
  rw [htext, readMembers, skipGap_of_head (by decide)]
  simp only [hstring, hcolon]
  rfl

theorem readsMembers_single (k : String) {v : Json} (hv : Reads v) :
    ReadsMembers [(k, v)] := by
  intro steps room rest hsteps
  cases steps with
  | zero => simp [Json.renderMembers] at hsteps
  | succ steps =>
      have hlength : 2 * (Json.render v).length ≤ steps := by
        simp only [Json.renderMembers, List.length_append, List.length_cons,
          List.length_nil] at hsteps
        omega
      have hread := hv steps room (some '\x7d' :: rest) hlength (Or.inr (Or.inr rfl))
      rw [Json.renderMembers, List.map_append, List.append_assoc]
      show readMembers (steps + 1) room (_ ++ some '\x7d' :: rest) = _
      rw [readMembers_first, readMember, hread]
      rfl

theorem readsMembers_cons (k : String) {v : Json} {e : String × Json}
    {more : List (String × Json)} (hv : Reads v) (hrest : ReadsMembers (e :: more)) :
    ReadsMembers ((k, v) :: e :: more) := by
  intro steps room rest hsteps
  have hrender : Json.renderMembers ((k, v) :: e :: more) =
      (Json.quote k ++ ':' :: Json.render v) ++ ',' :: Json.renderMembers (e :: more) := by
    rw [Json.renderMembers]
    simp
  rw [hrender] at hsteps ⊢
  cases steps with
  | zero => simp at hsteps
  | succ steps =>
      have hlength : 2 * (Json.render v).length ≤ steps ∧
          2 * (Json.renderMembers (e :: more)).length ≤ steps := by
        simp only [List.length_append, List.length_cons] at hsteps
        omega
      have hread := hv steps room
        (some ',' :: ((Json.renderMembers (e :: more)).map some ++ rest)) hlength.1 (Or.inl rfl)
      have hmore := hrest steps room rest hlength.2
      rw [List.map_append, List.append_assoc, List.map_cons, List.cons_append,
        readMembers_first, readMember, hread]
      show ((some k, treeWithin room v) :: (readMembers steps room _).1,
        (readMembers steps room _).2) = _
      rw [hmore]
      rfl

theorem readValue_object {g : Glyph} (hgap : isGap g = false) (hclose : g ≠ some '\x7d')
    (steps room : Nat) (rest : List Glyph) :
    readValue (steps + 1) room (some '\x7b' :: g :: rest) =
      (bounded room (.object (readMembers steps (room - 1) (g :: rest)).1
        (readMembers steps (room - 1) (g :: rest)).2.isSome),
        (readMembers steps (room - 1) (g :: rest)).2) := by
  rw [readValue, skipGap_of_head (by decide)]
  simp only [skipGap_of_head hgap]
  split
  · next h =>
      cases h
      exact absurd rfl hclose
  · rfl

theorem reads_object {members : List (String × Json)}
    (hmembers : members ≠ [] -> ReadsMembers members) : Reads (.object members) := by
  intro steps room rest hsteps hrest
  rw [Json.render, List.length_cons] at hsteps
  cases steps with
  | zero => omega
  | succ steps =>
      cases members with
      | nil =>
          show (bounded room (.object [] true), some rest) = _
          rfl
      | cons e more =>
          rcases e with ⟨k, v⟩
          have hread := hmembers (List.cons_ne_nil _ more) steps (room - 1) rest (by omega)
          have hhead : exists text, Json.renderMembers ((k, v) :: more) = '"' :: text := by
            cases more with
            | nil => exact ⟨_, rfl⟩
            | cons e more => exact ⟨_, rfl⟩
          rcases hhead with ⟨text, htext⟩
          rw [htext, List.map_cons, List.cons_append] at hread
          rw [Json.render, List.map_cons, htext, List.map_cons, List.cons_append, List.cons_append,
            readValue_object (by decide) (by decide), hread]
          rfl

mutual

/-- The text of every value is read to its end. -/
theorem reads : forall v : Json, Reads v
  | .null => reads_null
  | .bool b => reads_bool b
  | .number n => reads_number n
  | .string s => reads_string s
  | .array items => reads_array (readsItems items)
  | .object members => reads_object (readsMembers members)

theorem readsItems : forall items : List Json, items ≠ [] -> ReadsItems items
  | [], hne => absurd rfl hne
  | [v], _ => readsItems_single (reads v)
  | v :: w :: more, _ => readsItems_cons (reads v) (readsItems (w :: more) (List.cons_ne_nil w more))

theorem readsMembers : forall members : List (String × Json), members ≠ [] -> ReadsMembers members
  | [], hne => absurd rfl hne
  | [(k, v)], _ => readsMembers_single k (reads v)
  | (k, v) :: e :: more, _ =>
      readsMembers_cons k (reads v) (readsMembers (e :: more) (List.cons_ne_nil e more))

end

theorem itemsWithin_eq_map (room : Nat) (items : List Json) :
    itemsWithin room items = items.map (treeWithin room) := by
  induction items with
  | nil => rfl
  | cons v rest ih => rw [itemsWithin, ih, List.map_cons]

theorem membersWithin_eq_map (room : Nat) (members : List (String × Json)) :
    membersWithin room members = members.map fun e => (some e.1, treeWithin room e.2) := by
  induction members with
  | nil => rfl
  | cons e rest ih => rw [membersWithin, ih, List.map_cons]

theorem passable_bounded (room : Nat) (t : Tree) : (bounded room t).passable = t.passable := by
  unfold bounded
  split
  · rfl
  · rfl

theorem passable_numberTree (n : Number) : (numberTree n).passable = true := by
  unfold numberTree
  split
  · rfl
  · rfl

mutual

/-- Whatever a text says and however deep it is nested, it can be passed over. -/
theorem passable_treeWithin : forall (room : Nat) (v : Json), (treeWithin room v).passable = true
  | _, .null | _, .bool _ | _, .string _ => rfl
  | _, .number n => passable_numberTree n
  | room, .array items => by
      rw [treeWithin, passable_bounded, Tree.passable, passable_itemsWithin (room - 1) items]
      rfl
  | room, .object members => by
      rw [treeWithin, passable_bounded, Tree.passable, passable_membersWithin (room - 1) members]
      rfl

theorem passable_itemsWithin : forall (room : Nat) (items : List Json),
    Tree.passableItems (itemsWithin room items) = true
  | _, [] => rfl
  | room, v :: rest => by
      rw [itemsWithin, Tree.passableItems, passable_treeWithin room v,
        passable_itemsWithin room rest]
      rfl

theorem passable_membersWithin : forall (room : Nat) (members : List (String × Json)),
    Tree.passableMembers (membersWithin room members) = true
  | _, [] => rfl
  | room, (_, v) :: rest => by
      rw [membersWithin, Tree.passableMembers, passable_treeWithin room v,
        passable_membersWithin room rest]
      rfl

end

/-!
# Legible values
-/

mutual

/-- All numbers in a value are read from their texts as what they are. -/
def Legible : Json -> Prop
  | .number n => ReadsBack n
  | .array items => LegibleItems items
  | .object members => LegibleMembers members
  | _ => True

def LegibleItems : List Json -> Prop
  | [] => True
  | v :: rest => Legible v ∧ LegibleItems rest

def LegibleMembers : List (String × Json) -> Prop
  | [] => True
  | (_, v) :: rest => Legible v ∧ LegibleMembers rest

end

theorem legibleMembers_iff {members : List (String × Json)} :
    LegibleMembers members ↔ forall e, e ∈ members -> Legible e.2 := by
  induction members with
  | nil => simp [LegibleMembers]
  | cons e rest ih =>
      rcases e with ⟨k, v⟩
      simp [LegibleMembers, ih]

theorem numberTree_of_readsBack {n : Number} (hn : ReadsBack n) :
    numberTree n = .number (some n) := by
  unfold numberTree
  rw [hn]

mutual

theorem treeWithin_eq : forall {v : Json} {room : Nat}, Legible v -> (Tree.ofJson v).depth ≤ room ->
    treeWithin room v = Tree.ofJson v
  | .null, _, _, _ | .bool _, _, _, _ | .string _, _, _, _ => rfl
  | .number _, _, hv, _ => numberTree_of_readsBack hv
  | .array items, room, hv, hdepth => by
      have hroom : Tree.depthItems (Tree.ofItems items) + 1 ≤ room := hdepth
      rw [treeWithin, itemsWithin_eq hv (by omega), bounded_of_pos (by omega)]
      rfl
  | .object members, room, hv, hdepth => by
      have hroom : Tree.depthMembers (Tree.ofMembers members) + 1 ≤ room := hdepth
      rw [treeWithin, membersWithin_eq hv (by omega), bounded_of_pos (by omega)]
      rfl

theorem itemsWithin_eq : forall {items : List Json} {room : Nat}, LegibleItems items ->
    Tree.depthItems (Tree.ofItems items) ≤ room -> itemsWithin room items = Tree.ofItems items
  | [], _, _, _ => rfl
  | v :: rest, room, hv, hdepth => by
      have hroom : max (Tree.ofJson v).depth (Tree.depthItems (Tree.ofItems rest)) ≤ room := hdepth
      rw [itemsWithin, treeWithin_eq hv.1 (by omega), itemsWithin_eq hv.2 (by omega)]
      rfl

theorem membersWithin_eq : forall {members : List (String × Json)} {room : Nat},
    LegibleMembers members -> Tree.depthMembers (Tree.ofMembers members) ≤ room ->
    membersWithin room members = Tree.ofMembers members
  | [], _, _, _ => rfl
  | (k, v) :: rest, room, hv, hdepth => by
      have hroom : max (Tree.ofJson v).depth (Tree.depthMembers (Tree.ofMembers rest)) ≤ room :=
        hdepth
      rw [membersWithin, treeWithin_eq hv.1 (by omega), membersWithin_eq hv.2 (by omega)]
      rfl

end

/-!
# Whole texts
-/

theorem tree_render_within (v : Json) :
    tree ((Json.render v).map some) = (treeWithin maxDepth v, true) := by
  have hread := reads v (2 * ((Json.render v).map some).length + 2) maxDepth []
    (by rw [List.length_map]; omega) ended_nil
  rw [List.append_nil] at hread
  unfold tree
  rw [hread]
  rfl

/-- The text of a legible value is well-formed and says that value. -/
theorem tree_render {v : Json} (hv : Legible v) (hdepth : (Tree.ofJson v).depth ≤ maxDepth) :
    tree ((Json.render v).map some) = (Tree.ofJson v, true) := by
  rw [tree_render_within, treeWithin_eq hv hdepth]

theorem tree_compact {v : Json} (hv : Legible v) (hdepth : (Tree.ofJson v).depth ≤ maxDepth) :
    tree (Utf8.glyphs (Utf8.ofString v.compact)) = (Tree.ofJson v, true) := by
  rw [Utf8.glyphs_ofString, Json.compact, String.toList_ofList]
  exact tree_render hv hdepth

end JsonText
end ContentGateway
