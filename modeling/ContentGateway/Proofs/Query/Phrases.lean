import ContentGateway.Query.Evaluation

/-!
# Phrases

A phrase is found in a text exactly where its words stand next to one another, the last one as
the start of a word.  The same answer comes out of reading the windows of the text place by
place, and no such reading leaves the text.
-/

namespace ContentGateway
namespace Words

/-!
# Where a phrase stands
-/

theorem phraseAt_iff (front : List (List Char)) (last : List Char) (text : List (List Char)) :
    phraseAt (front ++ [last]) text = true ↔
      exists word after, text = front ++ word :: after ∧ last <+: word := by
  induction front generalizing text with
  | nil =>
      cases text with
      | nil => simp [phraseAt]
      | cons word after =>
          rw [List.nil_append, phraseAt, List.isPrefixOf_iff_prefix]
          constructor
          · intro h
            exact ⟨word, after, rfl, h⟩
          · rintro ⟨word', after', htext, h⟩
            rw [List.nil_append, List.cons.injEq] at htext
            rw [htext.1]
            exact h
  | cons first front ih =>
      cases text with
      | nil => simp [phraseAt]
      | cons word text =>
          have hcons : phraseAt (first :: front ++ [last]) (word :: text) =
              (first == word && phraseAt (front ++ [last]) text) := by
            cases front with
            | nil => rfl
            | cons second front => rfl
          rw [hcons, Bool.and_eq_true, beq_iff_eq, ih]
          constructor
          · rintro ⟨rfl, word', after, rfl, h⟩
            exact ⟨word', after, rfl, h⟩
          · rintro ⟨word', after, htext, h⟩
            rw [List.cons_append, List.cons.injEq] at htext
            exact ⟨htext.1.symm, word', after, htext.2, h⟩

theorem phraseIn_iff_phraseAt (phrase text : List (List Char)) :
    phraseIn phrase text = true ↔ exists place, phraseAt phrase (text.drop place) = true := by
  induction text with
  | nil =>
      cases phrase with
      | nil => simp [phraseIn, phraseAt]
      | cons first phrase => cases phrase <;> simp [phraseIn, phraseAt]
  | cons word text ih =>
      rw [phraseIn, Bool.or_eq_true, ih]
      constructor
      · rintro (hhere | ⟨place, hlater⟩)
        · exact ⟨0, hhere⟩
        · exact ⟨place + 1, hlater⟩
      · rintro ⟨place, h⟩
        cases place with
        | zero => exact .inl h
        | succ place => exact .inr ⟨place, h⟩

theorem phraseIn_iff (front : List (List Char)) (last : List Char) (text : List (List Char)) :
    phraseIn (front ++ [last]) text = true ↔
      exists before word after, text = before ++ front ++ [word] ++ after ∧ last <+: word := by
  rw [phraseIn_iff_phraseAt]
  constructor
  · rintro ⟨place, h⟩
    rcases (phraseAt_iff front last _).mp h with ⟨word, after, htext, hlast⟩
    refine ⟨text.take place, word, after, ?_, hlast⟩
    rw [List.append_assoc, List.singleton_append, List.append_assoc, ← htext,
      List.take_append_drop]
  · rintro ⟨before, word, after, rfl, hlast⟩
    refine ⟨before.length, (phraseAt_iff front last _).mpr ⟨word, after, ?_, hlast⟩⟩
    simp

theorem phraseIn_nil (text : List (List Char)) : phraseIn [] text = false := by
  induction text with
  | nil => rfl
  | cons word text ih => rw [phraseIn, phraseAt, ih, Bool.or_false]

/-!
# Windows

Reading by places, where a place that a list does not have gives nothing.
-/

section Windows

variable {α : Type}

def slice? (low high : Nat) (list : List α) : Option (List α) :=
  if low ≤ high ∧ high ≤ list.length then some ((list.take high).drop low) else none

/-- Whether some part of a list that is of a size satisfies `p`; a part is not empty. -/
def anyWindow? (size : Nat) (p : List α -> Option Bool) (list : List α) : Option Bool :=
  if size = 0 then none
  else (List.range (list.length + 1 - size)).anyM fun place =>
    (slice? place (place + size) list).bind p

theorem slice?_window {place size : Nat} {list : List α} (h : place + size ≤ list.length) :
    slice? place (place + size) list = some ((list.drop place).take size) := by
  unfold slice?
  rw [if_pos ⟨Nat.le_add_right _ _, h⟩, List.drop_take, Nat.add_sub_cancel_left]

theorem anyM_of_total {p : α -> Option Bool} {q : α -> Bool} {list : List α}
    (h : forall x, x ∈ list -> p x = some (q x)) : list.anyM p = some (list.any q) := by
  induction list with
  | nil => rfl
  | cons x list ih =>
      rw [List.anyM, h x List.mem_cons_self, Option.bind_eq_bind, Option.bind_some, List.any_cons]
      cases q x with
      | true => rfl
      | false => exact ih fun y hy => h y (List.mem_cons_of_mem _ hy)

theorem anyWindow?_of_total {size : Nat} (hsize : size ≠ 0) {p : List α -> Option Bool}
    {q : List α -> Bool} (h : forall window, window.length = size -> p window = some (q window))
    (list : List α) :
    anyWindow? size p list =
      some ((List.range (list.length + 1 - size)).any fun place =>
        q ((list.drop place).take size)) := by
  unfold anyWindow?
  rw [if_neg hsize]
  apply anyM_of_total
  intro place hplace
  have hbound : place + size ≤ list.length := by
    have hlt := List.mem_range.mp hplace
    omega
  rw [slice?_window hbound, Option.bind_some]
  apply h
  rw [List.length_take, List.length_drop]
  omega

end Windows

/-- Does a window hold the words of a phrase, with the start of the last one at its place? -/
def fits? (front : List (List Char)) (last : List Char) (window : List (List Char)) :
    Option Bool := do
  let words ← slice? 0 front.length window
  if words == front then
    let word ← window[front.length]?
    pure (last.isPrefixOf word)
  else pure false

/-- Whether a window of a text holds a phrase; the first one that does ends the search. -/
def phraseByWindows? (phrase text : List (List Char)) : Option Bool :=
  match phrase.getLast? with
  | none => some false
  | some last =>
      if text.length < phrase.length then some false
      else anyWindow? phrase.length (fits? phrase.dropLast last) text

theorem fits?_eq (front : List (List Char)) (last : List Char) {window : List (List Char)}
    (h : window.length = front.length + 1) :
    fits? front last window = some (phraseAt (front ++ [last]) window) := by
  rcases List.eq_nil_or_concat window with rfl | ⟨words, word, hwindow⟩
  · cases h
  rw [List.concat_eq_append] at hwindow
  subst hwindow
  have hlength : words.length = front.length := by
    simpa using h
  have hslice : slice? 0 front.length (words ++ [word]) = some words := by
    unfold slice?
    rw [if_pos ⟨Nat.zero_le _, by simp [hlength]⟩, ← hlength, List.take_left, List.drop_zero]
  have hword : (words ++ [word])[front.length]? = some word := by
    rw [← hlength, List.getElem?_concat_length]
  unfold fits?
  rw [hslice, hword, Option.bind_eq_bind, Option.bind_some, Option.bind_eq_bind, Option.bind_some]
  have hphrase : phraseAt (front ++ [last]) (words ++ [word]) =
      (words == front && last.isPrefixOf word) := by
    rw [Bool.eq_iff_iff, phraseAt_iff, Bool.and_eq_true, beq_iff_eq, List.isPrefixOf_iff_prefix]
    constructor
    · rintro ⟨word', after, htext, hlast⟩
      rcases List.append_inj htext hlength with ⟨rfl, hrest⟩
      rw [List.cons.injEq] at hrest
      rw [hrest.1]
      exact ⟨rfl, hlast⟩
    · rintro ⟨rfl, hlast⟩
      exact ⟨word, [], rfl, hlast⟩
  rw [hphrase]
  cases words == front with
  | true => rfl
  | false => rfl

theorem phraseAt_window (front : List (List Char)) (last : List Char) (text : List (List Char)) :
    phraseAt (front ++ [last]) (text.take (front.length + 1)) = phraseAt (front ++ [last]) text := by
  rw [Bool.eq_iff_iff, phraseAt_iff, phraseAt_iff]
  constructor
  · rintro ⟨word, after, htext, hlast⟩
    refine ⟨word, after ++ text.drop (front.length + 1), ?_, hlast⟩
    have hwhole := List.take_append_drop (front.length + 1) text
    rw [htext, List.append_assoc, List.cons_append] at hwhole
    exact hwhole.symm
  · rintro ⟨word, after, rfl, hlast⟩
    refine ⟨word, [], ?_, hlast⟩
    rw [List.take_length_add_append]
    rfl

theorem le_length_of_phraseAt {front : List (List Char)} {last : List Char}
    {text : List (List Char)} (h : phraseAt (front ++ [last]) text = true) :
    front.length + 1 ≤ text.length := by
  rcases (phraseAt_iff front last text).mp h with ⟨word, after, rfl, _⟩
  rw [List.length_append, List.length_cons]
  omega

/-- Reading the windows of a text finds a phrase where it stands and never leaves the text. -/
theorem phraseByWindows?_eq (phrase text : List (List Char)) :
    phraseByWindows? phrase text = some (phraseIn phrase text) := by
  rcases List.eq_nil_or_concat phrase with rfl | ⟨front, last, hphrase⟩
  · rw [phraseIn_nil]
    rfl
  rw [List.concat_eq_append] at hphrase
  subst hphrase
  have hsize : (front ++ [last]).length = front.length + 1 := List.length_append
  unfold phraseByWindows?
  rw [List.getLast?_concat, List.dropLast_concat, hsize]
  simp only
  split
  · next hshort =>
      symm
      rw [Option.some.injEq, Bool.eq_false_iff, ne_eq, phraseIn_iff_phraseAt]
      rintro ⟨place, h⟩
      have hlength := le_length_of_phraseAt h
      rw [List.length_drop] at hlength
      omega
  · rw [anyWindow?_of_total (Nat.succ_ne_zero _) (fun _ => fits?_eq front last),
      Option.some.injEq, Bool.eq_iff_iff, phraseIn_iff_phraseAt, List.any_eq_true]
    constructor
    · rintro ⟨place, _, h⟩
      rw [phraseAt_window] at h
      exact ⟨place, h⟩
    · rintro ⟨place, h⟩
      have hlength := le_length_of_phraseAt h
      rw [List.length_drop] at hlength
      refine ⟨place, List.mem_range.mpr (by omega), ?_⟩
      rw [phraseAt_window]
      exact h

end Words

namespace Json

/--
A field has the phrase of a value if and only if the value has words and these follow one another
among the words of the field, the last one as the start of a word.  The answer is read off
windows of the field's words without leaving them.
-/
theorem phrase_held (field value : Json) :
    (field.hasPhrase value = true ↔
      exists front last, Words.ofValue value = front ++ [last] ∧
        exists before word after,
          Words.ofValue field = before ++ front ++ [word] ++ after ∧ last <+: word) ∧
    Words.phraseByWindows? (Words.ofValue value) (Words.ofValue field) =
      some (field.hasPhrase value) := by
  refine ⟨?_, Words.phraseByWindows?_eq _ _⟩
  unfold hasPhrase
  rcases List.eq_nil_or_concat (Words.ofValue value) with hnone | ⟨front, last, hvalue⟩
  · rw [hnone, Words.phraseIn_nil]
    simp
  · rw [List.concat_eq_append] at hvalue
    rw [hvalue, Words.phraseIn_iff]
    constructor
    · intro h
      exact ⟨front, last, rfl, h⟩
    · rintro ⟨front', last', hsame, h⟩
      rcases List.append_inj' hsame rfl with ⟨rfl, hlast⟩
      rw [List.head_eq_of_cons_eq hlast]
      exact h

end Json
end ContentGateway
