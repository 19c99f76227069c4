import ContentGateway.Proofs.Json.Numerals

/-!
# Characters of compact texts

A compact text holds no control characters below the space: strings write them as escapes,
and nothing stands between the parts of a value.  So it takes one line.
-/

namespace ContentGateway
namespace JsonText

/-- All characters of a text are spaces or stand above the space. -/
def Inline (text : List Char) : Prop :=
  forall c, c ∈ text -> 32 ≤ c.toNat

instance (text : List Char) : Decidable (Inline text) :=
  decidable_of_iff (text.all (fun c => decide (32 ≤ c.toNat)) = true) (by simp [Inline])

theorem Inline.append {front back : List Char} (hfront : Inline front) (hback : Inline back) :
    Inline (front ++ back) := by
  intro c hc
  rcases List.mem_append.mp hc with hc | hc
  · exact hfront c hc
  · exact hback c hc

theorem Inline.cons {c : Char} {text : List Char} (hc : 32 ≤ c.toNat) (htext : Inline text) :
    Inline (c :: text) :=
  List.forall_mem_cons.mpr ⟨hc, htext⟩

/-!
# Numbers
-/

theorem IsDigits.inline {text : List Char} (h : IsDigits text) : Inline text := by
  intro c hc
  have hdigit := h.digit c hc
  rw [Char.isDigit, Bool.and_eq_true, decide_eq_true_eq] at hdigit
  exact Nat.le_trans (by decide) hdigit.1

theorem IsScale.inline {text : List Char} (h : IsScale text) : Inline text := by
  cases h with
  | none => nofun
  | signed hsign hdigits =>
      apply Inline.cons (by decide)
      rcases hsign with rfl | rfl
      · exact Inline.cons (by decide) hdigits.inline
      · exact Inline.cons (by decide) hdigits.inline

theorem IsNumeral.inline {text : List Char} (h : IsNumeral text) : Inline text := by
  rcases h with ⟨whole, tail, rfl, hwhole, _, htail⟩
  apply hwhole.inline.append
  cases htail with
  | whole hscale => exact hscale.inline
  | fraction hdigits hscale =>
      exact (Inline.cons (by decide) hdigits.inline).append hscale.inline

theorem inline_numberText (n : Number) : Inline (Json.numberText n) := by
  rcases numberText_cases n with htext | ⟨text, hnumeral, htext | htext⟩
  · rw [htext]
    decide
  · rw [htext]
    exact hnumeral.inline
  · rw [htext]
    exact Inline.cons (by decide) hnumeral.inline

/-!
# Strings
-/

theorem inline_hexDigits {n : Nat} (h : n < 32) :
    Inline ['\\', 'u', '0', '0', hexDigit (n / 16), hexDigit (n % 16)] := by
  decide +revert

theorem inline_escape (c : Char) : Inline (Json.escape c) := by
  unfold Json.escape
  iterate 7
    split
    · decide
  split
  · next hcontrol => exact inline_hexDigits hcontrol
  · next hcontrol => exact Inline.cons (Nat.not_lt.mp hcontrol) nofun

theorem inline_quote (s : String) : Inline (Json.quote s) := by
  have hcontent : Inline (s.toList.flatMap Json.escape) := by
    intro c hc
    rcases List.mem_flatMap.mp hc with ⟨d, _, hd⟩
    exact inline_escape d c hd
  exact (Inline.cons (by decide) hcontent).append (by decide)

/-!
# Values
-/

mutual

theorem inline_render : forall v : Json, Inline (Json.render v)
  | .null | .bool true | .bool false => by decide
  | .number n => inline_numberText n
  | .string s => inline_quote s
  | .array items => Inline.cons (by decide) (inline_renderItems items)
  | .object members => Inline.cons (by decide) (inline_renderMembers members)

theorem inline_renderItems : forall items : List Json, Inline (Json.renderItems items)
  | [] => by decide
  | [v] => (inline_render v).append (by decide)
  | v :: w :: more => by
      have hmore := inline_renderItems (w :: more)
      rw [Json.renderItems]
      · exact (inline_render v).append (Inline.cons (by decide) hmore)
      · simp

theorem inline_renderMembers : forall members : List (String × Json),
    Inline (Json.renderMembers members)
  | [] => by decide
  | [(k, v)] =>
      ((inline_quote k).append (Inline.cons (by decide) (inline_render v))).append (by decide)
  | (k, v) :: e :: more => by
      have hmember := (inline_quote k).append (Inline.cons (by decide : 32 ≤ ':'.toNat) (inline_render v))
      have hmore := inline_renderMembers (e :: more)
      rw [Json.renderMembers]
      · have hall := hmember.append (Inline.cons (by decide : 32 ≤ ','.toNat) hmore)
        simpa using hall
      · simp

end

/-- No line ends within a compact text. -/
theorem newline_not_mem_render (v : Json) : '\n' ∉ Json.render v :=
  fun h => absurd (inline_render v '\n' h) (by decide)

end JsonText
end ContentGateway
