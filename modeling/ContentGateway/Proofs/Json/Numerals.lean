import ContentGateway.Proofs.Decimal.Shortest
import ContentGateway.Proofs.Json.Numbers

/-!
# Texts of numbers

The text of every number is a numeral: digits without needless zeros before them, perhaps a
fraction, perhaps an exponent.  Only a double that is not finite is written as a word.  A
numeral is read to its end, whichever number it stands for.
-/

namespace ContentGateway
namespace JsonText

/-!
# Numerals
-/

structure IsDigits (text : List Char) : Prop where
  filled : text ≠ []
  digit : forall c, c ∈ text -> c.isDigit = true

/-- Nothing, or an exponent with its sign. -/
inductive IsScale : List Char -> Prop where
  | none : IsScale []
  | signed {sign : Char} {digits : List Char} :
      sign = '+' ∨ sign = '-' -> IsDigits digits -> IsScale ('e' :: sign :: digits)

inductive IsTail : List Char -> Prop where
  | whole {scale : List Char} : IsScale scale -> IsTail scale
  | fraction {digits scale : List Char} :
      IsDigits digits -> IsScale scale -> IsTail ('.' :: digits ++ scale)

/-- A number without a sign: a zero stands alone before the point. -/
def IsNumeral (text : List Char) : Prop :=
  exists whole tail, text = whole ++ tail ∧ IsDigits whole ∧
    (whole.head? = some '0' -> whole = ['0']) ∧ IsTail tail

theorem IsDigits.head {text : List Char} (h : IsDigits text) :
    exists c d rest, text = c :: rest ∧ Decimal.digit? c = some d := by
  cases text with
  | nil => exact absurd rfl h.filled
  | cons c rest =>
      exact ⟨c, _, rest, rfl, Decimal.digit?_of_isDigit (h.digit c List.mem_cons_self)⟩

theorem IsNumeral.head {text : List Char} (h : IsNumeral text) :
    exists c d rest, text = c :: rest ∧ Decimal.digit? c = some d := by
  rcases h with ⟨whole, tail, rfl, hwhole, _⟩
  rcases hwhole.head with ⟨c, d, rest, rfl, hc⟩
  exact ⟨c, d, rest ++ tail, rfl, hc⟩

/-!
# Reading numerals
-/

theorem readExponent_digits {digits : List Char} (h : IsDigits digits) (negative down : Bool)
    (significand : Nat) (exponent : Int) :
    exists n, readExponent negative significand exponent down (digits.map some) = some (n, []) := by
  unfold readExponent
  rw [spanDigits_digits h.digit]
  cases digits with
  | nil => exact absurd rfl h.filled
  | cons c digits => exact ⟨_, rfl⟩

theorem readScale_scale {scale : List Char} (h : IsScale scale) (negative : Bool)
    (significand : Nat) (exponent : Int) :
    exists n, readScale negative significand exponent (scale.map some) = some (n, []) := by
  cases h with
  | none => exact ⟨_, rfl⟩
  | signed hsign hdigits =>
      rw [List.map_cons, readScale_exponent (Or.inl rfl)]
      rcases hsign with rfl | rfl
      · exact readExponent_digits hdigits negative false significand exponent
      · exact readExponent_digits hdigits negative true significand exponent

theorem spanDigits_scale {scale : List Char} (h : IsScale scale) :
    spanDigits (scale.map some) = ([], scale.map some) := by
  cases h with
  | none => rfl
  | signed => rfl

theorem spanDigits_tail {tail : List Char} (h : IsTail tail) :
    spanDigits (tail.map some) = ([], tail.map some) := by
  cases h with
  | whole hscale => exact spanDigits_scale hscale
  | fraction => rfl

theorem readFraction_digits {digits scale : List Char} (hdigits : IsDigits digits)
    (hscale : IsScale scale) (negative : Bool) (n unread : Nat) :
    exists x, readFraction negative n unread ((digits ++ scale).map some) = some (x, []) := by
  unfold readFraction
  rw [List.map_append, spanDigits_digits_append hdigits.digit (spanDigits_scale hscale)]
  cases digits with
  | nil => exact absurd rfl hdigits.filled
  | cons c digits => exact readScale_scale hscale negative _ _

theorem readBehind_tail {tail : List Char} (h : IsTail tail) (negative : Bool)
    (whole : List Nat) :
    exists n, readBehind negative whole (tail.map some) = some (n, []) := by
  cases h with
  | fraction hdigits hscale => exact readFraction_digits hdigits hscale negative _ _
  | whole hscale =>
      have hhead : (tail.map some).head? ≠ some (some '.') := by
        cases hscale with
        | none => nofun
        | signed => rintro ⟨⟩
      rw [readBehind_plain negative whole hhead]
      split
      · next hint =>
          cases hscale with
          | none => exact ⟨_, rfl⟩
          | signed => cases (Bool.and_eq_true_iff.mp hint).2
      · exact readScale_scale hscale negative _ _

theorem readNumber_numeral {text : List Char} (h : IsNumeral text) (negative : Bool) :
    exists n, readNumber negative (text.map some) = some (n, []) := by
  rcases h with ⟨whole, tail, rfl, hwhole, hzero, htail⟩
  rw [List.map_append, readNumber_digits negative hwhole.filled hwhole.digit hzero
    (spanDigits_tail htail)]
  exact readBehind_tail htail negative _

/-!
# Writing numerals
-/

theorem isDigits_toDigits (n : Nat) : IsDigits (Nat.toDigits 10 n) :=
  ⟨Nat.toDigits_ne_nil, fun _ hc => Nat.isDigit_of_mem_toDigits (by decide) (by decide) hc⟩

theorem isDigit_zeros {n : Int} {c : Char} (h : c ∈ Json.zeros n) : c.isDigit = true := by
  rw [List.eq_of_mem_replicate h]
  rfl

theorem isNumeral_toDigits (n : Nat) : IsNumeral (Nat.toDigits 10 n) :=
  ⟨Nat.toDigits 10 n, [], (List.append_nil _).symm, isDigits_toDigits n, toDigits_zero_alone,
    .whole .none⟩

theorem isScale_exponent (point : Int) :
    IsScale ('e' :: (if point ≥ 1 then ['+'] else []) ++ Json.intText (point - 1)) := by
  unfold Json.intText
  by_cases hpoint : point ≥ 1
  · have hpositive : ¬ point - 1 < 0 := by
      omega
    rw [if_pos hpoint, if_neg hpositive]
    exact .signed (Or.inl rfl) (isDigits_toDigits _)
  · have hnegative : point - 1 < 0 := by
      omega
    rw [if_neg hpoint, if_pos hnegative]
    exact .signed (Or.inr rfl) (isDigits_toDigits _)

theorem isNumeral_scaledUp {d : Decimal.Digits} (h : d.Proper) (hexponent : 0 ≤ d.exponent) :
    IsNumeral (Nat.toDigits 10 d.digits ++ Json.zeros d.exponent ++ ['.', '0']) := by
  have hfraction : IsDigits ['0'] := ⟨List.cons_ne_nil _ _, by simp⟩
  refine ⟨_, _, rfl, ⟨?_, ?_⟩, ?_, .fraction hfraction .none⟩
  · exact fun hnil => Nat.toDigits_ne_nil (List.append_eq_nil_iff.mp hnil).1
  · intro c hc
    rcases List.mem_append.mp hc with hdigit | hzero
    · exact (isDigits_toDigits _).digit c hdigit
    · exact isDigit_zeros hzero
  · intro hhead
    rcases Nat.eq_zero_or_pos d.digits with hzero | hpos
    · have hunit : d.exponent = 0 := Int.le_antisymm (h hzero) hexponent
      rw [hzero, hunit]
      rfl
    · rcases toDigits_head hpos with ⟨c, digits, hcons, hc⟩
      rw [hcons] at hhead
      exact absurd (Option.some.inj hhead) hc

theorem isNumeral_divided {n count : Nat} (hpos : 0 < count)
    (hless : count < (Nat.toDigits 10 n).length) :
    IsNumeral ((Nat.toDigits 10 n).take count ++ '.' :: (Nat.toDigits 10 n).drop count) := by
  have hdigit := (isDigits_toDigits n).digit
  have hfraction : IsDigits ((Nat.toDigits 10 n).drop count) := by
    constructor
    · intro hnil
      exact absurd (List.drop_eq_nil_iff.mp hnil) (Nat.not_le.mpr hless)
    · exact fun c hc => hdigit c (List.mem_of_mem_drop hc)
  have htail : IsTail ('.' :: (Nat.toDigits 10 n).drop count ++ []) := .fraction hfraction .none
  rw [List.append_nil] at htail
  refine ⟨_, _, rfl, ⟨?_, ?_⟩, ?_, htail⟩
  · intro hnil
    rcases List.take_eq_nil_iff.mp hnil with hzero | hnone
    · omega
    · exact Nat.toDigits_ne_nil hnone
  · exact fun c hc => hdigit c (List.mem_of_mem_take hc)
  · intro hhead
    rw [List.head?_take] at hhead
    rw [if_neg (Nat.ne_of_gt hpos)] at hhead
    rw [toDigits_zero_alone hhead] at hless
    exact absurd hless (Nat.not_lt.mpr hpos)

theorem isNumeral_scaledDown (n : Nat) (exponent : Int) :
    IsNumeral ('0' :: '.' :: Json.zeros exponent ++ Nat.toDigits 10 n) := by
  have hfraction : IsDigits (Json.zeros exponent ++ Nat.toDigits 10 n) := by
    constructor
    · exact fun hnil => Nat.toDigits_ne_nil (List.append_eq_nil_iff.mp hnil).2
    · intro c hc
      rcases List.mem_append.mp hc with hzero | hdigit
      · exact isDigit_zeros hzero
      · exact (isDigits_toDigits n).digit c hdigit
  have htail : IsTail ('.' :: (Json.zeros exponent ++ Nat.toDigits 10 n) ++ []) :=
    .fraction hfraction .none
  rw [List.append_nil] at htail
  exact ⟨['0'], _, rfl, ⟨by decide, by simp⟩, fun _ => rfl, htail⟩

theorem isNumeral_scientific {n : Nat} {scale : List Char} (hscale : IsScale scale) :
    IsNumeral ((Nat.toDigits 10 n).take 1 ++
      (if (Nat.toDigits 10 n).length = 1 then [] else '.' :: (Nat.toDigits 10 n).drop 1) ++
      scale) := by
  cases htext : Nat.toDigits 10 n with
  | nil => exact absurd htext Nat.toDigits_ne_nil
  | cons c digits =>
      have hdigit := (isDigits_toDigits n).digit
      rw [htext] at hdigit
      have hwhole : IsDigits [c] := ⟨List.cons_ne_nil _ _, fun d hd => by
        rw [List.mem_singleton.mp hd]
        exact hdigit c List.mem_cons_self⟩
      have hzero : [c].head? = some '0' -> [c] = ['0'] := by
        intro hhead
        rw [Option.some.inj hhead]
      rw [List.append_assoc]
      refine ⟨[c], _, rfl, hwhole, hzero, ?_⟩
      split
      · exact .whole hscale
      · next hlength =>
          refine .fraction ⟨?_, ?_⟩ hscale
          · rintro hnil
            rw [List.drop_one, List.tail_cons] at hnil
            rw [hnil] at hlength
            exact hlength rfl
          · exact fun d hd => hdigit d (List.mem_cons_of_mem c hd)

theorem isNumeral_digitsText {d : Decimal.Digits} (h : d.Proper) (style : FloatStyle) :
    IsNumeral (Json.digitsText style d) := by
  unfold Json.digitsText
  simp only [Bool.and_eq_true, decide_eq_true_eq]
  split
  · next hup => exact isNumeral_scaledUp h hup.1
  split
  · next hup hbetween => exact isNumeral_divided (by omega) (by omega)
  split
  · exact isNumeral_scaledDown _ _
  · have hscientific := isNumeral_scientific (n := d.digits)
      (isScale_exponent ((Nat.toDigits 10 d.digits).length + d.exponent))
    rw [← List.append_assoc] at hscientific
    exact hscientific

/-- The text of a number is a word or a numeral, perhaps behind a sign. -/
theorem numberText_cases (n : Number) :
    Json.numberText n = "null".toList ∨
      exists text, IsNumeral text ∧
        (Json.numberText n = text ∨ Json.numberText n = '-' :: text) := by
  have hsigned : forall (negative : Prop) [Decidable negative] {text : List Char},
      IsNumeral text -> exists numeral, IsNumeral numeral ∧
        ((if negative then ['-'] else []) ++ text = numeral ∨
          (if negative then ['-'] else []) ++ text = '-' :: numeral) := by
    intro negative _ text htext
    refine ⟨text, htext, ?_⟩
    split
    · exact Or.inr rfl
    · exact Or.inl rfl
  cases n with
  | int n => exact Or.inr (hsigned _ (isNumeral_toDigits _))
  | float x =>
      rw [Json.numberText, Json.floatText]
      split
      · exact Or.inl rfl
      · apply Or.inr
        apply hsigned
        split
        · exact isNumeral_scaledUp (d := ⟨0, 0⟩) (fun _ => Int.le_refl 0) (Int.le_refl 0)
        · exact isNumeral_digitsText (Decimal.proper_shortest x) _

end JsonText
end ContentGateway
