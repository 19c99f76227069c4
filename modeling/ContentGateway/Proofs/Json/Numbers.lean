import Mathlib.Data.List.Basic
import ContentGateway.Json.Printer
import ContentGateway.Json.Text
import ContentGateway.Proofs.Text.Hex

/-!
# Numbers read back

A number is read up to the character behind it, so that its text alone decides how it
is read.  Integers of a machine word are read as what they were written from; whether a
double is depends on its digits.
-/

namespace ContentGateway
namespace JsonText

/-- A text that a number before it cannot run into. -/
def Ended : List Glyph -> Prop
  | [] => True
  | g :: _ => g = some ',' ∨ g = some ']' ∨ g = some '\x7d'

theorem ended_nil : Ended [] := trivial

theorem Ended.not_digit {g : Glyph} {rest : List Glyph} (h : Ended (g :: rest)) :
    exists c, g = some c ∧ Decimal.digit? c = none ∧ c ≠ '.' ∧ c ≠ 'e' ∧ c ≠ 'E' := by
  rcases h with rfl | rfl | rfl
  · exact ⟨',', rfl, by decide, by decide, by decide, by decide⟩
  · exact ⟨']', rfl, by decide, by decide, by decide, by decide⟩
  · exact ⟨'\x7d', rfl, by decide, by decide, by decide, by decide⟩

/-!
# What follows a number
-/

theorem spanDigits_ended {rest : List Glyph} (hrest : Ended rest) :
    spanDigits rest = ([], rest) := by
  cases rest with
  | nil => rfl
  | cons g rest =>
      rcases hrest.not_digit with ⟨c, rfl, hc, _⟩
      simp only [spanDigits, hc]

theorem spanDigits_append {text after rest : List Glyph} {digits : List Nat}
    (h : spanDigits text = (digits, after)) (hrest : Ended rest) :
    spanDigits (text ++ rest) = (digits, after ++ rest) := by
  induction text generalizing digits after with
  | nil =>
      cases h
      exact spanDigits_ended hrest
  | cons g text ih =>
      cases g with
      | none =>
          cases h
          rfl
      | some c =>
          rw [List.cons_append, spanDigits]
          rw [spanDigits] at h
          cases hc : Decimal.digit? c with
          | none =>
              rw [hc] at h
              cases h
              rfl
          | some d =>
              rw [hc] at h
              cases h
              rw [ih rfl]

theorem readScale_ended {rest : List Glyph} (hrest : Ended rest) (negative : Bool)
    (significand : Nat) (exponent : Int) :
    readScale negative significand exponent rest =
      some (signedFloat negative significand exponent, rest) := by
  cases rest with
  | nil => rfl
  | cons g rest =>
      rcases hrest.not_digit with ⟨c, rfl, _, _, he, hE⟩
      simp only [readScale, he, hE, or_self, if_false]

def readExponent (negative : Bool) (significand : Nat) (exponent : Int) (down : Bool)
    (text : List Glyph) : Option (Option Number × List Glyph) :=
  match spanDigits text with
  | ([], _) => none
  | (digits, rest) =>
      let n : Int := Decimal.ofDigits digits
      some (signedFloat negative significand (exponent + (if down then -n else n)), rest)

theorem readExponent_append {negative down : Bool} {significand : Nat} {exponent : Int}
    {text after rest : List Glyph} {n : Option Number}
    (h : readExponent negative significand exponent down text = some (n, after))
    (hrest : Ended rest) :
    readExponent negative significand exponent down (text ++ rest) = some (n, after ++ rest) := by
  unfold readExponent at h ⊢
  cases hspan : spanDigits text with
  | mk digits behind =>
      rw [hspan] at h
      rw [spanDigits_append hspan hrest]
      cases digits with
      | nil => cases h
      | cons d digits =>
          cases h
          rfl

def exponentSign : List Glyph -> Bool × List Glyph
  | some '-' :: rest => (true, rest)
  | some '+' :: rest => (false, rest)
  | rest => (false, rest)

theorem readScale_exponent {c : Char} (hc : c = 'e' ∨ c = 'E') (negative : Bool)
    (significand : Nat) (exponent : Int) (text : List Glyph) :
    readScale negative significand exponent (some c :: text) =
      readExponent negative significand exponent (exponentSign text).1 (exponentSign text).2 := by
  simp only [readScale]
  rw [if_pos hc]
  unfold exponentSign
  cases text with
  | nil => rfl
  | cons g text =>
      cases g with
      | none => rfl
      | some s =>
          by_cases hminus : s = '-'
          · subst hminus
            rfl
          · by_cases hplus : s = '+'
            · subst hplus
              rfl
            · unfold readExponent
              cases spanDigits (some s :: text) with
              | mk digits rest =>
                  cases digits with
                  | nil => rfl
                  | cons d digits => rfl

theorem exponentSign_append {text : List Glyph} (htext : text ≠ []) (rest : List Glyph) :
    exponentSign (text ++ rest) = ((exponentSign text).1, (exponentSign text).2 ++ rest) := by
  cases text with
  | nil => exact absurd rfl htext
  | cons g text =>
      unfold exponentSign
      split
      · next h =>
          cases h
          rfl
      · next h =>
          cases h
          rfl
      · next hminus hplus =>
          split
          · next h =>
              cases h
              exact absurd rfl (hminus _)
          · next h =>
              cases h
              exact absurd rfl (hplus _)
          · rfl

theorem readScale_append {negative : Bool} {significand : Nat} {exponent : Int}
    {text after rest : List Glyph} {n : Option Number}
    (h : readScale negative significand exponent text = some (n, after))
    (hrest : Ended rest) :
    readScale negative significand exponent (text ++ rest) = some (n, after ++ rest) := by
  cases text with
  | nil =>
      cases h
      exact readScale_ended hrest negative significand exponent
  | cons g text =>
      cases g with
      | none =>
          cases h
          rfl
      | some c =>
          by_cases hc : c = 'e' ∨ c = 'E'
          · rw [readScale_exponent hc] at h
            rw [List.cons_append, readScale_exponent hc, exponentSign_append]
            · exact readExponent_append h hrest
            · rintro rfl
              cases h
          · simp only [readScale, hc, if_false] at h
            cases h
            simp only [List.cons_append, readScale, hc, if_false]

theorem startsExponent_append {text rest : List Glyph} (hrest : Ended rest) :
    startsExponent (text ++ rest) = startsExponent text := by
  cases text with
  | nil =>
      cases rest with
      | nil => rfl
      | cons g rest =>
          rcases hrest.not_digit with ⟨c, rfl, _, _, he, hE⟩
          simp [startsExponent, he, hE]
  | cons g text =>
      cases g with
      | none => rfl
      | some c => rfl

def readFraction (negative : Bool) (n unread : Nat) (text : List Glyph) :
    Option (Option Number × List Glyph) :=
  match spanDigits text with
  | ([], _) => none
  | (part, rest) =>
      let (n, dropped) := takeWord n part
      let taken : Int := (part.length : Int) - dropped.length
      readScale negative n (unread - taken) rest

theorem readFraction_append {negative : Bool} {n unread : Nat} {text after rest : List Glyph}
    {number : Option Number} (h : readFraction negative n unread text = some (number, after))
    (hrest : Ended rest) :
    readFraction negative n unread (text ++ rest) = some (number, after ++ rest) := by
  unfold readFraction at h ⊢
  cases hspan : spanDigits text with
  | mk digits behind =>
      rw [hspan] at h
      rw [spanDigits_append hspan hrest]
      cases digits with
      | nil => cases h
      | cons d digits => exact readScale_append h hrest

def readBehind (negative : Bool) (whole : List Nat) (text : List Glyph) :
    Option (Option Number × List Glyph) :=
  let (n, unread) := takeWord 0 whole
  match text with
  | some '.' :: rest => readFraction negative n unread.length rest
  | rest =>
      if unread.isEmpty && !startsExponent rest then some (some (signedInt negative n), rest)
      else readScale negative n unread.length rest

theorem readNumber_eq (negative : Bool) (text : List Glyph) :
    readNumber negative text =
      match spanDigits text with
      | ([], _) => none
      | (0 :: _ :: _, _) => none
      | (whole, rest) => readBehind negative whole rest := by
  unfold readNumber readBehind readFraction
  rfl

theorem readBehind_plain (negative : Bool) (whole : List Nat) {text : List Glyph}
    (hhead : text.head? ≠ some (some '.')) :
    readBehind negative whole text =
      if (takeWord 0 whole).2.isEmpty && !startsExponent text then
        some (some (signedInt negative (takeWord 0 whole).1), text)
      else readScale negative (takeWord 0 whole).1 (takeWord 0 whole).2.length text := by
  unfold readBehind
  split
  next n unread htake =>
    rw [htake]
    split
    · exact absurd rfl hhead
    · rfl

theorem readBehind_append {negative : Bool} {whole : List Nat} {text after rest : List Glyph}
    {n : Option Number} (h : readBehind negative whole text = some (n, after))
    (hrest : Ended rest) :
    readBehind negative whole (text ++ rest) = some (n, after ++ rest) := by
  -- only behind a point digits go on, and no rest that ends a number begins with one
  by_cases hhead : text.head? = some (some '.')
  · rcases List.head?_eq_some_iff.mp hhead with ⟨part, rfl⟩
    exact readFraction_append h hrest
  · have hhead' : (text ++ rest).head? ≠ some (some '.') := by
      cases text with
      | cons g text => exact hhead
      | nil =>
          cases rest with
          | nil => exact hhead
          | cons g rest =>
              rcases hrest.not_digit with ⟨c, rfl, _, hpoint, _⟩
              simpa using hpoint
    rw [readBehind_plain negative whole hhead] at h
    rw [readBehind_plain negative whole hhead', startsExponent_append hrest]
    split at h
    · next hint =>
        cases h
        rw [if_pos hint]
    · next hint =>
        rw [if_neg hint]
        exact readScale_append h hrest

/-- What ends a number does not change how it is read. -/
theorem readNumber_append {negative : Bool} {text after rest : List Glyph} {n : Option Number}
    (h : readNumber negative text = some (n, after)) (hrest : Ended rest) :
    readNumber negative (text ++ rest) = some (n, after ++ rest) := by
  rw [readNumber_eq] at h ⊢
  cases hspan : spanDigits text with
  | mk whole behind =>
      rw [hspan] at h
      rw [spanDigits_append hspan hrest]
      cases whole with
      | nil => cases h
      | cons d whole =>
          cases whole with
          | nil =>
              cases d with
              | zero => exact readBehind_append h hrest
              | succ d => exact readBehind_append h hrest
          | cons d' whole =>
              cases d with
              | zero => cases h
              | succ d => exact readBehind_append h hrest

/-!
# Integers
-/

theorem value_ne_zero {c : Char} (h : c.isDigit = true) (hc : c ≠ '0') :
    c.toNat - '0'.toNat ≠ 0 := by
  have hlow : '0'.toNat ≤ c.toNat := by
    rw [Char.isDigit, Bool.and_eq_true, decide_eq_true_eq] at h
    exact h.1
  intro hzero
  apply hc
  rw [← Char.ofNat_toNat c, Nat.le_antisymm (Nat.le_of_sub_eq_zero hzero) hlow]
  rfl

theorem spanDigits_digits_append {digits : List Char}
    (h : forall c, c ∈ digits -> c.isDigit = true) {rest : List Glyph}
    (hrest : spanDigits rest = ([], rest)) :
    spanDigits (digits.map some ++ rest) = (digits.map fun c => c.toNat - '0'.toNat, rest) := by
  induction digits with
  | nil => exact hrest
  | cons c digits ih =>
      have hmore := ih fun d hd => h d (List.mem_cons_of_mem _ hd)
      rw [List.map_cons, List.cons_append, spanDigits,
        Decimal.digit?_of_isDigit (h c (List.mem_cons_self ..))]
      simp only [hmore, List.map_cons]

theorem spanDigits_digits {digits : List Char} (h : forall c, c ∈ digits -> c.isDigit = true) :
    spanDigits (digits.map some) = (digits.map fun c => c.toNat - '0'.toNat, []) := by
  have hspan : spanDigits (digits.map some ++ []) = _ := spanDigits_digits_append h rfl
  rw [List.append_nil] at hspan
  exact hspan

theorem takeWord_of_le {digits : List Nat} {n : Nat}
    (h : digits.foldl (fun n d => 10 * n + d) n ≤ largestWord) :
    takeWord n digits = (digits.foldl (fun n d => 10 * n + d) n, []) := by
  have hgrows : forall (digits : List Nat) n, n ≤ digits.foldl (fun n d => 10 * n + d) n := by
    intro digits
    induction digits with
    | nil => exact fun n => Nat.le_refl n
    | cons d digits ih =>
        intro n
        exact Nat.le_trans (by omega) (ih (10 * n + d))
  induction digits generalizing n with
  | nil => rfl
  | cons d digits ih =>
      rw [takeWord, if_pos (Nat.le_trans (hgrows digits _) h)]
      exact ih h

theorem readNumber_digits (negative : Bool) {digits : List Char} (hsome : digits ≠ [])
    (hdigits : forall c, c ∈ digits -> c.isDigit = true)
    (hzero : digits.head? = some '0' -> digits = ['0']) {rest : List Glyph}
    (hrest : spanDigits rest = ([], rest)) :
    readNumber negative (digits.map some ++ rest) =
      readBehind negative (digits.map fun c => c.toNat - '0'.toNat) rest := by
  rw [readNumber_eq, spanDigits_digits_append hdigits hrest]
  cases digits with
  | nil => exact absurd rfl hsome
  | cons c digits =>
      by_cases hc : c = '0'
      · subst hc
        rw [hzero rfl]
        rfl
      · have hfirst := value_ne_zero (hdigits c (List.mem_cons_self ..)) hc
        rw [List.map_cons]
        cases hvalue : c.toNat - '0'.toNat with
        | zero => exact absurd hvalue hfirst
        | succ d => cases digits.map (fun c => c.toNat - '0'.toNat) <;> rfl

theorem toDigits_zero_alone {n : Nat} (h : (Nat.toDigits 10 n).head? = some '0') :
    Nat.toDigits 10 n = ['0'] := by
  rcases Nat.eq_zero_or_pos n with rfl | hpos
  · rfl
  · rcases toDigits_head hpos with ⟨c, digits, hcons, hc⟩
    rw [hcons] at h
    exact absurd (Option.some.inj h) hc

theorem readNumber_toDigits (negative : Bool) {n : Nat} (hn : n ≤ largestWord) :
    readNumber negative ((Nat.toDigits 10 n).map some) = some (some (signedInt negative n), []) := by
  have hdigits : forall c, c ∈ Nat.toDigits 10 n -> c.isDigit = true :=
    fun c hc => Nat.isDigit_of_mem_toDigits (by decide) (by decide) hc
  have hvalue : ((Nat.toDigits 10 n).map fun c => c.toNat - '0'.toNat).foldl
      (fun n d => 10 * n + d) 0 = n := by
    rw [List.foldl_map, ← Nat.ofDigitChars_eq_foldl]
    exact Nat.ofDigitChars_ten_toDigits
  have hread : readNumber negative ((Nat.toDigits 10 n).map some ++ []) = _ :=
    readNumber_digits negative Nat.toDigits_ne_nil hdigits toDigits_zero_alone rfl
  rw [List.append_nil] at hread
  rw [hread]
  unfold readBehind
  rw [takeWord_of_le (by rw [hvalue]; exact hn), hvalue]
  rfl

def readSigned : List Char -> Option (Option Number × List Glyph)
  | '-' :: text => readNumber true (text.map some)
  | text => readNumber false (text.map some)

/-- A number that is read from its text as what it is. -/
def ReadsBack (n : Number) : Prop :=
  readSigned (Json.numberText n) = some (some n, [])

/-- The integers of machine words, with and without a sign, read back. -/
theorem readsBack_int {n : Int} (hlow : -(signWeight : Int) ≤ n) (hhigh : n ≤ largestWord) :
    ReadsBack (.int n) := by
  have hword : n.natAbs ≤ largestWord := by
    unfold signWeight at hlow
    unfold largestWord at hhigh ⊢
    omega
  show readSigned ((if n < 0 then ['-'] else []) ++ Nat.toDigits 10 n.natAbs) = _
  by_cases hn : n < 0
  · have hint : signedInt true n.natAbs = .int n := by
      have hrange : (0 < n.natAbs && n.natAbs ≤ signWeight) = true := by
        rw [Bool.and_eq_true, decide_eq_true_eq, decide_eq_true_eq]
        omega
      rw [signedInt, if_pos rfl, if_pos hrange]
      congr 1
      omega
    rw [if_pos hn]
    show readNumber true ((Nat.toDigits 10 n.natAbs).map some) = _
    rw [readNumber_toDigits true hword, hint]
  · have hint : signedInt false n.natAbs = .int n := by
      rw [signedInt, if_neg Bool.false_ne_true]
      congr 1
      omega
    rw [if_neg hn, List.nil_append]
    unfold readSigned
    split
    · next text h =>
        have hdigit := Nat.isDigit_of_mem_toDigits (c := '-') (n := n.natAbs) (b := 10)
          (by decide) (by decide) (by rw [h]; exact List.mem_cons_self ..)
        exact absurd hdigit (by decide)
    · rw [readNumber_toDigits false hword, hint]

end JsonText
end ContentGateway
