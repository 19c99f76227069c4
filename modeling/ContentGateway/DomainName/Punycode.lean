import ContentGateway.Text.Pieces

/-!
# Punycode

Labels of a domain name that hold characters beyond ASCII, written with letters,
digits and dashes: first the ASCII characters, then, by ascending code point, the
places of the others as numbers of variable length.
-/

namespace ContentGateway
namespace Punycode

/-!
# Numbers
-/

/-- The digit of a number below thirty-six. -/
def digit (n : Nat) : Char :=
  if n < 26 then Char.ofNat (97 + n) else Char.ofNat (22 + n)

/-- Where the digits of a number at `position` change their meaning. -/
def threshold (position bias : Nat) : Nat :=
  max 1 (min 26 (position - bias))

/-- A number as digits, the least significant one first. -/
def digits (bias position n : Nat) : List Char :=
  let t := threshold position bias
  if h : n < t then [digit n]
  else digit (t + (n - t) % (36 - t)) :: digits bias (position + 36) ((n - t) / (36 - t))
termination_by n
decreasing_by
  have ht : 1 ≤ t := Nat.le_max_left _ _
  exact Nat.lt_of_le_of_lt (Nat.div_le_self _ _) (by omega)

/-- Scales a step down until it is small; `position` counts how often. -/
def settle (position delta : Nat) : Nat :=
  if 455 < delta then settle (position + 36) (delta / 35)
  else position + 36 * delta / (delta + 38)
termination_by delta
decreasing_by exact Nat.div_lt_self (by omega) (by omega)

/-- The bias after a step of size `delta`. -/
def adapt (delta count : Nat) (first : Bool) : Nat :=
  let delta := if first then delta / 700 else delta / 2
  settle 0 (delta + delta / count)

/-!
# Writing
-/

structure State where
  delta : Nat
  /-- The characters written so far. -/
  written : Nat
  bias : Nat
  output : List Char

/-- Writes the places of the code point `point` among the characters of a label. -/
def placePoint (point plain : Nat) : List Nat -> State -> State
  | [], s => s
  | c :: rest, s =>
      if c < point then placePoint point plain rest { s with delta := s.delta + 1 }
      else if c = point then
        let bias := adapt s.delta (s.written + 1) (s.written == plain)
        placePoint point plain rest
          ⟨0, s.written + 1, bias, s.output ++ digits s.bias 36 s.delta⟩
      else placePoint point plain rest s

/-- Writes the places of all code points beyond ASCII in ascending order, from `next` on. -/
def placeAll (label : List Nat) (plain : Nat) : List Nat -> Nat -> State -> State
  | [], _, s => s
  | point :: points, next, s =>
      let s := { s with delta := s.delta + (point - next) * (s.written + 1) }
      let s := placePoint point plain label s
      placeAll label plain points (point + 1) { s with delta := s.delta + 1 }

def encode (label : List Char) : List Char :=
  let plain := label.filter fun c => c.toNat < 128
  let points := ((label.map Char.toNat).filter fun n => 128 ≤ n).mergeSort.eraseDups
  let start := if plain.isEmpty then [] else plain ++ ['-']
  (placeAll (label.map Char.toNat) plain.length points 128 ⟨0, plain.length, 72, start⟩).output

/-!
# Reading
-/

/-- The number that a digit in lower case stands for. -/
def digitValue? (c : Char) : Option Nat :=
  if 'a' ≤ c && c ≤ 'z' then some (c.toNat - 97)
  else if '0' ≤ c && c ≤ '9' then some (c.toNat - 22)
  else none

/-- Numbers and the weights of their digits fit into a word of thirty-two bits. -/
def fits (n : Nat) : Bool :=
  n < 4294967296

/-- A number, added to `sum`, and the text behind it. -/
def number? (bias : Nat) (position weight sum : Nat) : List Char -> Option (Nat × List Char)
  | [] => none
  | c :: rest =>
      match digitValue? c with
      | none => none
      | some d =>
          let t := threshold position bias
          let sum := sum + d * weight
          if !fits sum || !fits weight then none
          else if d < t then some (sum, rest)
          else number? bias (position + 36) (weight * (36 - t)) sum rest

theorem number?_length {bias position weight sum n : Nat} {text rest : List Char}
    (h : number? bias position weight sum text = some (n, rest)) : rest.length < text.length := by
  induction text generalizing position weight sum with
  | nil => simp [number?] at h
  | cons c tail ih =>
      rw [number?] at h
      split at h
      · simp at h
      · simp only at h
        split at h
        · simp at h
        · split at h
          · simp only [Option.some.injEq, Prod.mk.injEq] at h
            simp [h.2]
          · have := ih h
            simp only [List.length_cons]
            omega

/-- Puts characters from `point` on at the places that a text names, counted from `start`. -/
def insertAll (bias point start : Nat) (output text : List Char) : Option (List Char) :=
  if text.isEmpty then some output
  else
    match _h : number? bias 36 1 start text with
    | none => none
    | some (n, rest) =>
        let count := output.length + 1
        let point := point + n / count
        if Nat.isValidChar point then
          insertAll (adapt (n - start) count (start == 0)) point (n % count + 1)
            (output.insertIdx (n % count) (Char.ofNat point)) rest
        else none
termination_by text.length
decreasing_by exact number?_length _h

/-- The label that a text in lower case stands for. -/
def decode? (text : List Char) : Option (List Char) :=
  match splitLast '-' text with
  | some (plain, places) =>
      if plain.isEmpty then none else insertAll 72 128 0 plain places
  | none => insertAll 72 128 0 [] text

end Punycode
end ContentGateway
