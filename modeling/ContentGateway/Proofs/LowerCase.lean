import ContentGateway.Text.LowerCase

/-!
# Lower case is stable

A text in lower case is its own lower case, so that a name that was stored in lower
case is found under itself.  A computed check on the runs of the table shows that no run
leads into another; it compares runs, not code points, and so stays small.
-/

namespace ContentGateway
namespace LowerCase

/-!
# Runs do not lead into runs
-/

def avoids (low high step : Nat) : List (Nat × Nat × Nat × Int) -> Bool
  | [] => true
  | (first, last, step', _) :: rest =>
      if high < first then true
      else
        (decide (last < low)
            || ((step == 2 || low == high) && step' == 2 && (low + first) % 2 == 1))
          && avoids low high step rest

def leadsOut (runs : List (Nat × Nat × Nat × Int)) (run : Nat × Nat × Nat × Int) : Bool :=
  let low := (run.1 + run.2.2.2).toNat
  let high := (run.2.1 + run.2.2.2).toNat
  decide (0 ≤ run.1 + run.2.2.2) && avoids low high run.2.2.1 runs
    && decide (high < 0x130 ∨ 0x130 < low) && decide (high < 0x3A3 ∨ 0x3A3 < low)

theorem lowerRuns_leadsOut : forall run, run ∈ lowerRuns -> leadsOut lowerRuns run = true := by
  have hall : lowerRuns.all (leadsOut lowerRuns) = true := by
    decide +kernel
  exact List.all_eq_true.mp hall

theorem mapRuns_eq_self_of_avoids {low high step n : Nat}
    {runs : List (Nat × Nat × Nat × Int)}
    (h : avoids low high step runs = true)
    (hlow : low ≤ n) (hhigh : n ≤ high) (hstep : (n - low) % step = 0) :
    mapRuns runs n = n := by
  induction runs with
  | nil => rfl
  | cons run rest ih =>
      rcases run with ⟨first, last, step', difference⟩
      simp only [avoids] at h
      simp only [mapRuns]
      split
      · rfl
      · next hfirst =>
          rw [if_neg (by omega)] at h
          simp only [Bool.and_eq_true, Bool.or_eq_true, decide_eq_true_eq, beq_iff_eq] at h
          rcases h with ⟨happart, hrest⟩
          split
          · next hlast =>
              -- the point lies between the ends of the run, so it falls between its steps
              rcases happart with hbefore | ⟨⟨hsame, htwo⟩, hodd⟩
              · omega
              · subst htwo
                have hparity : (n - first) % 2 = 1 := by
                  rcases hsame with hsame | hsame
                  · subst hsame
                    omega
                  · omega
                simp [hparity]
          · exact ih hrest

theorem mapRuns_cases (runs : List (Nat × Nat × Nat × Int)) (n : Nat) :
    mapRuns runs n = n ∨
      exists run, run ∈ runs ∧ run.1 ≤ n ∧ n ≤ run.2.1 ∧ (n - run.1) % run.2.2.1 = 0 ∧
        mapRuns runs n = (n + run.2.2.2).toNat := by
  induction runs with
  | nil => exact Or.inl rfl
  | cons run rest ih =>
      rcases run with ⟨first, last, step, difference⟩
      simp only [mapRuns]
      split
      · exact Or.inl rfl
      · next hfirst =>
          split
          · next hlast =>
              split
              · next hstep =>
                  apply Or.inr
                  refine ⟨_, List.mem_cons_self .., ?_, hlast, ?_, rfl⟩
                  · show first ≤ n
                    omega
                  · simpa using hstep
              · exact Or.inl rfl
          · rcases ih with hself | ⟨run, hrun, hrest⟩
            · exact Or.inl hself
            · exact Or.inr ⟨run, List.mem_cons_of_mem _ hrun, hrest⟩

/-- A code point that is its own lower case and is not treated apart from the runs. -/
def Settled (n : Nat) : Prop :=
  mapRuns lowerRuns n = n ∧ n ≠ 0x130 ∧ n ≠ 0x3A3

theorem settled_mapRuns {n : Nat} (hdotted : n ≠ 0x130) (hsigma : n ≠ 0x3A3) :
    Settled (mapRuns lowerRuns n) := by
  rcases mapRuns_cases lowerRuns n with hself | ⟨run, hrun, hfirst, hlast, hstep, himage⟩
  · rw [hself]
    exact ⟨hself, hdotted, hsigma⟩
  · rcases run with ⟨first, last, step, difference⟩
    have hout := lowerRuns_leadsOut _ hrun
    simp only [leadsOut, Bool.and_eq_true, decide_eq_true_eq] at hout
    rcases hout with ⟨⟨⟨hpositive, havoids⟩, hnotDotted⟩, hnotSigma⟩
    simp only at hfirst hlast hstep himage
    rw [himage]
    have hoffset : (n + difference).toNat - (first + difference).toNat = n - first := by
      omega
    refine ⟨?_, ?_, ?_⟩
    · apply mapRuns_eq_self_of_avoids havoids
      · omega
      · omega
      · rw [hoffset]
        exact hstep
    · omega
    · omega

/-!
# Texts
-/

def SettledChar (c : Char) : Prop :=
  Settled c.toNat

theorem settledChar_ofNat {n : Nat} (h : Settled n) : SettledChar (Char.ofNat n) := by
  unfold SettledChar
  by_cases hvalid : n.isValidChar
  · have hself : (Char.ofNat n).toNat = n := by
      unfold Char.ofNat
      rw [dif_pos hvalid]
      rfl
    rw [hself]
    exact h
  · -- what is no character becomes the null character
    have hnull : (Char.ofNat n).toNat = 0 := by
      unfold Char.ofNat
      rw [dif_neg hvalid]
      rfl
    rw [hnull]
    exact ⟨by decide, by decide, by decide⟩

theorem ofChar_of_settled {c : Char} (h : SettledChar c) : ofChar c = [c] := by
  rcases h with ⟨hself, hdotted, _⟩
  unfold ofChar
  rw [if_neg (by simpa using hdotted), hself, Char.ofNat_toNat]

theorem settledChar_of_mem_ofChar {c d : Char} (hsigma : c.toNat ≠ 0x3A3)
    (hd : d ∈ ofChar c) : SettledChar d := by
  unfold ofChar at hd
  split at hd
  · next hdotted =>
      have hcases : d = 'i' ∨ d = Char.ofNat 0x307 := by
        simpa using hd
      rcases hcases with rfl | rfl
      · exact ⟨by decide, by decide, by decide⟩
      · exact ⟨by decide, by decide, by decide⟩
  · next hdotted =>
      have hd' : d = Char.ofNat (mapRuns lowerRuns c.toNat) := by
        simpa using hd
      subst hd'
      exact settledChar_ofNat (settled_mapRuns (by simpa using hdotted) hsigma)

theorem settledChar_of_mem_ofCharsAfter {d : Char} (text before : List Char)
    (hd : d ∈ ofCharsAfter before text) : SettledChar d := by
  induction text generalizing before with
  | nil => simp [ofCharsAfter] at hd
  | cons c rest ih =>
      simp only [ofCharsAfter] at hd
      split at hd
      · rcases List.mem_cons.mp hd with hhead | htail
        · rw [hhead]
          split
          · exact ⟨by decide, by decide, by decide⟩
          · exact ⟨by decide, by decide, by decide⟩
        · exact ih _ htail
      · next hsigma =>
          rcases List.mem_append.mp hd with hhead | htail
          · exact settledChar_of_mem_ofChar (by simpa using hsigma) hhead
          · exact ih _ htail

theorem ofCharsAfter_of_settled (text before : List Char)
    (h : forall c, c ∈ text -> SettledChar c) : ofCharsAfter before text = text := by
  induction text generalizing before with
  | nil => rfl
  | cons c rest ih =>
      have hc : SettledChar c := h c (List.mem_cons_self ..)
      have hrest := ih (c :: before) fun d hd => h d (List.mem_cons_of_mem _ hd)
      have hsigma : c.toNat ≠ 0x3A3 := hc.2.2
      simp only [ofCharsAfter]
      rw [if_neg (by simpa using hsigma), ofChar_of_settled hc, hrest]
      rfl

end LowerCase

/-- The lower case of a text is its own lower case. -/
@[simp] theorem lowerCase_lowerCase (text : String) :
    lowerCase (lowerCase text) = lowerCase text := by
  unfold lowerCase
  rw [String.toList_ofList]
  congr 1
  apply LowerCase.ofCharsAfter_of_settled
  intro c hc
  exact LowerCase.settledChar_of_mem_ofCharsAfter _ _ hc

end ContentGateway
