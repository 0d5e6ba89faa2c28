import PlaygroundShell.JsString

/-!
# Word boundaries

`closestLeftBoundary` and `closestRightBoundary` come from shell-utils, which is not in src. They
are modelled from the spec (§4.1): a word is a maximal run of non-whitespace, the left boundary
of the cursor is the nearest word start before it (the start of the line if there is none), and
the right boundary is the nearest word end after it (the end of the line if there is none).

Results: `closestLeftBoundary_spec`, `closestRightBoundary_spec`.
-/

namespace PlaygroundShell

/-- A word starts at `i`: a non-whitespace unit at the start of `s` or after whitespace. -/
def isWordStart (s : JsString) (i : Nat) : Bool :=
  i < s.length && !isWhitespace (s.getD i 0) && (i == 0 || isWhitespace (s.getD (i - 1) 0))

/-- A word ends at `i`: a non-whitespace unit before `i`, and the end of `s` or whitespace at
    `i`. -/
def isWordEnd (s : JsString) (i : Nat) : Bool :=
  0 < i && i ≤ s.length && !isWhitespace (s.getD (i - 1) 0) &&
    (i == s.length || isWhitespace (s.getD i 0))

/-- Modelled from the spec: `closestLeftBoundary(input, offset)`, scanning left from `offset`
    for the nearest word start below it; `0` when there is none. -/
def closestLeftBoundary (input : JsString) : Nat → Nat
  | 0 => 0
  | i + 1 => if isWordStart input i then i else closestLeftBoundary input i

/-- Scanning right from `i` for a word end, over `fuel` positions; `input.length` when none is
    found. -/
def scanWordEnd (input : JsString) (i : Nat) : Nat → Nat
  | 0 => input.length
  | fuel + 1 => if isWordEnd input i then i else scanWordEnd input (i + 1) fuel

/-- Modelled from the spec: `closestRightBoundary(input, offset)`, the nearest word end above
    `offset`, or `input.length`. Every word end is at most `input.length`, so the scan covers
    them all. -/
def closestRightBoundary (input : JsString) (offset : Nat) : Nat :=
  scanWordEnd input (offset + 1) (input.length - offset)

/-! ## The boundaries are the nearest ones -/

/-- The left boundary of `c` is the greatest word start below `c`, or `0` when there is none. -/
theorem closestLeftBoundary_spec (input : JsString) (c : Nat) :
    (isWordStart input (closestLeftBoundary input c) ∧ closestLeftBoundary input c < c ∧
      ∀ q, closestLeftBoundary input c < q → q < c → isWordStart input q = false) ∨
    (closestLeftBoundary input c = 0 ∧ ∀ q < c, isWordStart input q = false) := by
  induction c with
  | zero => exact .inr ⟨rfl, fun q hq => absurd hq (Nat.not_lt_zero q)⟩
  | succ i ih =>
    unfold closestLeftBoundary
    split_ifs with hw
    · exact .inl ⟨hw, Nat.lt_succ_self i, fun q h₁ h₂ => absurd h₂ (by omega)⟩
    · have hi : isWordStart input i = false := by simpa using hw
      rcases ih with ⟨h₁, h₂, h₃⟩ | ⟨h₁, h₂⟩
      · refine .inl ⟨h₁, by omega, fun q hq hq' => ?_⟩
        rcases Nat.lt_succ_iff_lt_or_eq.mp hq' with hq' | rfl
        exacts [h₃ q hq hq', hi]
      · refine .inr ⟨h₁, fun q hq => ?_⟩
        rcases Nat.lt_succ_iff_lt_or_eq.mp hq with hq | rfl
        exacts [h₂ q hq, hi]

theorem isWordEnd_le {input : JsString} {i : Nat} (h : isWordEnd input i) : i ≤ input.length := by
  simp only [isWordEnd, Bool.and_eq_true, decide_eq_true_eq] at h
  exact h.1.1.2

theorem scanWordEnd_spec (input : JsString) (i fuel : Nat) :
    (isWordEnd input (scanWordEnd input i fuel) ∧ i ≤ scanWordEnd input i fuel ∧
      ∀ q, i ≤ q → q < scanWordEnd input i fuel → isWordEnd input q = false) ∨
    (scanWordEnd input i fuel = input.length ∧
      ∀ q, i ≤ q → q < i + fuel → isWordEnd input q = false) := by
  induction fuel generalizing i with
  | zero => exact .inr ⟨rfl, fun q h₁ h₂ => absurd h₂ (by omega)⟩
  | succ fuel ih =>
    unfold scanWordEnd
    split_ifs with hw
    · exact .inl ⟨hw, le_rfl, fun q h₁ h₂ => absurd h₂ (by omega)⟩
    · have hi : isWordEnd input i = false := by simpa using hw
      rcases ih (i + 1) with ⟨h₁, h₂, h₃⟩ | ⟨h₁, h₂⟩
      · refine .inl ⟨h₁, by omega, fun q hq hq' => ?_⟩
        rcases Nat.eq_or_lt_of_le hq with rfl | hq
        exacts [hi, h₃ q hq hq']
      · refine .inr ⟨h₁, fun q hq hq' => ?_⟩
        rcases Nat.eq_or_lt_of_le hq with rfl | hq
        exacts [hi, h₂ q hq (by omega)]

/-- The right boundary of `c` is the least word end above `c`, or the end of the line when there
    is none. -/
theorem closestRightBoundary_spec (input : JsString) (c : Nat) :
    (isWordEnd input (closestRightBoundary input c) ∧ c < closestRightBoundary input c ∧
      ∀ q, c < q → q < closestRightBoundary input c → isWordEnd input q = false) ∨
    (closestRightBoundary input c = input.length ∧ ∀ q, c < q → isWordEnd input q = false) := by
  rcases scanWordEnd_spec input (c + 1) (input.length - c) with ⟨h₁, h₂, h₃⟩ | ⟨h₁, h₂⟩
  · exact .inl ⟨h₁, h₂, h₃⟩
  · refine .inr ⟨h₁, fun q hq => ?_⟩
    by_cases hq' : q < c + 1 + (input.length - c)
    · exact h₂ q hq hq'
    · exact Bool.eq_false_iff.mpr fun h => hq' (by have := isWordEnd_le h; omega)

end PlaygroundShell
