import PlaygroundShell.Invariants

/-!
# Word motion

ALT+LEFT (`ESC b`), ALT+RIGHT (`ESC f`) and CTRL+BACKSPACE (`ESC DEL`) move by words
(src/unnamed/part_004:362-390). Each asks shell-utils for the boundary and then acts only
`if (ofs)`: a boundary at offset `0` is taken for no boundary at all. For ALT+RIGHT that never
matters, as its target is `0` only on an empty line; for the two others it is the start of the
first word, so the cursor stays where it is inside or just after the first word.

Results:
* `handleData_altRight`: ALT+RIGHT puts the cursor on the nearest word end after it, or at the
  end of the line.
* `handleData_altLeft`, `handleData_ctrlBackspace`: the other two act on the left boundary when
  it is not `0`, and do nothing when it is.
* `altLeft_first_word`: typing `foo` and ALT+LEFT leaves the cursor at `3`.
-/

namespace PlaygroundShell

theorem closestLeftBoundary_lt {input : JsString} {c : Nat} (h : closestLeftBoundary input c ≠ 0) :
    closestLeftBoundary input c < c := by
  rcases closestLeftBoundary_spec input c with ⟨-, h₁, -⟩ | ⟨h₁, -⟩
  exacts [h₁, absurd h₁ h]

theorem closestRightBoundary_le (input : JsString) (c : Nat) :
    closestRightBoundary input c ≤ input.length := by
  rcases closestRightBoundary_spec input c with ⟨h₁, -, -⟩ | ⟨h₁, -⟩
  exacts [isWordEnd_le h₁, h₁.le]

theorem le_closestRightBoundary {input : JsString} {c : Nat} (h : c ≤ input.length) :
    c ≤ closestRightBoundary input c := by
  rcases closestRightBoundary_spec input c with ⟨-, h₁, -⟩ | ⟨h₁, -⟩
  exacts [h₁.le, h₁ ▸ h]

namespace PgShell

variable {P : Playground} {env : Env}

/-- ALT+RIGHT moves the cursor to `closestRightBoundary`, also when that is `0`: the line is then
    empty and the cursor already there. -/
theorem handleData_altRight {s : PgShell} (ha : s.active = true) (hv : s.pgTty.Valid) :
    ∃ s', handleData P env (js "\x1bf") s = .ok s' ∧ s'.pgTty.input = s.pgTty.input ∧
      s'.pgTty.cursor = closestRightBoundary s.pgTty.input s.pgTty.cursor := by
  have hle := closestRightBoundary_le s.pgTty.input s.pgTty.cursor
  have hge := le_closestRightBoundary hv
  refine ⟨handleEscapeKey .altRight s, by unfold handleData; rw [ha]; rfl, ?_⟩
  simp only [handleEscapeKey]
  split_ifs with h0
  · simp [withTty, hle]
  · exact ⟨rfl, by omega⟩

/-- ALT+LEFT moves the cursor to `closestLeftBoundary` unless that is `0`. -/
theorem handleData_altLeft {s : PgShell} (ha : s.active = true) (hv : s.pgTty.Valid) :
    ∃ s', handleData P env (js "\x1bb") s = .ok s' ∧ s'.pgTty.input = s.pgTty.input ∧
      s'.pgTty.cursor = if closestLeftBoundary s.pgTty.input s.pgTty.cursor = 0 then s.pgTty.cursor
        else closestLeftBoundary s.pgTty.input s.pgTty.cursor := by
  refine ⟨handleEscapeKey .altLeft s, by unfold handleData; rw [ha]; rfl, ?_⟩
  by_cases h0 : closestLeftBoundary s.pgTty.input s.pgTty.cursor = 0
  · simp [handleEscapeKey, h0]
  · have := closestLeftBoundary_lt h0
    have : s.pgTty.cursor ≤ s.pgTty.input.length := hv
    simp only [handleEscapeKey, h0, ne_eq, not_false_eq_true, ↓reduceIte, withTty,
      PgTty.setCursor_input, PgTty.setCursor_cursor, true_and]
    omega

/-- CTRL+BACKSPACE deletes from `closestLeftBoundary` to the cursor unless that is `0`. -/
theorem handleData_ctrlBackspace {s : PgShell} (ha : s.active = true) (hv : s.pgTty.Valid) :
    ∃ s', handleData P env (js "\x1b\x7F") s = .ok s' ∧
      let p := closestLeftBoundary s.pgTty.input s.pgTty.cursor
      if p = 0 then s' = s
      else s'.pgTty.input = s.pgTty.input.take p ++ s.pgTty.input.drop s.pgTty.cursor ∧
        s'.pgTty.cursor = p := by
  refine ⟨handleEscapeKey .ctrlBackspace s, by unfold handleData; rw [ha]; rfl, ?_⟩
  by_cases h0 : closestLeftBoundary s.pgTty.input s.pgTty.cursor = 0
  · simp [handleEscapeKey, h0]
  · have := closestLeftBoundary_lt h0
    have : s.pgTty.cursor ≤ s.pgTty.input.length := hv
    simp only [handleEscapeKey, h0, ne_eq, not_false_eq_true, ↓reduceIte, withTty,
      PgTty.setCursor_input, PgTty.setCursor_cursor, PgTty.setInput_input, List.length_append,
      List.length_take, List.length_drop, true_and]
    omega

/-- The start of the first word is never a target: ALT+LEFT on `foo` with the cursor at `3`, and
    CTRL+BACKSPACE on `foo bar` with the cursor at `4`, change nothing. -/
theorem altLeft_first_word :
    closestLeftBoundary (js "foo") 3 = 0 ∧
    (session Playground.sample [.enable, .timer, .termData (js "foo")]).pgTty.cursor = 3 ∧
    (session Playground.sample
      [.enable, .timer, .termData (js "foo"), .termData (js "\x1bb")]).pgTty.cursor = 3 ∧
    closestLeftBoundary (js "foo bar") 4 = 0 ∧
    (session Playground.sample [.enable, .timer, .termData (js "foo bar"),
      .termData (js "\x1b[D"), .termData (js "\x1b[D"), .termData (js "\x1b[D")]).pgTty.cursor = 4 ∧
    (session Playground.sample [.enable, .timer, .termData (js "foo bar"),
      .termData (js "\x1b[D"), .termData (js "\x1b[D"), .termData (js "\x1b[D"),
      .termData (js "\x1b\x7F")]).pgTty = ⟨js "foo bar", 4, [], false, none⟩ := by
  decide

end PgShell

end PlaygroundShell
