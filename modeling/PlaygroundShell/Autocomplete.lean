import PlaygroundShell.Editor

/-!
# Completion

TAB (src/unnamed/part_004:410-462) sorts what the providers return for the text left of the
cursor and acts on the count: a space for none, the line replaced for one, a listing for up to
`_maxAutocompleteEntries`, a question first for more. Three things in it differ from what the
spec describes:

* `Array.prototype.sort` orders and keeps duplicates, so the outcome depends on how often each
  candidate occurs, not only on which occur.
* The listing goes through `printAndRestartPrompt`, which moves the cursor to the end of the line
  and never moves it back: its `resume` sets the cursor to where it already is.
* The question is asked through `PgTty.readChar`, whose pending read the shell never records in
  its own `_activeCharPrompt`, so the answer is typed into the line instead.

Results:
* `handleData_tab`: with no candidate TAB types a space unless the text left of the cursor ends
  in whitespace, and then changes nothing; with one it makes it the whole line, cursor at the end.
* `tabComplete_perm`: candidate lists that are permutations of each other give the same outcome.
* `completeCandidates_list`: a listing keeps the line and leaves the cursor at its end.
* `tab_repeated_candidate`, `tab_list_cursor`, `tab_question_typed`: each difference on a run.
-/

namespace PlaygroundShell

namespace PgShell

variable {P : Playground}

/-- The text left of the cursor, which TAB completes. -/
def inputFragment (s : PgShell) : JsString := s.pgTty.input.take s.pgTty.cursor

/-- The shell has its one history provider, so TAB always collects candidates. -/
theorem tabComplete_eq (P : Playground) (s : PgShell) :
    tabComplete P s = completeCandidates
      (jsSort (P.collectAutocompleteCandidates (autocompleteHandlers s) s.inputFragment))
      (P.hasTrailingWhitespace s.inputFragment) s := rfl

theorem inputFragment_of_shows {s : PgShell} {z : Zipper} (hs : s.pgTty.Shows z) :
    s.inputFragment = z.left := by
  simp [inputFragment, hs.1, hs.2]

theorem handleData_tab_eq {s : PgShell} (ha : s.active = true) (env : Env) :
    handleData P env (js "\t") s = .ok (tabComplete P s) := by
  unfold handleData
  rw [ha]
  rfl

/-! ## Few candidates -/

/-- TAB on an active shell, against the reference editor: with no candidate for the text left of
    the cursor it types a space there, unless that text already ends in whitespace, and then it
    changes nothing at all; with one candidate the line becomes that candidate with the cursor at
    its end, wherever the cursor was. -/
theorem handleData_tab {s : PgShell} (ha : s.active = true) (env : Env) {z : Zipper}
    (hs : s.pgTty.Shows z) :
    (P.collectAutocompleteCandidates (autocompleteHandlers s) z.left = [] →
      (P.hasTrailingWhitespace z.left = true → handleData P env (js "\t") s = .ok s) ∧
      (P.hasTrailingWhitespace z.left = false → ∃ s', handleData P env (js "\t") s = .ok s' ∧
        s'.pgTty.Shows (z.insert (js " ")))) ∧
    (∀ c, P.collectAutocompleteCandidates (autocompleteHandlers s) z.left = [c] →
      ∃ s', handleData P env (js "\t") s = .ok s' ∧ s'.pgTty.Shows ⟨c, []⟩) := by
  rw [handleData_tab_eq ha, tabComplete_eq, inputFragment_of_shows hs]
  refine ⟨fun h0 => ⟨fun hw => ?_, fun hw => ?_⟩, fun c h1 => ?_⟩
  · simp [h0, hw, jsSort, completeCandidates]
  · simp only [h0, hw, jsSort, List.insertionSort, completeCandidates, Bool.not_false, ↓reduceIte]
    exact ⟨_, rfl, ((implements_handleCursorInsert (js " ")) s z hs).2⟩
  · simp only [h1, jsSort, List.insertionSort, List.orderedInsert, completeCandidates]
    exact ⟨_, rfl, by simp [withTty], by simp [withTty]⟩

/-! ## Sorting -/

/-- What TAB does depends on the candidates with their multiplicities only: providers whose
    lists are permutations of each other lead to the same state. -/
theorem tabComplete_perm (P : Playground)
    (f₁ f₂ : List AutoCompleteHandler → JsString → List JsString) (s : PgShell)
    (h : (f₁ (autocompleteHandlers s) s.inputFragment).Perm
      (f₂ (autocompleteHandlers s) s.inputFragment)) :
    tabComplete { P with collectAutocompleteCandidates := f₁ } s =
      tabComplete { P with collectAutocompleteCandidates := f₂ } s := by
  rw [tabComplete_eq, tabComplete_eq]
  exact congrArg (completeCandidates · _ s) (jsSort_eq_of_perm h)

theorem tabComplete_perm_sample :
    ([js "lt", js "ls"].Perm [js "ls", js "lt"]) ∧
    tabComplete
        { Playground.sample with collectAutocompleteCandidates := fun _ _ => [js "lt", js "ls"] }
        (session Playground.sample [.enable, .timer, .termData (js "l")]) =
      tabComplete
        { Playground.sample with collectAutocompleteCandidates := fun _ _ => [js "ls", js "lt"] }
        (session Playground.sample [.enable, .timer, .termData (js "l")]) :=
  ⟨by decide, tabComplete_perm _ _ _ _ (by decide)⟩

/-- With `ls`, `cd` and `ls` in the history, TAB after `l` lists `ls` twice and keeps the line
    `l`, where a single candidate `ls` would complete the line to `ls`. -/
theorem tab_repeated_candidate :
    Playground.sample.collectAutocompleteCandidates
        (autocompleteHandlers (session Playground.sample [.enable, .timer, .termData (js "ls"),
          .termData (js "\r"), .timer, .termData (js "cd"), .termData (js "\r"), .timer,
          .termData (js "ls"), .termData (js "\r"), .timer, .termData (js "l")])) (js "l") =
      [js "ls", js "ls"] ∧
    (session Playground.sample [.enable, .timer, .termData (js "ls"), .termData (js "\r"), .timer,
      .termData (js "cd"), .termData (js "\r"), .timer, .termData (js "ls"), .termData (js "\r"),
      .timer, .termData (js "l"), .termData (js "\t")]).pgTty.input = js "l" ∧
    (session Playground.sample [.enable, .timer, .termData (js "l")]).pgTty.input = js "l" ∧
    (tabComplete { Playground.sample with collectAutocompleteCandidates := fun _ _ => [js "ls"] }
      (session Playground.sample [.enable, .timer, .termData (js "l")])).pgTty.input = js "ls" := by
  decide

/-! ## Listing -/

/-- Listing two to `_maxAutocompleteEntries` candidates prints them and leaves the line as it was
    with the cursor at its end. -/
theorem completeCandidates_list {c : List JsString} {s : PgShell} (h₂ : 2 ≤ c.length)
    (hm : c.length ≤ s.maxAutocompleteEntries) (hasTrailingSpace : Bool) :
    (completeCandidates c hasTrailingSpace s).pgTty.input = s.pgTty.input ∧
    (completeCandidates c hasTrailingSpace s).pgTty.cursor = s.pgTty.input.length ∧
    (completeCandidates c hasTrailingSpace s).out = s.out ++ [.print (js "\r\n"), .printWide c] := by
  match c, h₂ with
  | a :: b :: rest, _ =>
    simp only [completeCandidates, if_pos hm]
    simp [printAndRestartPrompt, resume, emit, withTty]

/-- With `ls` and `lt` in the history, TAB on the line `ls` with the cursor at `1` lists both and
    leaves the cursor at `2`. -/
theorem tab_list_cursor :
    (session Playground.sample [.enable, .timer, .termData (js "ls"), .termData (js "\r"), .timer,
      .termData (js "lt"), .termData (js "\r"), .timer, .termData (js "ls"),
      .termData (js "\x1b[D")]).pgTty.cursor = 1 ∧
    (session Playground.sample [.enable, .timer, .termData (js "ls"), .termData (js "\r"), .timer,
      .termData (js "lt"), .termData (js "\r"), .timer, .termData (js "ls"), .termData (js "\x1b[D"),
      .termData (js "\t")]).pgTty = ⟨js "ls", 2, [], false, none⟩ ∧
    (session Playground.sample [.enable, .timer, .termData (js "ls"), .termData (js "\r"), .timer,
      .termData (js "lt"), .termData (js "\r"), .timer, .termData (js "ls"), .termData (js "\x1b[D"),
      .termData (js "\t")]).out.getLast? = some (.printWide [js "ls", js "lt"]) := by
  decide

/-! ## The question -/

/-- With `_maxAutocompleteEntries` at `1`, TAB after `l` asks the question on the terminal, but the
    shell has no character read of its own: the answer `y` is typed into the line and nothing is
    listed. -/
theorem tab_question_typed :
    (session Playground.sample [.enable, .timer, .termData (js "ls"), .termData (js "\r"), .timer,
      .termData (js "lt"), .termData (js "\r"), .timer, .termData (js "l"), .termData (js "\t")]
      ⟨30, 1⟩).pgTty.activeCharPrompt =
      some ⟨js "Display all 2 possibilities? (y or n)", [js "ls", js "lt"]⟩ ∧
    (session Playground.sample [.enable, .timer, .termData (js "ls"), .termData (js "\r"), .timer,
      .termData (js "lt"), .termData (js "\r"), .timer, .termData (js "l"), .termData (js "\t")]
      ⟨30, 1⟩).activeCharPrompt = none ∧
    (session Playground.sample [.enable, .timer, .termData (js "ls"), .termData (js "\r"), .timer,
      .termData (js "lt"), .termData (js "\r"), .timer, .termData (js "l"), .termData (js "\t"),
      .termData (js "y")] ⟨30, 1⟩).pgTty.input = js "ly" ∧
    (session Playground.sample [.enable, .timer, .termData (js "ls"), .termData (js "\r"), .timer,
      .termData (js "lt"), .termData (js "\r"), .timer, .termData (js "l"), .termData (js "\t"),
      .termData (js "y")] ⟨30, 1⟩).out.getLast? =
      some (.readChar (js "Display all 2 possibilities? (y or n)")) := by
  decide

end PgShell

end PlaygroundShell
