import PlaygroundShell.Shell.Input

/-!
# What holds in every reachable state

`Frame s s'` says what handling input, dispatching a command or running a microtask cannot do:
change the nesting count `_processCount`, set the shell's own `_activeCharPrompt`, move the
cursor off the line, separate a pending `waitForUserInput` from its listener, forget that a
package was loaded, or put into the history ring anything but a trimmed line. Each function of
the model is shown to keep `Frame` (`waitForUserInput` only when no terminal call in it throws),
and `Inv` is then proved of every reachable state by induction over the run.

Results:
* `Reachable.inv`: in every reachable state the cursor is on the line (the spec's property 1),
  the shell's `_activeCharPrompt` is unset, a positive `_processCount` leaves the shell
  inactive, and the history ring is well formed.
* `reachable_tty_invariants`: the first two, stated on the fields.
* `reachable_history_trimmed`: the history ring holds at most its size of lines, each non-empty
  and trimmed.
-/

namespace PlaygroundShell

namespace PgShell

variable {P : Playground} {env : Env}

/-- What a handler cannot change. -/
structure Frame (s s' : PgShell) : Prop where
  processCount : s'.processCount = s.processCount
  activeCharPrompt : s.activeCharPrompt = none → s'.activeCharPrompt = none
  valid : s.pgTty.Valid → s'.pgTty.Valid
  /-- A pending wait keeps its listener, and a listener its wait. -/
  waitSync : s.waitingForInput = s.waitListener → s'.waitingForInput = s'.waitListener
  /-- A package once marked loaded stays so. -/
  loaded : ∀ pkg ∈ s.loadedPkgs, pkg ∈ s'.loadedPkgs
  /-- Only trimmed lines enter the history ring. -/
  history : s.history.WellFormed → s'.history.WellFormed

theorem Frame.refl (s : PgShell) : Frame s s := ⟨rfl, id, id, id, fun _ => id, id⟩

theorem Frame.trans {s₁ s₂ s₃ : PgShell} (h₁ : Frame s₁ s₂) (h₂ : Frame s₂ s₃) :
    Frame s₁ s₃ :=
  ⟨h₂.1.trans h₁.1, h₂.2 ∘ h₁.2, h₂.3 ∘ h₁.3, h₂.4 ∘ h₁.4, fun p h => h₂.5 p (h₁.5 p h),
    h₂.6 ∘ h₁.6⟩

/-- The fields `Frame` watches. -/
def watched (s : PgShell) :=
  (s.processCount, s.activeCharPrompt, s.pgTty, s.waitingForInput, s.waitListener, s.loadedPkgs,
    s.history.entries, s.history.size)

/-- An update of fields `Frame` does not watch. -/
theorem Frame.of_eq {s s' : PgShell} (h : s'.watched = s.watched) : Frame s s' := by
  simp only [watched, Prod.mk.injEq] at h
  obtain ⟨h₁, h₂, h₃, h₄, h₅, h₆, h₇, h₈⟩ := h
  exact ⟨h₁, fun h => h₂.trans h, fun h => h₃ ▸ h, fun h => h₄.trans (h.trans h₅.symm),
    fun _ h => h₆ ▸ h, .of_eq h₇ h₈⟩

theorem frame_emit (s : PgShell) (e : Effect) : Frame s (s.emit e) := .of_eq rfl

theorem frame_withTty (s : PgShell) {t : PgTty} (h : s.pgTty.Valid → t.Valid) :
    Frame s (s.withTty t) := ⟨rfl, id, h, id, fun _ => id, id⟩

theorem frame_enable (s : PgShell) : Frame s s.enable := .of_eq rfl

theorem frame_prompt (s : PgShell) : Frame s (prompt P env s) := by
  unfold prompt
  split
  · exact .refl s
  · exact ⟨rfl, id, fun _ => PgTty.valid_read _ _, id, fun _ => id, id⟩

theorem frame_handleCursorMove (dir : Int) (s : PgShell) : Frame s (handleCursorMove dir s) := by
  unfold handleCursorMove
  split_ifs
  · refine frame_withTty s fun h => ?_
    simp only [PgTty.Valid, PgTty.setCursorDirectly_cursor, PgTty.setCursorDirectly_input] at h ⊢
    omega
  · refine frame_withTty s fun h => ?_
    simp only [PgTty.Valid, PgTty.setCursorDirectly_cursor, PgTty.setCursorDirectly_input] at h ⊢
    omega
  · exact .refl s

theorem frame_handleCursorInsert (data : JsString) (s : PgShell) :
    Frame s (handleCursorInsert data s) :=
  frame_withTty s fun _ => PgTty.valid_setInput _ _

theorem frame_handleCursorErase (backspace : Bool) (s : PgShell) :
    Frame s (handleCursorErase backspace s) := by
  unfold handleCursorErase
  cases backspace <;> simp only [Bool.false_eq_true, ↓reduceIte]
  · exact frame_withTty s fun _ => PgTty.valid_setInput _ _
  · split
    · exact .refl s
    · exact (frame_emit s _).trans (frame_withTty _ fun _ => PgTty.valid_setInput _ _)

theorem frame_resume (s : PgShell) : Frame s (resume s) :=
  frame_withTty s fun _ => PgTty.valid_setInput _ _

theorem frame_printAndRestartPrompt {callback : PgShell → PgShell × Bool}
    (h : ∀ s, Frame s (callback s).1) (s : PgShell) :
    Frame s (printAndRestartPrompt callback s) := by
  have h₀ := ((frame_withTty s fun _ => PgTty.valid_setCursor s.pgTty s.pgTty.input.length).trans
    (frame_emit _ (.print (js "\r\n")))).trans (h _)
  unfold printAndRestartPrompt
  dsimp only
  split
  · exact h₀
  · exact h₀.trans (frame_resume _)

theorem frame_completeCandidates (candidates : List JsString) (hasTrailingSpace : Bool)
    (s : PgShell) : Frame s (completeCandidates candidates hasTrailingSpace s) := by
  unfold completeCandidates
  split
  · split
    · exact frame_handleCursorInsert _ s
    · exact .refl s
  · exact frame_withTty s fun _ => PgTty.valid_setCursor _ _
  · split
    · exact frame_printAndRestartPrompt (fun _ => frame_emit _ _) s
    · exact frame_printAndRestartPrompt (fun s =>
        (frame_withTty s fun h => PgTty.valid_readChar h _ _).trans (frame_emit _ _)) s

theorem frame_tabComplete (s : PgShell) : Frame s (tabComplete P s) := by
  unfold tabComplete
  split
  · exact frame_completeCandidates _ _ s
  · exact frame_handleCursorInsert _ s

theorem frame_showEntry (value : Option JsString) (s : PgShell) : Frame s (showEntry value s) := by
  unfold showEntry
  split
  · split
    · exact frame_withTty _ fun _ => PgTty.valid_setCursor _ _
    · exact .refl s
  · exact .refl s

theorem frame_historyPrevious (s : PgShell) : Frame s (historyPrevious s) := by
  unfold historyPrevious
  refine .trans ?_ (frame_showEntry _ _)
  exact .of_eq (by simp [watched])

theorem frame_historyNext (s : PgShell) : Frame s (historyNext s) := by
  unfold historyNext
  refine .trans ?_ (frame_withTty _ fun _ => PgTty.valid_setCursor _ _)
  exact .of_eq (by simp [watched])

theorem frame_handleEscapeKey (k : EscapeKey) (s : PgShell) : Frame s (handleEscapeKey k s) := by
  unfold handleEscapeKey
  cases k <;> dsimp only
  · exact frame_historyPrevious s
  · exact frame_historyNext s
  · exact frame_handleCursorMove _ s
  · exact frame_handleCursorMove _ s
  · exact frame_handleCursorErase _ s
  · exact frame_withTty s fun _ => PgTty.valid_setCursor _ _
  · exact frame_withTty s fun _ => PgTty.valid_setCursor _ _
  all_goals split
  all_goals first
    | exact frame_withTty s fun _ => PgTty.valid_setCursor _ _
    | exact .refl s

theorem frame_loadPkg (pkg : PkgName) (cmd : JsString) (s : PgShell) : Frame s (loadPkg pkg cmd s) := by
  unfold loadPkg
  dsimp only
  split <;> refine .trans ?_ (frame_emit _ _)
  · exact ⟨rfl, id, id, id, fun _ => List.mem_cons_of_mem _, id⟩
  · exact .refl s

theorem frame_ifPgConnected (body : PgShell → PgShell) {s : PgShell} (hb : Frame s (body s)) :
    Frame s (ifPgConnected env body s) :=
  ifPgConnected_of body hb (frame_enable s)

theorem frame_parseCommand (n : Nat) (cmd : JsString) (s : PgShell) :
    Frame s (finalState (parseCommand P env n cmd s)) := by
  induction n generalizing cmd with
  | zero => exact .refl s
  | succ n ih =>
    unfold parseCommand
    dsimp only
    split
    · exact frame_emit _ _
    · refine .trans ?_ (frame_prompt _)
      exact (frame_emit _ _).trans (frame_emit _ _)
    · exact frame_emit _ _
    · exact frame_ifPgConnected (·.emit _) (frame_emit s _)
    · exact (frame_emit _ _).trans (frame_enable _)
    · exact frame_emit _ _
    · split
      · exact (frame_emit _ _).trans (frame_enable _)
      · exact ih _
    · exact frame_emit _ _
    · exact frame_emit _ _
    · exact frame_ifPgConnected _ (frame_loadPkg _ _ s)
    · exact frame_ifPgConnected _ (frame_loadPkg _ _ s)
    · exact frame_emit _ _
    · refine .trans ?_ (frame_enable _)
      split
      · exact frame_emit _ _
      · exact .refl s

theorem frame_runSugar (cmd : JsString) (s : PgShell) : Frame s (runSugar env cmd s) :=
  frame_ifPgConnected _ (frame_loadPkg _ _ s)

theorem frame_dispatchWaitForInput (s : PgShell) : Frame s (dispatchWaitForInput s) := by
  unfold dispatchWaitForInput
  dsimp only
  split
  · exact ⟨rfl, id, id, fun _ => rfl, fun _ => id, id⟩
  · exact frame_emit _ _

theorem frame_resolveActivePrompt (s : PgShell) : Frame s (resolveActivePrompt s) := by
  unfold resolveActivePrompt
  split <;> exact .of_eq rfl

theorem Frame.setActive {s s' : PgShell} (h : Frame s s') (b : Bool) :
    Frame s { s' with active := b } := ⟨h.1, h.2, h.3, h.4, h.5, h.6⟩

theorem frame_handleReadComplete (clearCmd : Bool) (s : PgShell) :
    Frame s (finalState (handleReadComplete P env clearCmd s)) := by
  unfold handleReadComplete
  cases clearCmd <;> simp only [Bool.false_eq_true, ↓reduceIte] <;> split
  all_goals first
    | exact (((frame_resolveActivePrompt s).trans (frame_emit _ _)).setActive false).trans
        (frame_dispatchWaitForInput _)
    | exact (((frame_resolveActivePrompt s).trans (frame_emit _ _)).setActive false).trans
        (frame_parseCommand _ _ _)

theorem frame_handleControlKey (k : ControlKey) (s : PgShell) :
    Frame s (finalState (handleControlKey P env k s)) := by
  unfold handleControlKey
  cases k <;> dsimp only
  · split
    · exact frame_handleCursorInsert _ s
    · exact frame_handleReadComplete _ s
  · exact frame_handleCursorErase true s
  · exact frame_tabComplete s
  · exact frame_withTty s fun _ => PgTty.valid_setCursor _ _
  · exact frame_handleCursorMove (-1) s
  · exact frame_withTty s fun _ => PgTty.valid_setCursor _ _
  · exact frame_handleCursorMove 1 s
  · exact ⟨rfl, id, fun _ => PgTty.valid_setInput _ _, id, fun _ => id,
      .of_eq (PgShellHistory.getPrevious_entries _) (PgShellHistory.getPrevious_size _)⟩
  · exact frame_withTty s fun _ => PgTty.valid_setCursor _ _
  · exact frame_historyNext s
  · exact frame_historyPrevious s
  · exact frame_withTty s fun _ => PgTty.valid_setCursor _ _

theorem frame_handleData (data : JsString) (s : PgShell) :
    Frame s (finalState (handleData P env data s)) := by
  unfold handleData
  split
  · exact .refl s
  · split
    · exact frame_handleCursorInsert _ s
    · split
      · cases escapeKey _
        · exact .refl s
        · exact frame_handleEscapeKey _ s
      · split
        · cases controlKey _
          · exact .refl s
          · exact frame_handleControlKey _ s
        · exact frame_handleCursorInsert _ s

theorem frame_foldlM_handleData (l : List JsString) (s : PgShell) :
    Frame s (finalState (l.foldlM (fun s c => handleData P env c s) s)) := by
  induction l generalizing s with
  | nil => exact .refl s
  | cons c l ih =>
    have h : Frame s (finalState (handleData P env c s)) := frame_handleData c s
    simp only [List.foldlM_cons]
    cases hc : handleData P env c s with
    | error s' => rw [hc] at h; exact h
    | ok s' => rw [hc] at h; exact h.trans (ih s')

theorem frame_detectPromptPrefix {s s' : PgShell} (h : detectPromptPrefix env s = some s') :
    Frame s s' := by
  unfold detectPromptPrefix at h
  split at h
  · split at h
    · cases h
    · cases h; exact ⟨rfl, id, id, id, fun _ => id, id⟩
  · cases h; exact .refl s

theorem frame_handleTermData (data : JsString) (s : PgShell) :
    Frame s (finalState (handleTermData P env data s)) := by
  unfold handleTermData
  split
  · exact .refl s
  · split
    · exact .refl s
    · rename_i s' hd
      have h := frame_detectPromptPrefix hd
      split
      · exact h.trans ⟨rfl, fun _ => rfl, id, id, fun _ => id, id⟩
      · split
        · exact h.trans (frame_foldlM_handleData _ _)
        · exact h.trans (frame_handleData _ _)

/-- Without a fault, the wait and its listener are set together. -/
theorem frame_waitForUserInput (msg : JsString) (s : PgShell) :
    Frame s (waitForUserInput P msg none s) := by
  unfold waitForUserInput
  split
  · exact frame_emit _ _
  · exact ⟨rfl, id, id, fun _ => rfl, fun _ => id, id⟩

theorem frame_runMicrotask (s : PgShell) (m : Microtask) : Frame s (runMicrotask s m) := by
  cases m with
  | promptResume => exact ⟨rfl, id, id, id, fun _ => id, fun h => h.push (trim_idem _)⟩
  | charRead p data =>
    refine .trans ?_ (frame_resume _)
    split
    · exact frame_emit _ _
    · exact .refl s

theorem frame_drain (s : PgShell) : Frame s (drain s) := by
  suffices ∀ (l : List Microtask) (s : PgShell), Frame s (l.foldl runMicrotask s) by
    unfold drain
    exact Frame.trans (.of_eq rfl : Frame s { s with microtasks := [] }) (this _ _)
  intro l
  induction l with
  | nil => exact .refl
  | cons m l ih => exact fun s => (frame_runMicrotask s m).trans (ih _)

/-! ## The invariant -/

/-- Microtasks push history entries, print candidates and redraw the line, nothing more. -/
theorem drain_fields (s : PgShell) : ∃ h t o,
    drain s = { s with history := h, pgTty := t, out := o, microtasks := [] } := by
  suffices ∀ (l : List Microtask) (s : PgShell), ∃ h t o,
      l.foldl runMicrotask s = { s with history := h, pgTty := t, out := o } from
    this s.microtasks { s with microtasks := [] }
  intro l
  induction l with
  | nil => exact fun s => ⟨s.history, s.pgTty, s.out, rfl⟩
  | cons m l ih =>
    intro s
    obtain ⟨h, t, o, hs⟩ := ih (runMicrotask s m)
    rw [List.foldl_cons, hs]
    cases m with
    | promptResume => exact ⟨h, t, o, rfl⟩
    | charRead p data =>
      refine ⟨h, t, o, ?_⟩
      show { resume (if _ then _ else s) with history := h, pgTty := t, out := o } = _
      split <;> rfl

theorem drain_control (s : PgShell) :
    (drain s).active = s.active ∧ (drain s).timers = s.timers ∧
      (drain s).activePrompt = s.activePrompt := by
  obtain ⟨h, t, o, hd⟩ := drain_fields s
  rw [hd]
  exact ⟨rfl, rfl, rfl⟩

/-- CTRL+C matches no `case`. -/
theorem handleData_ctrlC (s : PgShell) : handleData P env ctrlC s = .ok s := by
  have h : controlKey [3] = none := by decide
  rw [show ctrlC = [3] from rfl]
  unfold handleData
  simp [h]

theorem detectPromptPrefix_active {s s' : PgShell} (h : detectPromptPrefix env s = some s') :
    s'.active = s.active ∧ s'.activeCharPrompt = s.activeCharPrompt ∧ s'.timers = s.timers := by
  unfold detectPromptPrefix at h
  split at h
  · split at h
    · cases h
    · cases h; exact ⟨rfl, rfl, rfl⟩
  · cases h; exact ⟨rfl, rfl, rfl⟩

/-- An inactive shell with no character read pending ignores every chunk: only CTRL+C gets past
    the guard, and it matches no `case`, so the shell ends as it was or as the prompt-prefix
    detection left it. -/
theorem handleTermData_inactive {s : PgShell} (hc : s.activeCharPrompt = none)
    (ha : s.active = false) (data : JsString) :
    finalState (handleTermData P env data s) = s ∨
      detectPromptPrefix env s = some (finalState (handleTermData P env data s)) := by
  unfold handleTermData
  split
  · exact .inl rfl
  · rename_i hg
    have hd : data = ctrlC := by simpa [ha] using hg
    subst hd
    split
    · exact .inl rfl
    · rename_i s' hs'
      simp only [(detectPromptPrefix_active hs').2.1, hc, show isPaste ctrlC = false from rfl,
        Bool.false_eq_true, ↓reduceIte, handleData_ctrlC, finalState]
      exact .inr hs'

theorem active_waitForUserInput (msg : JsString) (fault : Option TtyFault) (s : PgShell) :
    (waitForUserInput P msg fault s).active = s.active := by
  unfold waitForUserInput
  split
  · rfl
  · rcases fault with _ | _ | _ <;> rfl

theorem active_runSugar (cmd : JsString) (s : PgShell) : (runSugar env cmd s).active = s.active :=
  ifPgConnected_of (Q := fun s' => s'.active = s.active) _
    (by unfold loadPkg; dsimp only; split <;> rfl) rfl

/-- An inactive shell stays inactive whatever it receives. -/
theorem active_handleTermData {s : PgShell} (hc : s.activeCharPrompt = none)
    (ha : s.active = false) (data : JsString) :
    (finalState (handleTermData P env data s)).active = false := by
  rcases handleTermData_inactive hc ha data with h | h
  · rw [h]; exact ha
  · exact (detectPromptPrefix_active h).1.trans ha

/-- What holds in every reachable state. -/
structure Inv (s : PgShell) : Prop where
  /-- The spec's property 1: the cursor stays within `[0, input.length]`. -/
  valid : s.pgTty.Valid
  /-- Nothing ever sets the shell's `_activeCharPrompt`. -/
  activeCharPrompt : s.activeCharPrompt = none
  /-- While `_processCount` is positive the shell is inactive. -/
  inactive : 0 < s.processCount → s.active = false
  /-- The history ring holds at most its size of lines, each non-empty and trimmed. -/
  history : s.history.WellFormed

theorem Inv.of_frame {s s' : PgShell} (hs : Inv s) (h : Frame s s')
    (ha : s.active = false → s'.active = false) : Inv s' :=
  ⟨h.valid hs.valid, h.activeCharPrompt hs.activeCharPrompt,
    fun hp => ha (hs.inactive (h.processCount ▸ hp)), h.history hs.history⟩

theorem inv_new (options : ShellOptions) : Inv (PgShell.new PgTty.new options) :=
  ⟨PgTty.valid_new, rfl, fun h => absurd h (Nat.lt_irrefl 0), PgShellHistory.wellFormed_new _⟩

theorem Inv.decrementProcessCount {s : PgShell} (hs : Inv s) : Inv s.decrementProcessCount := by
  unfold PgShell.decrementProcessCount
  split
  · exact ⟨hs.valid, hs.activeCharPrompt, fun h => hs.inactive (by simp only at h; omega),
      hs.history⟩
  · exact hs

theorem Inv.enableCallback {s : PgShell} (hs : Inv s) : Inv (enableCallback P env s) := by
  have h₁ := hs.decrementProcessCount
  unfold PgShell.enableCallback
  generalize s.decrementProcessCount = s₁ at h₁
  dsimp only
  split
  · rename_i h0
    have hp : Frame { s₁ with active := true } (prompt P env { s₁ with active := true }) :=
      frame_prompt _
    exact ⟨PgTty.valid_read _ _, hp.activeCharPrompt h₁.activeCharPrompt,
      fun h => absurd (h.trans_eq (hp.processCount.trans h0)) (Nat.lt_irrefl 0),
      hp.history h₁.history⟩
  · exact h₁

theorem Inv.drain {s : PgShell} (hs : Inv s) : Inv (drain s) :=
  hs.of_frame (frame_drain s) fun ha => (drain_control s).1.trans ha

theorem Inv.step {s : PgShell} (hs : Inv s) (env : Env) (e : Event) : Inv (s.step P env e) := by
  cases e with
  | termData data =>
    exact Inv.drain (hs.of_frame (frame_handleTermData data s)
      fun ha => active_handleTermData hs.activeCharPrompt ha data)
  | disable => exact Inv.drain ⟨hs.valid, hs.activeCharPrompt, fun _ => rfl, hs.history⟩
  | enable => exact Inv.drain (hs.of_frame (frame_enable s) id)
  | timer =>
    show Inv (if s.timers = 0 then s else _)
    split
    · exact hs
    · exact Inv.drain (Inv.enableCallback ⟨hs.valid, hs.activeCharPrompt, hs.inactive, hs.history⟩)
  | waitForUserInput msg fault =>
    refine Inv.drain ?_
    rcases fault with _ | _ | _
    · exact hs.of_frame (frame_waitForUserInput msg s)
        fun ha => (active_waitForUserInput msg none s).trans ha
    all_goals
      unfold waitForUserInput
      split
      · exact hs.of_frame (frame_emit _ _) id
      · exact ⟨hs.valid, hs.activeCharPrompt, hs.inactive, hs.history⟩
  | runSugar cmd =>
    exact Inv.drain (hs.of_frame (frame_runSugar cmd s) fun ha => (active_runSugar cmd s).trans ha)

end PgShell

theorem Reachable.inv {P : Playground} {s : PgShell} (h : Reachable P s) : s.Inv := by
  induction h with
  | new options => exact PgShell.inv_new options
  | step env e _ ih => exact ih.step env e

/-- In every reachable state the cursor is on the line (the spec's property 1), and the shell has
    no character read of its own, so the priority branch of `handleTermData` never runs. -/
theorem reachable_tty_invariants {P : Playground} {s : PgShell} (hr : Reachable P s) :
    s.pgTty.cursor ≤ s.pgTty.input.length ∧ s.activeCharPrompt = none :=
  ⟨hr.inv.valid, hr.inv.activeCharPrompt⟩

theorem reachable_tty_invariants_sample :
    (PgShell.session Playground.sample [.enable, .timer, .termData (js "ls"),
      .termData (js "\x1b[D")]).pgTty.cursor ≤
      (PgShell.session Playground.sample [.enable, .timer, .termData (js "ls"),
        .termData (js "\x1b[D")]).pgTty.input.length ∧
    (PgShell.session Playground.sample [.enable, .timer, .termData (js "ls"),
      .termData (js "\x1b[D")]).activeCharPrompt = none :=
  reachable_tty_invariants (reachable_session _ _ _)

/-- In every reachable state the history ring holds at most its size of lines, each non-empty and
    trimmed: `prompt()` pushes the trimmed line, and nothing else adds to the ring. -/
theorem reachable_history_trimmed {P : Playground} {s : PgShell} (hr : Reachable P s) :
    s.history.getEntries.length ≤ s.history.size ∧
    ∀ e ∈ s.history.getEntries, e ≠ [] ∧ trim e = e :=
  ⟨hr.inv.history.bounded, hr.inv.history.lines⟩

theorem reachable_history_trimmed_sample :
    (PgShell.session Playground.sample [.enable, .timer, .termData (js "  ls "),
      .termData (js "\r")]).history.getEntries = [js "ls"] ∧
    ∀ e ∈ (PgShell.session Playground.sample [.enable, .timer, .termData (js "  ls "),
      .termData (js "\r")]).history.getEntries, e ≠ [] ∧ trim e = e :=
  ⟨by decide, (reachable_history_trimmed (reachable_session _ _ _)).2⟩

end PlaygroundShell
