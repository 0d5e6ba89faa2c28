import PlaygroundShell.Dispatch

/-!
# Runs: the nesting count, waits for input and the history

The shell coordinates with the rest of the page through state that whole runs exercise:
`_processCount`, which `disable()` raises and every `enable()` timer lowers
(src/unnamed/part_004:76-96, 531-542); `_waitingForInput` and the listener of
`waitForUserInput` (part_004:230-258), which `handleReadComplete` consults (part_004:161-178);
and the history, which `prompt()` fills after its read resolves (part_004:103-125).

* `_processCount` counts `disable()` calls against fired `enable()` timers, whoever set them: the
  shell's own dispatch sets some (HELP, an unknown command, `!!` on an empty history), so one of
  those can close a bracket another caller opened.
* `waitForUserInput` sets `_waitingForInput` before its terminal calls: when one of them throws,
  the promise is rejected, the flag stays set, and no listener will ever clear it.
* `prompt()` records `getInput()` as it is when its continuation runs, after the dispatch: a
  command that starts a new read first (CLEAR) is recorded as the empty new line.

Results:
* `processCount_brackets`: in every reachable state a positive count leaves the shell inactive,
  and each task changes the count as `nestingAfter` says.
* `step_activates`: an inactive shell turns active only when a firing timer leaves the count at
  zero, and then with a line read pending.
* `run_timers_release`: firing `k` pending timers brings an inactive shell back exactly when `k`
  covers the count.
* `session_wait_protocol`: in runs where no terminal call throws, a pending wait and its listener
  come and go together, a submission while waiting resolves the wait, and one while not waiting
  is parsed.
* `help_timer_closes_bracket`, `waitForUserInput_fault`, `clear_not_recorded`: each of the three
  points above on a run.
-/

namespace PlaygroundShell

namespace PgShell

variable {P : Playground}

/-! ## The nesting count -/

/-- What one task does to `_processCount`: `disable()` adds one, a firing `enable()` timer takes
    one off unless it is already zero, and nothing else touches it. -/
def nestingAfter (s : PgShell) : Event → Nat
  | .disable => s.processCount + 1
  | .timer => if s.timers = 0 then s.processCount else s.processCount - 1
  | _ => s.processCount

theorem decrementProcessCount_fields (s : PgShell) :
    s.decrementProcessCount.processCount = s.processCount - 1 ∧
      s.decrementProcessCount.active = s.active ∧ s.decrementProcessCount.timers = s.timers := by
  unfold decrementProcessCount
  split
  · exact ⟨rfl, rfl, rfl⟩
  · simp_all

theorem enableCallback_processCount (env : Env) (s : PgShell) :
    (enableCallback P env s).processCount = s.processCount - 1 := by
  have hd := (decrementProcessCount_fields s).1
  unfold enableCallback
  generalize s.decrementProcessCount = s₁ at hd
  dsimp only
  split
  · have hp : Frame { s₁ with active := true } (prompt P env { s₁ with active := true }) :=
      frame_prompt _
    exact hp.processCount.trans hd
  · exact hd

theorem waitForUserInput_processCount (msg : JsString) (fault : Option TtyFault) (s : PgShell) :
    (waitForUserInput P msg fault s).processCount = s.processCount := by
  unfold waitForUserInput
  split
  · rfl
  · rcases fault with _ | _ | _ <;> rfl

theorem step_processCount (env : Env) (s : PgShell) (e : Event) :
    (s.step P env e).processCount = nestingAfter s e := by
  cases e with
  | termData d => exact (frame_drain _).processCount.trans (frame_handleTermData d s).processCount
  | disable => exact (frame_drain _).processCount
  | enable => exact (frame_drain _).processCount
  | timer =>
    show (if s.timers = 0 then s else _).processCount = _
    unfold nestingAfter
    split
    · rfl
    · exact (frame_drain _).processCount.trans (enableCallback_processCount env _)
  | waitForUserInput msg fault =>
    exact (frame_drain _).processCount.trans (waitForUserInput_processCount msg fault s)
  | runSugar cmd => exact (frame_drain _).processCount.trans (frame_runSugar cmd s).processCount

/-- Re-entry waits for the count, not for a particular caller: in every reachable state a positive
    `_processCount` leaves the shell inactive, and each task moves the count as `nestingAfter`
    says, whoever scheduled the timer that fires. -/
theorem processCount_brackets {s : PgShell} (hr : Reachable P s) :
    (0 < s.processCount → s.active = false) ∧
    ∀ env e, (s.step P env e).processCount = nestingAfter s e :=
  ⟨hr.inv.inactive, fun env => step_processCount env s⟩

theorem processCount_brackets_sample :
    (0 < (session Playground.sample [.disable]).processCount →
      (session Playground.sample [.disable]).active = false) ∧
    ∀ env e, ((session Playground.sample [.disable]).step Playground.sample env e).processCount =
      nestingAfter (session Playground.sample [.disable]) e :=
  processCount_brackets (reachable_session _ _ _)

/-- A bracket opened after HELP is closed by HELP's own timer: after a full bracket, HELP, and
    a second `disable()`, the shell is inactive with one timer pending; when it fires the shell
    prompts again, although the second bracket's `enable()` has not run. -/
theorem help_timer_closes_bracket :
    (session Playground.sample [.disable, .enable, .timer, .termData (js "help"),
      .termData (js "\r"), .disable]).active = false ∧
    (session Playground.sample [.disable, .enable, .timer, .termData (js "help"),
      .termData (js "\r"), .disable]).timers = 1 ∧
    (session Playground.sample [.disable, .enable, .timer, .termData (js "help"),
      .termData (js "\r"), .disable, .timer]).active = true := by
  decide

theorem prompt_prompting (env : Env) {s : PgShell} (ha : s.active = true) :
    (prompt P env s).active = true ∧ (prompt P env s).activePrompt.isSome := by
  unfold prompt
  split
  · rename_i h
    exact ⟨ha, by simp_all⟩
  · exact ⟨rfl, rfl⟩

theorem prompt_timers (env : Env) (s : PgShell) : (prompt P env s).timers = s.timers := by
  unfold prompt
  split <;> rfl

/-- The timer of `enable()` leaves the shell active exactly when it already was or the count
    reaches zero, and then with a line read pending; it schedules no timer. -/
theorem enableCallback_fields (env : Env) (s : PgShell) :
    (enableCallback P env s).active = (s.active || decide (s.processCount ≤ 1)) ∧
    (s.processCount ≤ 1 → (enableCallback P env s).activePrompt.isSome) ∧
    (enableCallback P env s).timers = s.timers := by
  obtain ⟨hd, hd', hd''⟩ := decrementProcessCount_fields s
  unfold enableCallback
  generalize s.decrementProcessCount = s₁ at hd hd' hd''
  dsimp only
  split
  · obtain ⟨h₁, h₂⟩ := prompt_prompting (P := P) env (s := { s₁ with active := true }) rfl
    have h1 : s.processCount ≤ 1 := by omega
    exact ⟨h₁.trans (by simp [h1]), fun _ => h₂, (prompt_timers env _).trans hd''⟩
  · have h1 : ¬s.processCount ≤ 1 := by omega
    exact ⟨by simp [hd', h1], fun h => absurd h h1, hd''⟩

/-- A timer task with a timer pending: one timer fewer, and the shell is active after it exactly
    when it was before or the count reached zero, then with a line read pending. -/
theorem step_timer (env : Env) {s : PgShell} (ht : s.timers ≠ 0) :
    (s.step P env .timer).timers = s.timers - 1 ∧
    (s.step P env .timer).active = (s.active || decide (s.processCount ≤ 1)) ∧
    (s.processCount ≤ 1 → (s.step P env .timer).activePrompt.isSome) := by
  have hstep : s.step P env .timer =
      drain (enableCallback P env { s with timers := s.timers - 1 }) := if_neg ht
  obtain ⟨h₁, h₂, h₃⟩ :=
    drain_control (enableCallback P env { s with timers := s.timers - 1 })
  obtain ⟨h₄, h₅, h₆⟩ :=
    enableCallback_fields (P := P) env { s with timers := s.timers - 1 }
  rw [hstep, h₁, h₂, h₃, h₄, h₆]
  exact ⟨rfl, rfl, h₅⟩

theorem step_inactive {s : PgShell} (hs : s.Inv) (ha : s.active = false) (env : Env) {e : Event}
    (he : e ≠ .timer) : (s.step P env e).active = false := by
  have hd := fun s => (drain_control s).1
  cases e with
  | termData d => exact (hd _).trans (active_handleTermData hs.activeCharPrompt ha d)
  | disable => exact hd _
  | enable => exact (hd _).trans ha
  | timer => exact absurd rfl he
  | waitForUserInput msg fault => exact (hd _).trans ((active_waitForUserInput msg fault s).trans ha)
  | runSugar cmd => exact (hd _).trans ((active_runSugar cmd s).trans ha)

/-- The shell turns active in one way only: an `enable()` timer fires and leaves the nesting
    count at zero, and a line read is then pending. Re-entry waits for the outermost bracket,
    whatever else runs meanwhile. -/
theorem step_activates {s : PgShell} (hr : Reachable P s) (ha : s.active = false) (env : Env)
    (e : Event) :
    ((s.step P env e).active = true ↔ e = .timer ∧ 0 < s.timers ∧ s.processCount ≤ 1) ∧
    ((s.step P env e).active = true → (s.step P env e).activePrompt.isSome) := by
  by_cases he : e = .timer
  · subst he
    by_cases ht : s.timers = 0
    · have hs : s.step P env .timer = s := if_pos ht
      simp [hs, ha, ht]
    · obtain ⟨-, h₁, h₂⟩ := step_timer (P := P) env ht
      rw [h₁, ha]
      exact ⟨by simp [Nat.pos_iff_ne_zero, ht], fun h => h₂ (by simpa using h)⟩
  · have h := step_inactive (P := P) hr.inv ha env he
    simp [h, he]

theorem step_activates_sample :
    (session Playground.sample [.disable, .disable, .enable, .timer, .enable]).active = false ∧
    ((session Playground.sample [.disable, .disable, .enable, .timer, .enable]).step
        Playground.sample Env.sample .timer).active = true ∧
    ((session Playground.sample [.disable, .disable, .enable, .timer, .enable]).step
        Playground.sample Env.sample .timer).activePrompt.isSome :=
  have h := step_activates (reachable_session Playground.sample
    [.disable, .disable, .enable, .timer, .enable] {}) (by decide) Env.sample .timer
  ⟨by decide, h.1.mpr ⟨rfl, by decide, by decide⟩, h.2 (h.1.mpr ⟨rfl, by decide, by decide⟩)⟩

theorem run_timers_processCount (env : Env) {k : Nat} {s : PgShell} (hk : k ≤ s.timers) :
    (run P s (List.replicate k (env, .timer))).processCount = s.processCount - k := by
  induction k generalizing s with
  | zero => rfl
  | succ k ih =>
    have ht : s.timers ≠ 0 := by omega
    refine (ih (s := s.step P env .timer) (by rw [(step_timer env ht).1]; omega)).trans ?_
    rw [step_processCount]
    simp only [nestingAfter, ht, ↓reduceIte]
    omega

theorem run_timers_keep_active (env : Env) (k : Nat) {s : PgShell} (ha : s.active = true) :
    (run P s (List.replicate k (env, .timer))).active = true := by
  induction k generalizing s with
  | zero => exact ha
  | succ k ih =>
    refine ih (s := s.step P env .timer) ?_
    by_cases ht : s.timers = 0
    · have hs : s.step P env .timer = s := if_pos ht
      rw [hs]
      exact ha
    · rw [(step_timer env ht).2.1, ha]
      rfl

/-- Re-entry waits for the outermost bracket: from a reachable inactive shell, firing `k` of its
    pending timers, and nothing else, makes it active exactly when `k` covers the nesting count,
    and lowers the count by `k`. -/
theorem run_timers_release {s : PgShell} (hr : Reachable P s) (ha : s.active = false) (env : Env)
    {k : Nat} (hk : k ≤ s.timers) :
    ((run P s (List.replicate k (env, .timer))).active = true ↔ 0 < k ∧ s.processCount ≤ k) ∧
    (run P s (List.replicate k (env, .timer))).processCount = s.processCount - k := by
  refine ⟨?_, run_timers_processCount env hk⟩
  induction k generalizing s with
  | zero =>
    show s.active = true ↔ _
    simp [ha]
  | succ k ih =>
    have ht : s.timers ≠ 0 := by omega
    obtain ⟨h₁, h₂, -⟩ := step_timer (P := P) env ht
    show (run P (s.step P env .timer) (List.replicate k (env, .timer))).active = true ↔ _
    by_cases hp : s.processCount ≤ 1
    · have ha₁ : (s.step P env .timer).active = true := by simp [h₂, hp]
      exact iff_of_true (run_timers_keep_active env k ha₁) ⟨k.succ_pos, by omega⟩
    · have ha₁ : (s.step P env .timer).active = false := by simp [h₂, ha, hp]
      have hc : (s.step P env .timer).processCount = s.processCount - 1 := by
        rw [step_processCount]
        simp only [nestingAfter, ht, ↓reduceIte]
      rw [ih (hr.step env .timer) ha₁ (by omega), hc]
      omega

theorem run_timers_release_sample :
    (session Playground.sample [.disable, .disable, .enable, .enable]).active = false ∧
    (run Playground.sample (session Playground.sample [.disable, .disable, .enable, .enable])
      (List.replicate 1 (Env.sample, .timer))).active = false ∧
    (run Playground.sample (session Playground.sample [.disable, .disable, .enable, .enable])
      (List.replicate 2 (Env.sample, .timer))).active = true :=
  have h₁ := run_timers_release (reachable_session Playground.sample
    [.disable, .disable, .enable, .enable] {}) (by decide) Env.sample (k := 1) (by decide)
  have h₂ := run_timers_release (reachable_session Playground.sample
    [.disable, .disable, .enable, .enable] {}) (by decide) Env.sample (k := 2) (by decide)
  ⟨by decide, Bool.eq_false_iff.mpr fun h => absurd (h₁.1.mp h).2 (by decide),
    h₂.1.mpr ⟨by decide, by decide⟩⟩

/-! ## Waiting for input -/

/-- When `clearLine` throws inside `waitForUserInput`, the promise is rejected but the flag stays
    set: the next call is refused as already waiting, and a submitted line is handed to a
    listener that is not there instead of being parsed. -/
theorem waitForUserInput_fault :
    (session Playground.sample
      [.enable, .timer, .waitForUserInput (js "name?") (some .clearLine)]).out.getLast? =
      some (.rejectWait none) ∧
    (session Playground.sample
      [.enable, .timer, .waitForUserInput (js "name?") (some .clearLine)]).waitingForInput = true ∧
    (session Playground.sample [.enable, .timer, .waitForUserInput (js "name?") (some .clearLine),
      .waitForUserInput (js "name?") none]).out.getLast? =
      some (.rejectWait (some (js "Already waiting for input."))) ∧
    (session Playground.sample [.enable, .timer, .waitForUserInput (js "name?") (some .clearLine),
      .termData (js "help"), .termData (js "\r")]).out.getLast? =
      some (.dispatch .terminalWaitForInput) := by
  decide

/-! ## The history -/

/-- `clear` is submitted after `ls`, but only `ls` is recorded: CLEAR starts a new read before
    `prompt()` reads the line back. -/
theorem clear_not_recorded :
    (session Playground.sample [.enable, .timer, .termData (js "ls"), .termData (js "\r"), .timer,
      .termData (js "clear"), .termData (js "\r")]).history.getEntries = [js "ls"] := by
  decide

end PgShell

end PlaygroundShell
