import PlaygroundShell.Editor
import PlaygroundShell.Paste

/-!
# What a submitted line leaves behind

ENTER on a complete line (src/unnamed/part_004:396-402) calls `handleReadComplete`
(part_004:161-178), which resolves the pending line read and hands the line to `_parseCommand`, or
to a pending `waitForUserInput`. Resolving the read queues the rest of `prompt()`
(part_004:117-119), which pushes `getInput().trim()` into the history when the task ends: it reads
the terminal as the dispatch left it.

Only `prompt()` turns the shell on, and it leaves a line read pending, the one it found or a new
one; a submission resolves the read and turns the shell off in the same call. An active shell
therefore always has a read pending, and ENTER always queues the continuation that records.

Every dispatch but CLEAR leaves the terminal's line alone, so the history records the line as it
was submitted, an answer to `waitForUserInput` as well as a command. CLEAR starts a new read first;
the continuation then finds an empty line, which `push` drops.

`_parseCommand` calls itself only from `!!`, on the newest history entry, and the history does not
change during the call. The recursion is one frame deep, or endless when that entry is itself a
`!!`.

Results:
* `reachable_prompting`: in every reachable state an active shell has a line read pending.
* `enter_records`: from every reachable active state, ENTER on a complete line pushes its trimmed
  text into the history, unless it is dispatched as CLEAR (directly, or as `!!` with CLEAR the
  newest entry); a CLEAR line leaves the entries as they were.
* `timer_clears_line`: an `enable()` timer that fires while the shell is active discards the line
  being typed.
* `parseCommand_two_frames`: `_parseCommand` returns within two frames, with the same result on
  every deeper stack, or throws on every stack with the state unchanged.
-/

namespace PlaygroundShell

namespace PgShell

variable {P : Playground} {env : Env}

/-! ## Dispatch keeps the line -/

/-- `s'` has the terminal, the history ring and the queued continuations of `s`. -/
def KeepsLine (s s' : PgShell) : Prop :=
  s'.pgTty = s.pgTty ∧ s'.history = s.history ∧ s'.microtasks = s.microtasks

theorem KeepsLine.refl (s : PgShell) : KeepsLine s s := ⟨rfl, rfl, rfl⟩

theorem KeepsLine.trans {s₁ s₂ s₃ : PgShell} (h₁₂ : KeepsLine s₁ s₂) (h₂₃ : KeepsLine s₂ s₃) :
    KeepsLine s₁ s₃ :=
  ⟨h₂₃.1.trans h₁₂.1, h₂₃.2.1.trans h₁₂.2.1, h₂₃.2.2.trans h₁₂.2.2⟩

theorem keepsLine_emit (s : PgShell) (e : Effect) : KeepsLine s (s.emit e) := ⟨rfl, rfl, rfl⟩

theorem keepsLine_enable (s : PgShell) : KeepsLine s s.enable := ⟨rfl, rfl, rfl⟩

theorem keepsLine_loadPkg (pkg : PkgName) (cmd : JsString) (s : PgShell) :
    KeepsLine s (loadPkg pkg cmd s) := by
  unfold loadPkg
  dsimp only
  split <;> exact ⟨rfl, rfl, rfl⟩

/-- The line is not CLEAR, nor `!!` with CLEAR as the newest history entry. -/
def NotClear (P : Playground) (cmd : JsString) (s : PgShell) : Prop :=
  commandOf P (cmdNameOf cmd) ≠ some .clear ∧
    (commandOf P (cmdNameOf cmd) = some .runLastCmd →
      ∀ e ∈ s.history.getEntries.getLast?, commandOf P (cmdNameOf e) ≠ some .clear)

/-- Every branch of `_parseCommand` but CLEAR leaves the terminal and the history alone. -/
theorem keepsLine_parseCommand (n : Nat) {cmd : JsString} {s : PgShell} (hc : NotClear P cmd s) :
    KeepsLine s (finalState (parseCommand P env n cmd s)) := by
  induction n generalizing cmd with
  | zero => exact .refl s
  | succ n ih =>
    unfold parseCommand
    dsimp only
    split
    case h_2 h => exact absurd h hc.1
    case h_7 h =>
      split
      · exact ⟨rfl, rfl, rfl⟩
      · rename_i e he
        have hne := hc.2 h e he
        exact ih ⟨hne, fun _ e' he' => by rw [he] at he'; cases he'; exact hne⟩
    case h_4 =>
      exact ifPgConnected_of (Q := KeepsLine s) (·.emit _) ⟨rfl, rfl, rfl⟩ (keepsLine_enable s)
    case h_10 | h_11 =>
      exact ifPgConnected_of (Q := KeepsLine s) _ (keepsLine_loadPkg _ _ s) (keepsLine_enable s)
    all_goals first
      | exact ⟨rfl, rfl, rfl⟩
      | split <;> exact ⟨rfl, rfl, rfl⟩

theorem keepsLine_dispatchWaitForInput (s : PgShell) : KeepsLine s (dispatchWaitForInput s) := by
  unfold dispatchWaitForInput
  dsimp only
  split <;> exact ⟨rfl, rfl, rfl⟩

/-! ## An active shell has a line read pending -/

/-- The spec's Prompting state: an active shell has a line read pending. -/
def Prompting (s : PgShell) : Prop := s.active = true → s.activePrompt.isSome

theorem Prompting.of_inactive {s : PgShell} (h : s.active = false) : s.Prompting :=
  fun h' => absurd (h.symm.trans h') Bool.false_ne_true

theorem Prompting.of_editsLine {s s' : PgShell} (hs : s.Prompting) (h : EditsLine s s') :
    s'.Prompting := by
  obtain ⟨t, c, o, rfl, -⟩ := h
  exact hs

theorem Prompting.drain {s : PgShell} (hs : s.Prompting) : (drain s).Prompting := by
  obtain ⟨ha, -, hp⟩ := drain_control s
  intro h
  rw [hp]
  exact hs (ha ▸ h)

/-- `prompt()` leaves a read pending, the one it found or a new one. -/
theorem prompting_prompt (env : Env) (s : PgShell) : (prompt P env s).Prompting := by
  unfold prompt
  split
  · rename_i h
    exact fun _ => (Bool.and_eq_true _ _).mp h |>.1
  · exact fun _ => rfl

theorem prompting_loadPkg {s : PgShell} (hs : s.Prompting) (pkg : PkgName) (cmd : JsString) :
    (loadPkg pkg cmd s).Prompting := by
  unfold loadPkg
  dsimp only
  split <;> exact hs

theorem prompting_parseCommand (n : Nat) (cmd : JsString) {s : PgShell} (hs : s.Prompting) :
    (finalState (parseCommand P env n cmd s)).Prompting := by
  induction n generalizing cmd with
  | zero => exact hs
  | succ n ih =>
    unfold parseCommand
    dsimp only
    split
    case h_2 => exact prompting_prompt env _
    case h_7 =>
      split
      · exact hs
      · exact ih _
    case h_4 => exact ifPgConnected_of (Q := Prompting) (·.emit _) hs hs
    case h_10 | h_11 => exact ifPgConnected_of (Q := Prompting) _ (prompting_loadPkg hs _ _) hs
    all_goals first
      | exact hs
      | split <;> exact hs

theorem active_dispatchWaitForInput (s : PgShell) :
    (dispatchWaitForInput s).active = s.active := by
  unfold dispatchWaitForInput
  dsimp only
  split <;> rfl

/-- A submission turns the shell off; only CLEAR's `prompt()` turns it on again, with a read. -/
theorem prompting_handleReadComplete (clearCmd : Bool) (s : PgShell) :
    (finalState (handleReadComplete P env clearCmd s)).Prompting := by
  unfold handleReadComplete
  cases clearCmd <;> simp only [Bool.false_eq_true, ↓reduceIte] <;> split
  all_goals first
    | exact .of_inactive (active_dispatchWaitForInput _)
    | exact prompting_parseCommand _ _ (.of_inactive rfl)

theorem prompting_handleData (c : JsString) {s : PgShell} (hs : s.Prompting) :
    (finalState (handleData P env c s)).Prompting := by
  by_cases hc : c = js "\r"
  · subst hc
    cases ha : s.active
    · rw [handleData_inactive ha]
      exact hs
    · have h : handleData P env (js "\r") s = handleControlKey P env .enter s := by
        unfold handleData
        rw [ha]
        rfl
      rw [h]
      unfold handleControlKey
      dsimp only
      split
      · exact hs.of_editsLine (editsLine_handleCursorInsert _ s)
      · exact prompting_handleReadComplete _ _
  · obtain ⟨s', h, he⟩ : ∃ s', handleData P env c s = .ok s' ∧ EditsLine s s' :=
      editsLine_handleData hc s
    rw [h]
    exact hs.of_editsLine he

theorem prompting_foldlM (l : List JsString) {s : PgShell} (hs : s.Prompting) :
    (finalState (l.foldlM (fun s c => handleData P env c s) s)).Prompting := by
  induction l generalizing s with
  | nil => exact hs
  | cons c l ih =>
    have h : (finalState (handleData P env c s)).Prompting := prompting_handleData c hs
    rw [List.foldlM_cons]
    cases hc : handleData P env c s with
    | error s' => rw [hc] at h; exact h
    | ok s' => rw [hc] at h; exact ih h

theorem prompting_handleTermData (d : JsString) {s : PgShell} (hs : s.Prompting) :
    (finalState (handleTermData P env d s)).Prompting := by
  unfold handleTermData
  split
  · exact hs
  · split
    · exact hs
    · rename_i s₁ hd
      have h₁ : s₁.Prompting := fun h =>
        ((detectPromptPrefix_fields hd).2.2.2).trans (hs ((detectPromptPrefix_active hd).1 ▸ h))
      split
      · exact h₁
      · split
        · exact prompting_foldlM _ h₁
        · exact prompting_handleData _ h₁

theorem prompting_enableCallback (env : Env) {s : PgShell} (hs : s.Prompting) :
    (enableCallback P env s).Prompting := by
  have h₁ : s.decrementProcessCount.Prompting := by
    unfold decrementProcessCount
    split <;> exact hs
  unfold enableCallback
  dsimp only
  split
  · exact prompting_prompt env { s.decrementProcessCount with active := true }
  · exact h₁

theorem prompting_waitForUserInput (msg : JsString) (fault : Option TtyFault) {s : PgShell}
    (hs : s.Prompting) : (waitForUserInput P msg fault s).Prompting := by
  unfold waitForUserInput
  split
  · exact hs
  · rcases fault with _ | _ | _ <;> exact hs

theorem Prompting.step {s : PgShell} (hs : s.Prompting) (env : Env) (e : Event) :
    (s.step P env e).Prompting := by
  cases e with
  | termData d => exact (prompting_handleTermData d hs).drain
  | disable => exact Prompting.drain (.of_inactive rfl)
  | enable => exact Prompting.drain hs
  | timer =>
    show (if s.timers = 0 then s else _).Prompting
    split
    · exact hs
    · exact (prompting_enableCallback (s := { s with timers := s.timers - 1 }) env hs).drain
  | waitForUserInput msg fault => exact (prompting_waitForUserInput msg fault hs).drain
  | runSugar cmd =>
    exact (ifPgConnected_of (Q := Prompting) _ (prompting_loadPkg hs _ cmd) hs).drain

end PgShell

theorem Reachable.prompting {P : Playground} {s : PgShell} (hr : Reachable P s) : s.Prompting := by
  induction hr with
  | new options => exact .of_inactive rfl
  | step env e _ ih => exact ih.step env e

/-- In every reachable state an active shell has a line read pending, the spec's Prompting state:
    only `prompt()` turns the shell on, and it leaves a read pending; a submission resolves the
    read and turns the shell off together. -/
theorem reachable_prompting {P : Playground} {s : PgShell} (hr : Reachable P s)
    (ha : s.active = true) : s.activePrompt.isSome :=
  hr.prompting ha

theorem reachable_prompting_sample :
    (PgShell.session Playground.sample [.enable, .timer, .termData (js "help"),
      .termData (js "\r"), .timer]).active = true ∧
    (PgShell.session Playground.sample [.enable, .timer, .termData (js "help"),
      .termData (js "\r"), .timer]).activePrompt.isSome :=
  ⟨by decide, reachable_prompting (reachable_session _ _ _) (by decide)⟩

namespace PgShell

variable {P : Playground} {env : Env}

/-! ## The history after ENTER -/

/-- What `handleReadComplete(false)` hands on (part_004:162-171): the pending read resolved, which
    queues `prompt()`'s continuation, a line break printed, and the shell off. -/
def resolved (s : PgShell) : PgShell :=
  { (resolveActivePrompt s).emit (.print (js "\r\n")) with active := false }

theorem handleReadComplete_false (s : PgShell) :
    handleReadComplete P env false s = if s.waitingForInput then .ok (dispatchWaitForInput (resolved s))
      else parseCommand P env env.stackDepth s.pgTty.input (resolved s) := by
  have hw : (resolved s).waitingForInput = s.waitingForInput := by
    unfold resolved resolveActivePrompt
    split <;> rfl
  unfold handleReadComplete
  rw [← hw]
  rfl

theorem resolved_fields {s : PgShell} (hp : s.activePrompt.isSome) :
    (resolved s).pgTty = s.pgTty ∧ (resolved s).history = s.history ∧
      (resolved s).microtasks = s.microtasks ++ [.promptResume] ∧ (resolved s).activePrompt = none := by
  obtain ⟨p, hp'⟩ := Option.isSome_iff_exists.mp hp
  unfold resolved resolveActivePrompt
  rw [hp']
  exact ⟨rfl, rfl, rfl, rfl⟩

/-- ENTER on a complete line, from a reachable active state whose prompt prefix can be read: once
    the prompt prefix is read (`s₁`), `handleReadComplete` runs, with a read to resolve. -/
theorem step_enter (env : Env) {s : PgShell} (hr : Reachable P s) (ha : s.active = true)
    (hb : env.bufferLine.isSome ∨ s.pgTty.firstInit = false)
    (hi : P.isIncompleteInput s.pgTty.input = false) :
    ∃ s₁ : PgShell, s₁.pgTty.input = s.pgTty.input ∧ s₁.history = s.history ∧
      s₁.waitingForInput = s.waitingForInput ∧ s₁.activePrompt.isSome ∧ s₁.microtasks = [] ∧
      s.step P env (.termData (js "\r")) = drain (finalState (handleReadComplete P env false s₁)) := by
  have hc := hr.inv.activeCharPrompt
  have hm := hr.microtasks
  obtain ⟨s₁, hd⟩ : ∃ s₁, detectPromptPrefix env s = some s₁ := by
    rcases hb with hb | hf
    · exact Option.isSome_iff_exists.mp (detectPromptPrefix_isSome hb)
    · exact ⟨s, detectPromptPrefix_settled (by rw [hf]; rfl)⟩
  have hs₁ := settled_of_detect hc hm hd
  obtain ⟨hh, hw, -, hp₁⟩ := detectPromptPrefix_fields hd
  have hl := (detectPromptPrefix_line hd).1
  have hp := hr.prompting ha
  have hf₁ : s₁.pgTty.firstInit = false := by simpa [hp₁, hp] using hs₁.detected
  refine ⟨s₁, hl, hh, hw, hp₁.trans hp, hs₁.noMicrotask, ?_⟩
  rw [step, handleTermData_of_detect ha hd, handleTermData_enter
    ((detectPromptPrefix_active hd).1.trans ha) hs₁.noCharPrompt hf₁ (hl ▸ hi)]

/-- The continuation `prompt()` queued pushes what the terminal holds. -/
theorem drain_promptResume {s : PgShell} (h : s.microtasks = [.promptResume]) :
    (drain s).history = s.history.push (trim s.pgTty.input) := by
  unfold drain
  rw [h]
  rfl

/-- From every reachable active state, ENTER on a complete line, read once the prompt prefix can
    be: unless the line is dispatched as CLEAR, the history records its trimmed text, whether it
    answers a `waitForUserInput` or runs as a command; a CLEAR line dispatched on a stack with room
    starts a new read and leaves the history's entries as they were. -/
theorem enter_records {s : PgShell} (hr : Reachable P s) (ha : s.active = true) (env : Env)
    (hb : env.bufferLine.isSome ∨ s.pgTty.firstInit = false)
    (hi : P.isIncompleteInput s.pgTty.input = false) :
    (s.waitingForInput = true ∨ NotClear P s.pgTty.input s →
      (s.step P env (.termData (js "\r"))).history = s.history.push (trim s.pgTty.input)) ∧
    (s.waitingForInput = false → commandOf P (cmdNameOf s.pgTty.input) = some .clear →
      0 < env.stackDepth →
      (s.step P env (.termData (js "\r"))).history.getEntries = s.history.getEntries) := by
  obtain ⟨s₁, hl, hh, hw, hp₁, hm₁, hstep⟩ := step_enter env hr ha hb hi
  obtain ⟨ht₄, hh₄, hm₄, hp₄⟩ := resolved_fields hp₁
  rw [hm₁, List.nil_append] at hm₄
  rw [hstep, handleReadComplete_false, hw, hl]
  refine ⟨fun hc => ?_, fun hw' hclear hdepth => ?_⟩
  · have hk : KeepsLine (resolved s₁) (finalState (if s.waitingForInput then
        .ok (dispatchWaitForInput (resolved s₁))
        else parseCommand P env env.stackDepth s.pgTty.input (resolved s₁))) := by
      split
      · exact keepsLine_dispatchWaitForInput _
      · rename_i hw'
        refine keepsLine_parseCommand _ ⟨(hc.resolve_left hw').1, fun h e he => ?_⟩
        exact (hc.resolve_left hw').2 h e (by rwa [hh₄, hh] at he)
    rw [drain_promptResume (hk.2.2.trans hm₄), hk.2.1, hk.1, ht₄, hh₄, hh, hl]
  · obtain ⟨n, hn⟩ := Nat.exists_eq_add_of_lt hdepth
    rw [if_neg (by rw [hw']; exact Bool.false_ne_true), hn, Nat.zero_add]
    simp only [parseCommand, hclear, finalState]
    rw [drain_promptResume (by simp [prompt, emit, hp₄, hm₄])]
    have hpr : (prompt P env ((s₁.resolved.emit .clearTty).emit .clear)).pgTty.input = [] ∧
        (prompt P env ((s₁.resolved.emit .clearTty).emit .clear)).history = s.history := by
      unfold prompt
      simp only [emit, hp₄, Option.isSome_none, Bool.false_and, Bool.false_eq_true, ↓reduceIte]
      exact ⟨rfl, hh₄.trans hh⟩
    rw [hpr.1, hpr.2]
    rfl

/-- ` ls ` is recorded as `ls`; `clear` submitted on a fresh shell is not recorded. -/
theorem enter_records_sample :
    ((session Playground.sample [.enable, .timer, .termData (js " ls ")]).step Playground.sample
      Env.sample (.termData (js "\r"))).history =
      (session Playground.sample [.enable, .timer, .termData (js " ls ")]).history.push
        (trim (session Playground.sample [.enable, .timer, .termData (js " ls ")]).pgTty.input) ∧
    ((session Playground.sample [.enable, .timer, .termData (js "clear")]).step Playground.sample
      Env.sample (.termData (js "\r"))).history.getEntries =
      (session Playground.sample [.enable, .timer, .termData (js "clear")]).history.getEntries :=
  ⟨(enter_records (reachable_session _ _ _) (by decide) Env.sample (.inl rfl) (by decide)).1
      (.inr ⟨by decide, fun h => absurd h (by decide)⟩),
    (enter_records (reachable_session _ _ _) (by decide) Env.sample (.inl rfl) (by decide)).2
      (by decide) (by decide) (by decide)⟩

/-! ## A timer while the user types -/

/-- `prompt()` touches the terminal, the read, the flag and the log, nothing else. -/
theorem prompt_fields (env : Env) (s : PgShell) :
    (prompt P env s).history = s.history ∧ (prompt P env s).microtasks = s.microtasks := by
  unfold prompt
  split <;> exact ⟨rfl, rfl⟩

/-- From every reachable active state, an `enable()` timer that fires (one that no bracket needed,
    since an active shell has no count to take down) keeps the shell active and issues
    `read("")`: the line being typed is discarded, and the history is left as it was. -/
theorem timer_clears_line {s : PgShell} (hr : Reachable P s) (ha : s.active = true)
    (ht : s.timers ≠ 0) (env : Env) :
    (s.step P env .timer).active = true ∧ (s.step P env .timer).pgTty.input = [] ∧
      (s.step P env .timer).pgTty.cursor = 0 ∧ (s.step P env .timer).history = s.history := by
  have h0 : s.processCount = 0 :=
    Nat.eq_zero_of_not_pos fun h => absurd (hr.inv.inactive h) (by simp [ha])
  have hd : ({ s with timers := s.timers - 1 } : PgShell).decrementProcessCount =
      { s with timers := s.timers - 1 } := by
    unfold decrementProcessCount
    rw [if_neg (by simpa using h0)]
  obtain ⟨hh, hm⟩ := prompt_fields env { s with timers := s.timers - 1, active := true }
  have hstep : s.step P env .timer =
      ((prompt P env { s with timers := s.timers - 1, active := true }).withTty
        ((prompt P env { s with timers := s.timers - 1, active := true }).pgTty.read []).1).emit
        (.read []) := by
    rw [step, if_neg ht, enableCallback, hd]
    dsimp only
    rw [if_pos h0]
    exact drain_of_nil (hm.trans hr.microtasks)
  rw [hstep]
  exact ⟨(prompt_prompting env rfl).1, rfl, rfl, hh⟩

theorem timer_clears_line_sample :
    (session Playground.sample [.enable, .timer, .enable, .termData (js "ls")]).active = true ∧
    (session Playground.sample [.enable, .timer, .enable, .termData (js "ls")]).timers ≠ 0 ∧
    (session Playground.sample [.enable, .timer, .enable, .termData (js "ls")]).pgTty.input =
      js "ls" ∧
    ((session Playground.sample [.enable, .timer, .enable, .termData (js "ls")]).step
      Playground.sample Env.sample .timer).pgTty.input = [] :=
  ⟨by decide, by decide, by decide,
    (timer_clears_line (reachable_session _ _ _) (by decide) (by decide) Env.sample).2.1⟩

/-! ## How deep `!!` goes -/

/-- A line whose command is not `!!` returns from its one frame, whatever the stack holds. -/
theorem parseCommand_one_frame (env : Env) {cmd : JsString}
    (hb : commandOf P (cmdNameOf cmd) ≠ some .runLastCmd) (s : PgShell) :
    ∃ s', ∀ m, parseCommand P env (m + 1) cmd s = .ok s' := by
  cases h : commandOf P (cmdNameOf cmd) with
  | none => exact ⟨_, fun m => by simp only [parseCommand, h]; exact rfl⟩
  | some b =>
    cases b
    case runLastCmd => exact absurd h hb
    all_goals exact ⟨_, fun m => by simp only [parseCommand, h]; exact rfl⟩

/-- `!!` runs the newest history entry in the next frame. -/
theorem parseCommand_runLastCmd {cmd : JsString}
    (hb : commandOf P (cmdNameOf cmd) = some .runLastCmd) {s : PgShell} {e : JsString}
    (hl : s.history.getEntries.getLast? = some e) (m : Nat) :
    parseCommand P env (m + 1) cmd s = parseCommand P env m e s := by
  simp only [parseCommand, hb, hl]

/-- `_parseCommand` returns within two frames, with the same result on every deeper stack, or it
    throws on every stack, with the state as it was: `!!` recurses once, into the newest history
    entry, and forever when that entry is a `!!` itself. -/
theorem parseCommand_two_frames (env : Env) (cmd : JsString) (s : PgShell) :
    (∃ s', ∀ n, parseCommand P env (n + 2) cmd s = .ok s') ∨
      ∀ n, parseCommand P env n cmd s = .error s := by
  by_cases hb : commandOf P (cmdNameOf cmd) = some .runLastCmd
  · cases hl : s.history.getEntries.getLast? with
    | none => exact .inl ⟨_, fun n => by simp only [parseCommand, hb, hl]; exact rfl⟩
    | some e =>
      by_cases he : commandOf P (cmdNameOf e) = some .runLastCmd
      · have hloop : ∀ n, parseCommand P env n e s = .error s := by
          intro n
          induction n with
          | zero => rfl
          | succ n ih => rw [parseCommand_runLastCmd he hl, ih]
        refine .inr fun n => ?_
        cases n with
        | zero => rfl
        | succ n => rw [parseCommand_runLastCmd hb hl, hloop]
      · obtain ⟨s', hs'⟩ := parseCommand_one_frame env he s
        exact .inl ⟨s', fun n => by rw [parseCommand_runLastCmd hb hl, hs']⟩
  · obtain ⟨s', hs'⟩ := parseCommand_one_frame env hb s
    exact .inl ⟨s', fun n => hs' (n + 1)⟩

end PgShell

end PlaygroundShell
