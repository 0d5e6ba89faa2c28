import PlaygroundShell.Navigation
import PlaygroundShell.Submit

/-!
# What a key can do

A chunk that is not CR, and no paste holding a line break, never reaches `handleReadComplete`:
`_handleData` (src/unnamed/part_004:311-526) sends it to a cursor helper, a history step, TAB or
no `case` at all, and each of them only edits the line, moves the history ring's traversal
cursor and writes to the log (`EditsLine`). The other tasks do not touch the ring either:
`enable()`'s timer, `disable()`, `waitForUserInput` and the SUGAR callback leave it alone. Only
`prompt()`'s continuation pushes to it, and only a submitted line resolves the read it awaits.
Nor does any of these tasks but `disable()` turn the shell off (`step_editing`).

Two control bytes behave apart from the rest.

**CTRL+G** (part_004:483-486), which the spec's list of keys leaves out, calls `getPrevious()`,
drops what it returns and empties the line. The ring's cursor is then on the newest line though
no line is shown, so the next UP shows the second newest: CTRL+G then UP does what UP twice does.

**CTRL+C** is the one chunk an inactive shell lets through (part_004:184-187), and its `case` is
commented out (part_004:472-473): it has no action.

Results:
* `run_keeps_entries`: over every run from a reachable state, the history ring's entries change
  only at a task that may submit a line.
* `run_keeps_active`: over every run from a reachable active state with no `disable()` and no
  task that may submit a line, the shell stays active.
* `ctrlG_up_eq_up_up`: from the bottom of a reachable history of two lines or more, CTRL+G then
  UP leaves the state UP twice leaves.
* `ctrlC_inert`: from every reachable state, CTRL+C changes nothing but what the first-init
  block records the first time a chunk arrives.
-/

namespace PlaygroundShell

/-- A task that may submit a line: CR on its own, or a paste holding CR or LF. -/
def Event.MaySubmit : Event → Bool
  | .termData d => d = js "\r" || (isPaste d && d.any isCrLf)
  | _ => false

namespace PgShell

variable {P : Playground} {env : Env}

/-! ## Only a submitted line writes the ring -/

/-- A chunk that may not submit a line is dropped, or meets the shell after the first-init block
    and edits its line. -/
theorem handleTermData_editsLine (env : Env) {s : PgShell} (hc : s.activeCharPrompt = none)
    (hm : s.microtasks = []) {d : JsString} (hd : (Event.termData d).MaySubmit = false) :
    ∃ s₁ s₂, (s₁ = s ∨ detectPromptPrefix env s = some s₁) ∧
      handleTermData P env d s = .ok s₂ ∧ EditsLine s₁ s₂ := by
  simp only [Event.MaySubmit, Bool.or_eq_false_iff, decide_eq_false_iff_not,
    Bool.and_eq_false_iff, List.any_eq_false, Bool.not_eq_true] at hd
  obtain ⟨hcr, hp⟩ := hd
  unfold handleTermData
  split
  · exact ⟨s, s, .inl rfl, rfl, .refl s⟩
  cases h : detectPromptPrefix env s with
  | none => exact ⟨s, s, .inl rfl, rfl, .refl s⟩
  | some s₁ =>
    refine ⟨s₁, ?_⟩
    simp only [(detectPromptPrefix_active h).2.1, hc, h, true_or, true_and, or_true]
    cases hpaste : isPaste d
    · simpa using editsLine_handleData hcr s₁
    · have hn : ∀ u ∈ d, isCrLf u = false := by simpa [hpaste] using hp
      obtain ⟨u, hu, -, he⟩ := run_typing (P := P) env (settled_of_detect hc hm h)
        (pieces_of_no_crlf hn)
      rw [if_pos rfl, collapseNewlines, collapseNewlinesFrom_of_no_crlf hn]
      exact ⟨u, hu, he⟩

/-- The timer of `enable()` neither pushes to the ring nor queues a continuation. -/
theorem enableCallback_history (env : Env) (s : PgShell) :
    (enableCallback P env s).history = s.history ∧
      (enableCallback P env s).microtasks = s.microtasks := by
  have hd : s.decrementProcessCount.history = s.history ∧
      s.decrementProcessCount.microtasks = s.microtasks := by
    unfold decrementProcessCount
    split <;> exact ⟨rfl, rfl⟩
  unfold enableCallback
  dsimp only
  split
  · obtain ⟨hh, hm⟩ := prompt_fields (P := P) env { s.decrementProcessCount with active := true }
    exact ⟨hh.trans hd.1, hm.trans hd.2⟩
  · exact hd

theorem keepsLine_waitForUserInput (msg : JsString) (fault : Option TtyFault) (s : PgShell) :
    KeepsLine s (waitForUserInput P msg fault s) := by
  unfold waitForUserInput
  split
  · exact keepsLine_emit s _
  · rcases fault with _ | _ | _ <;> exact ⟨rfl, rfl, rfl⟩

theorem keepsLine_runSugar (env : Env) (cmd : JsString) (s : PgShell) :
    KeepsLine s (runSugar env cmd s) :=
  ifPgConnected_of (Q := KeepsLine s) _ (keepsLine_loadPkg _ _ s) (keepsLine_enable s)

/-- One task that may not submit a line keeps the ring's entries, and, unless it is `disable()`,
    keeps an active shell active. -/
theorem step_editing {s : PgShell} (hc : s.activeCharPrompt = none) (hm : s.microtasks = [])
    (env : Env) {e : Event} (he : e.MaySubmit = false) :
    (s.step P env e).history.entries = s.history.entries ∧
      (e ≠ .disable → s.active = true → (s.step P env e).active = true) := by
  cases e with
  | termData d =>
    obtain ⟨s₁, s₂, h₁, h₂, h₁₂⟩ := handleTermData_editsLine (P := P) env hc hm he
    have hf : s₁.history = s.history ∧ s₁.microtasks = s.microtasks ∧ s₁.active = s.active := by
      rcases h₁ with rfl | h₁
      · exact ⟨rfl, rfl, rfl⟩
      · exact ⟨(detectPromptPrefix_fields h₁).1, (detectPromptPrefix_fields h₁).2.2.1,
          (detectPromptPrefix_active h₁).1⟩
    have h₂' : s₂.microtasks = [] ∧ s₂.active = s₁.active := by
      obtain ⟨t, c, o, rfl, -⟩ := h₁₂
      exact ⟨hf.2.1.trans hm, rfl⟩
    rw [step, h₂, finalState, drain_of_nil h₂'.1]
    exact ⟨h₁₂.entries.trans (congrArg _ hf.1), fun _ ha => h₂'.2.trans (hf.2.2.trans ha)⟩
  | disable =>
    rw [step, drain_of_nil (s := s.disable) hm]
    exact ⟨rfl, fun h => absurd rfl h⟩
  | enable =>
    rw [step, drain_of_nil (s := s.enable) hm]
    exact ⟨rfl, fun _ => id⟩
  | timer =>
    rw [step]
    split
    · exact ⟨rfl, fun _ => id⟩
    · obtain ⟨hh, hm'⟩ := enableCallback_history (P := P) env { s with timers := s.timers - 1 }
      rw [drain_of_nil (hm'.trans hm), hh, (enableCallback_fields env _).1]
      exact ⟨rfl, fun _ ha => by simp [ha]⟩
  | waitForUserInput msg fault =>
    have hk := keepsLine_waitForUserInput (P := P) msg fault s
    rw [step, drain_of_nil (hk.2.2.trans hm), hk.2.1]
    exact ⟨rfl, fun _ ha => (active_waitForUserInput msg fault s).trans ha⟩
  | runSugar cmd =>
    have hk := keepsLine_runSugar env cmd s
    rw [step, drain_of_nil (hk.2.2.trans hm), hk.2.1]
    exact ⟨rfl, fun _ ha => (active_runSugar cmd s).trans ha⟩

end PgShell

/-- Over every run from a reachable state, the history ring's entries change only at a task that
    may submit a line: keys, pastes with no line break, timers, `disable()`, `waitForUserInput`
    and the SUGAR callback leave them as they were. -/
theorem run_keeps_entries {P : Playground} {s : PgShell} (hr : Reachable P s)
    {tasks : List (Env × Event)} (ht : ∀ t ∈ tasks, t.2.MaySubmit = false) :
    (s.run P tasks).history.entries = s.history.entries := by
  induction tasks generalizing s with
  | nil => rfl
  | cons t tasks ih =>
    rw [PgShell.run_cons, ih (hr.step t.1 t.2) fun t' h => ht t' (List.mem_cons_of_mem _ h),
      (PgShell.step_editing hr.inv.activeCharPrompt hr.microtasks t.1
        (ht t (List.mem_cons_self _ _))).1]

theorem run_keeps_entries_sample :
    (∀ t ∈ ([.termData (js "cd"), .termData (js "\x1b[A"), .termData (js "\x07"), .timer,
        .termData (js "x\r"), .disable, .enable, .runSugar (js "sugar")] : List Event).map
        (fun e => (Env.sample, e)), t.2.MaySubmit = false) ∧
    ((PgShell.session Playground.sample [.enable, .timer, .termData (js "ls"), .termData (js "\r"),
      .timer]).run Playground.sample (([.termData (js "cd"), .termData (js "\x1b[A"),
        .termData (js "\x07"), .timer, .termData (js "x\r"), .disable, .enable,
        .runSugar (js "sugar")] : List Event).map fun e => (Env.sample, e))).history.entries =
      (PgShell.session Playground.sample [.enable, .timer, .termData (js "ls"), .termData (js "\r"),
        .timer]).history.entries :=
  ⟨by decide, run_keeps_entries (reachable_session _ _ _) (by decide)⟩

/-- The prompt stays up while the user edits: over every run from a reachable active state in
    which no task is `disable()` or may submit a line, the shell stays active. -/
theorem run_keeps_active {P : Playground} {s : PgShell} (hr : Reachable P s)
    (ha : s.active = true) {tasks : List (Env × Event)}
    (ht : ∀ t ∈ tasks, t.2 ≠ .disable ∧ t.2.MaySubmit = false) :
    (s.run P tasks).active = true := by
  induction tasks generalizing s with
  | nil => exact ha
  | cons t tasks ih =>
    have h := ht t (List.mem_cons_self _ _)
    rw [PgShell.run_cons]
    exact ih (hr.step t.1 t.2)
      ((PgShell.step_editing hr.inv.activeCharPrompt hr.microtasks t.1 h.2).2 h.1 ha)
      fun t' h' => ht t' (List.mem_cons_of_mem _ h')

theorem run_keeps_active_sample :
    (PgShell.session Playground.sample [.enable, .timer]).active = true ∧
    (∀ t ∈ ([.termData (js "ls -la"), .termData (js "\x1b[D"), .termData (js "\t"), .enable,
        .timer, .waitForUserInput (js "name?") none, .runSugar (js "sugar")] : List Event).map
        (fun e => (Env.sample, e)), t.2 ≠ .disable ∧ t.2.MaySubmit = false) ∧
    ((PgShell.session Playground.sample [.enable, .timer]).run Playground.sample
      (([.termData (js "ls -la"), .termData (js "\x1b[D"), .termData (js "\t"), .enable, .timer,
        .waitForUserInput (js "name?") none, .runSugar (js "sugar")] : List Event).map
        fun e => (Env.sample, e))).active = true :=
  ⟨by decide, by decide, run_keeps_active (reachable_session _ _ _) (by decide) (by decide)⟩

/-! ## CTRL+G -/

namespace PgShellHistory

/-- From the bottom of a well-formed ring of two lines or more, two steps back reach a line. -/
theorem getPrevious_twice {h : PgShellHistory} (hw : h.WellFormed) (hc : h.cursor = none)
    (hl : 2 ≤ h.entries.length) : ∃ v, v ≠ [] ∧ h.getPrevious.1.getPrevious.2 = some v := by
  obtain ⟨l, a, b, he⟩ : ∃ l a b, h.entries = l ++ [a] ++ [b] := by
    rcases List.eq_nil_or_concat h.entries with h₀ | ⟨l₁, b, h₁⟩
    · simp [h₀] at hl
    rcases List.eq_nil_or_concat l₁ with h₂ | ⟨l, a, h₃⟩
    · simp [h₁, h₂] at hl
    · exact ⟨l, a, b, by simp [h₁, h₃]⟩
  refine ⟨a, (hw.lines a (by simp [he])).1, ?_⟩
  rw [getPrevious_bottom hc he]
  simp [getPrevious, he, List.getElem_append_right]

end PgShellHistory

namespace PgShell

variable {P : Playground} {env : Env}

theorem handleData_ctrlG {s : PgShell} (ha : s.active = true) :
    handleData P env (js "\x07") s =
      .ok ({ s with history := s.history.getPrevious.1 }.withTty (s.pgTty.setInput [])) := by
  unfold handleData
  rw [if_neg (by simp [ha])]
  rfl

/-- Showing a non-empty history line overwrites the line and its cursor, whatever they held. -/
theorem showEntry_withTty {v : JsString} (hv : v ≠ []) (s : PgShell) {t : PgTty}
    (ht : { s.pgTty with input := t.input, cursor := t.cursor } = t) :
    showEntry (some v) (s.withTty t) = showEntry (some v) s := by
  simp only [showEntry, ne_eq, hv, not_false_eq_true, ↓reduceIte, withTty]
  rw [← ht]
  rfl

/-- UP steps the ring back and changes at most the line and its cursor. -/
theorem historyPrevious_eq (s : PgShell) : ∃ t,
    historyPrevious s = { s with history := s.history.getPrevious.1 }.withTty t ∧
      { s.pgTty with input := t.input, cursor := t.cursor } = t := by
  unfold historyPrevious showEntry
  dsimp only
  split
  · split
    · exact ⟨_, rfl, rfl⟩
    · exact ⟨s.pgTty, rfl, rfl⟩
  · exact ⟨s.pgTty, rfl, rfl⟩

/-- When a second step back reaches a line, UP after CTRL+G shows it as a second UP would. -/
theorem historyPrevious_ctrlG {s : PgShell} {v : JsString} (hv : v ≠ [])
    (hp : s.history.getPrevious.1.getPrevious.2 = some v) :
    historyPrevious ({ s with history := s.history.getPrevious.1 }.withTty (s.pgTty.setInput [])) =
      historyPrevious (historyPrevious s) := by
  obtain ⟨t, hy, ht⟩ := historyPrevious_eq s
  rw [hy]
  unfold historyPrevious
  dsimp only [withTty]
  rw [hp]
  exact (showEntry_withTty hv { s with history := s.history.getPrevious.1.getPrevious.1 } rfl).trans
    (showEntry_withTty hv { s with history := s.history.getPrevious.1.getPrevious.1 } ht).symm

end PgShell

/-- CTRL+G, a key the spec does not list, steps the history back without showing the line it
    reaches: from the bottom of a reachable history of two lines or more, CTRL+G then UP leaves
    the state that UP twice leaves, so the newest line is skipped. -/
theorem ctrlG_up_eq_up_up {P : Playground} {s : PgShell} (hr : Reachable P s)
    (ha : s.active = true) (env : Env) (hc : s.history.cursor = none)
    (hl : 2 ≤ s.history.entries.length) :
    s.run P ([js "\x07", js "\x1b[A"].map fun c => (env, .termData c)) =
      s.run P ([js "\x1b[A", js "\x1b[A"].map fun c => (env, .termData c)) := by
  have hm := hr.microtasks
  cases hd : PgShell.detectPromptPrefix env s with
  | none => rw [PgShell.run_typed_undetected ha hm hd, PgShell.run_typed_undetected ha hm hd]
  | some s₁ =>
    have hs₁ := PgShell.settled_of_detect hr.inv.activeCharPrompt hm hd
    have ha₁ : s₁.active = true := (PgShell.detectPromptPrefix_active hd).1.trans ha
    have hup : ∀ k, (List.replicate k (js "\x1b[A")).foldlM (fun s c => PgShell.handleData P env c s)
        s₁ = .ok (PgShell.historyPrevious^[k] s₁) := fun k =>
      PgShell.foldlM_replicate (fun _ h => PgShell.handleData_up h) PgShell.active_historyPrevious k ha₁
    obtain ⟨v, hv, hp⟩ := PgShellHistory.getPrevious_twice hr.inv.history hc hl
    have hg : [js "\x07", js "\x1b[A"].foldlM (fun s c => PgShell.handleData P env c s) s₁ =
        .ok s₁.historyPrevious.historyPrevious := by
      rw [List.foldlM_cons, PgShell.handleData_ctrlG ha₁,
        ← PgShell.historyPrevious_ctrlG hv ((PgShell.detectPromptPrefix_fields hd).1 ▸ hp)]
      exact PgShell.foldlM_replicate (fun _ h => PgShell.handleData_up h)
        PgShell.active_historyPrevious 1 ha₁
    obtain ⟨u, hu, hru, -⟩ := PgShell.run_typing (P := P) env hs₁ (l := [js "\x07", js "\x1b[A"])
      (by decide)
    obtain ⟨w, hw, hrw, -⟩ := PgShell.run_typing (P := P) env hs₁
      (l := [js "\x1b[A", js "\x1b[A"]) (by decide)
    rw [PgShell.run_typed_of_detect ha hd (by simp), PgShell.run_typed_of_detect ha hd (by simp),
      hru, hrw]
    exact (Except.ok.inj (hu.symm.trans hg)).trans (Except.ok.inj ((hup 2).symm.trans hw))

theorem ctrlG_up_eq_up_up_sample :
    (PgShell.session Playground.sample [.enable, .timer, .termData (js "ls"), .termData (js "\r"),
      .timer, .termData (js "cd"), .termData (js "\r"), .timer]).active = true ∧
    (PgShell.session Playground.sample [.enable, .timer, .termData (js "ls"), .termData (js "\r"),
      .timer, .termData (js "cd"), .termData (js "\r"), .timer]).history.cursor = none ∧
    2 ≤ (PgShell.session Playground.sample [.enable, .timer, .termData (js "ls"),
      .termData (js "\r"), .timer, .termData (js "cd"), .termData (js "\r"),
      .timer]).history.entries.length ∧
    (PgShell.session Playground.sample [.enable, .timer, .termData (js "ls"), .termData (js "\r"),
      .timer, .termData (js "cd"), .termData (js "\r"), .timer]).run Playground.sample
        ([js "\x07", js "\x1b[A"].map fun c => (Env.sample, .termData c)) =
    (PgShell.session Playground.sample [.enable, .timer, .termData (js "ls"), .termData (js "\r"),
      .timer, .termData (js "cd"), .termData (js "\r"), .timer]).run Playground.sample
        ([js "\x1b[A", js "\x1b[A"].map fun c => (Env.sample, .termData c)) :=
  ⟨by decide, by decide, by decide,
    ctrlG_up_eq_up_up (reachable_session _ _ _) (by decide) Env.sample (by decide) (by decide)⟩

/-! ## CTRL+C -/

/-- CTRL+C, the one chunk an inactive shell lets through, has no action: from every reachable
    state, active or not, it changes nothing but what the first-init block records the first time
    a chunk arrives, and nothing at all once that is done. -/
theorem ctrlC_inert {P : Playground} {s : PgShell} (hr : Reachable P s) (env : Env) :
    s.step P env (.termData ctrlC) = (PgShell.detectPromptPrefix env s).getD s ∧
      (s.pgTty.firstInit = false → s.step P env (.termData ctrlC) = s) := by
  have hm := hr.microtasks
  have hstep : s.step P env (.termData ctrlC) = (PgShell.detectPromptPrefix env s).getD s := by
    cases hd : PgShell.detectPromptPrefix env s with
    | none =>
      simp only [PgShell.step, PgShell.handleTermData, bne_self_eq_false, Bool.and_false,
        Bool.false_eq_true, ↓reduceIte, hd, finalState, PgShell.drain_of_nil hm, Option.getD_none]
    | some s₁ =>
      simp only [PgShell.step, PgShell.handleTermData, bne_self_eq_false, Bool.and_false,
        Bool.false_eq_true, ↓reduceIte, hd, (PgShell.detectPromptPrefix_active hd).2.1,
        hr.inv.activeCharPrompt, show isPaste ctrlC = false from rfl, PgShell.handleData_ctrlC,
        finalState, PgShell.drain_of_nil ((PgShell.detectPromptPrefix_fields hd).2.2.1.trans hm),
        Option.getD_some]
  refine ⟨hstep, fun hf => ?_⟩
  rw [hstep, PgShell.detectPromptPrefix_settled (by simp [hf]), Option.getD_some]

theorem ctrlC_inert_sample :
    (PgShell.session Playground.sample [.enable, .timer, .termData (js "ls"),
      .disable]).pgTty.firstInit = false ∧
    (PgShell.session Playground.sample [.enable, .timer, .termData (js "ls"), .disable]).step
        Playground.sample Env.sample (.termData ctrlC) =
      PgShell.session Playground.sample [.enable, .timer, .termData (js "ls"), .disable] :=
  ⟨by decide, (ctrlC_inert (reachable_session _ _ _) Env.sample).2 (by decide)⟩

end PlaygroundShell
