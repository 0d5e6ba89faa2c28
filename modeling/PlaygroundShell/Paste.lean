import PlaygroundShell.Controller

/-!
# Pasting is typing

`handleTermData` (src/unnamed/part_004:215-221) takes a chunk of more than three units whose first
unit is not ESC for a paste: every run of CR and LF becomes one CR, and each code point goes to
`_handleData`, all inside one task. Typed, the same code points arrive as one chunk each, each in
a task of its own, with the microtask checkpoint between them.

The two agree. A code point other than CR only edits the line, the history cursor and the log
(`editsLine_handleData`): it leaves the prompt-prefix detection done, queues no microtask and
keeps the shell as active as it was, so the next piece meets the same shell either way. CR
submits the line, and `handleReadComplete` turns the shell off; an inactive shell drops every
later piece of the paste as it drops every later typed chunk. A paste of several lines therefore
runs its first line only.

Results:
* `paste_as_typing`: from every reachable active state, a paste with no line break does what
  typing its code points one by one does, and a paste whose first line, typed with its CR, leaves
  the shell off does what typing that line and the CR does: the rest of the paste is lost.
-/

namespace PlaygroundShell

/-- Every piece `Array.from` cuts is one unit or a surrogate pair. -/
theorem length_of_mem_codePointsFrom (pending : Option UInt16) (s : JsString) :
    ∀ c ∈ codePointsFrom pending s, c.length ≤ 2 := by
  induction pending, s using codePointsFrom.induct <;> simp_all [codePointsFrom]

/-- A text with no CR or LF comes through `replace(/[\r\n]+/g, "\r")` unchanged. -/
theorem collapseNewlinesFrom_of_no_crlf {d : JsString} (h : ∀ u ∈ d, isCrLf u = false)
    (inRun : Bool) : collapseNewlinesFrom inRun d = d := by
  induction d generalizing inRun with
  | nil => rfl
  | cons u rest ih =>
    simp only [List.mem_cons, forall_eq_or_imp] at h
    simp only [collapseNewlinesFrom, h.1, Bool.false_eq_true, ↓reduceIte, ih h.2]

namespace PgShell

variable {P : Playground} {env : Env}

/-! ## Editing the line -/

/-- `s'` differs from `s` only in the terminal's line, the history ring's traversal cursor and
    the effect log, and the terminal still knows whether it has handled data before. -/
def EditsLine (s s' : PgShell) : Prop :=
  ∃ t c o, s' = { s with pgTty := t, history := { s.history with cursor := c }, out := o } ∧
    t.firstInit = s.pgTty.firstInit

theorem EditsLine.refl (s : PgShell) : EditsLine s s :=
  ⟨s.pgTty, s.history.cursor, s.out, rfl, rfl⟩

theorem EditsLine.trans {s₁ s₂ s₃ : PgShell} (h₁₂ : EditsLine s₁ s₂) (h₂₃ : EditsLine s₂ s₃) :
    EditsLine s₁ s₃ := by
  obtain ⟨t₁, c₁, o₁, rfl, hf₁⟩ := h₁₂
  obtain ⟨t₂, c₂, o₂, rfl, hf₂⟩ := h₂₃
  exact ⟨t₂, c₂, o₂, rfl, hf₂.trans hf₁⟩

/-- Editing the line leaves the history ring's entries as they were. -/
theorem EditsLine.entries {s s' : PgShell} (h : EditsLine s s') :
    s'.history.entries = s.history.entries := by
  obtain ⟨t, c, o, rfl, -⟩ := h
  rfl

theorem editsLine_withTty (s : PgShell) {t : PgTty} (h : t.firstInit = s.pgTty.firstInit) :
    EditsLine s (s.withTty t) := ⟨t, s.history.cursor, s.out, rfl, h⟩

theorem editsLine_emit (s : PgShell) (e : Effect) : EditsLine s (s.emit e) :=
  ⟨s.pgTty, s.history.cursor, _, rfl, rfl⟩

theorem editsLine_history (s : PgShell) {h : PgShellHistory} (he : h.entries = s.history.entries)
    (hs : h.size = s.history.size) : EditsLine s { s with history := h } :=
  ⟨s.pgTty, h.cursor, s.out, by rw [PgShellHistory.with_cursor_eq he hs], rfl⟩

theorem editsLine_handleCursorMove (dir : Int) (s : PgShell) :
    EditsLine s (handleCursorMove dir s) := by
  unfold handleCursorMove
  split_ifs
  · exact editsLine_withTty s rfl
  · exact editsLine_withTty s rfl
  · exact .refl s

theorem editsLine_handleCursorInsert (data : JsString) (s : PgShell) :
    EditsLine s (handleCursorInsert data s) := editsLine_withTty s rfl

theorem editsLine_handleCursorErase (backspace : Bool) (s : PgShell) :
    EditsLine s (handleCursorErase backspace s) := by
  unfold handleCursorErase
  cases backspace <;> simp only [Bool.false_eq_true, ↓reduceIte]
  · exact editsLine_withTty s rfl
  · split
    · exact .refl s
    · exact (editsLine_emit s _).trans (editsLine_withTty _ rfl)

theorem editsLine_resume (s : PgShell) : EditsLine s (resume s) := editsLine_withTty s rfl

theorem editsLine_printAndRestartPrompt {callback : PgShell → PgShell × Bool}
    (h : ∀ s, EditsLine s (callback s).1) (s : PgShell) :
    EditsLine s (printAndRestartPrompt callback s) := by
  have h₀ := ((editsLine_withTty (t := s.pgTty.setCursor s.pgTty.input.length) s rfl).trans
    (editsLine_emit _ (.print (js "\r\n")))).trans (h _)
  unfold printAndRestartPrompt
  dsimp only
  split
  · exact h₀
  · exact h₀.trans (editsLine_resume _)

theorem editsLine_completeCandidates (candidates : List JsString) (hasTrailingSpace : Bool)
    (s : PgShell) : EditsLine s (completeCandidates candidates hasTrailingSpace s) := by
  unfold completeCandidates
  split
  · split
    · exact editsLine_handleCursorInsert _ s
    · exact .refl s
  · exact editsLine_withTty s rfl
  · split
    · exact editsLine_printAndRestartPrompt (fun _ => editsLine_emit _ _) s
    · exact editsLine_printAndRestartPrompt
        (fun s => ⟨(s.pgTty.readChar _ _).1, s.history.cursor, _, rfl, rfl⟩) s

theorem editsLine_tabComplete (s : PgShell) : EditsLine s (tabComplete P s) := by
  unfold tabComplete
  split
  · exact editsLine_completeCandidates _ _ s
  · exact editsLine_handleCursorInsert _ s

theorem editsLine_showEntry (value : Option JsString) (s : PgShell) :
    EditsLine s (showEntry value s) := by
  unfold showEntry
  split
  · split
    · exact editsLine_withTty s rfl
    · exact .refl s
  · exact .refl s

theorem editsLine_historyPrevious (s : PgShell) : EditsLine s (historyPrevious s) :=
  (editsLine_history s (PgShellHistory.getPrevious_entries _)
    (PgShellHistory.getPrevious_size _)).trans (editsLine_showEntry _ _)

theorem editsLine_historyNext (s : PgShell) : EditsLine s (historyNext s) :=
  (editsLine_history s (PgShellHistory.getNext_entries _)
    (PgShellHistory.getNext_size _)).trans (editsLine_withTty _ rfl)

theorem editsLine_handleEscapeKey (k : EscapeKey) (s : PgShell) :
    EditsLine s (handleEscapeKey k s) := by
  unfold handleEscapeKey
  cases k <;> dsimp only
  · exact editsLine_historyPrevious s
  · exact editsLine_historyNext s
  · exact editsLine_handleCursorMove _ s
  · exact editsLine_handleCursorMove _ s
  · exact editsLine_handleCursorErase _ s
  · exact editsLine_withTty s rfl
  · exact editsLine_withTty s rfl
  all_goals split
  all_goals first
    | exact .refl s
    | exact editsLine_withTty s rfl

/-- Every control key but ENTER returns, having edited the line. -/
theorem editsLine_handleControlKey {k : ControlKey} (hk : k ≠ .enter) (s : PgShell) :
    ∃ s', handleControlKey P env k s = .ok s' ∧ EditsLine s s' := by
  unfold handleControlKey
  cases k <;> dsimp only
  case enter => exact absurd rfl hk
  case backspace => exact ⟨_, rfl, editsLine_handleCursorErase true s⟩
  case tab => exact ⟨_, rfl, editsLine_tabComplete s⟩
  case ctrlB => exact ⟨_, rfl, editsLine_handleCursorMove (-1) s⟩
  case ctrlF => exact ⟨_, rfl, editsLine_handleCursorMove 1 s⟩
  case ctrlG => exact ⟨_, rfl, (editsLine_history s (PgShellHistory.getPrevious_entries _)
    (PgShellHistory.getPrevious_size _)).trans (editsLine_withTty _ rfl)⟩
  case ctrlN => exact ⟨_, rfl, editsLine_historyNext s⟩
  case ctrlP => exact ⟨_, rfl, editsLine_historyPrevious s⟩
  all_goals exact ⟨_, rfl, editsLine_withTty s rfl⟩

/-- Only CR selects ENTER. -/
theorem controlKey_enter {d : JsString} (h : controlKey d = some .enter) : d = js "\r" := by
  obtain ⟨⟨seq, k⟩, hf, hk⟩ := Option.map_eq_some'.mp h
  have hseq : seq = d := by simpa using List.find?_some hf
  have enter : ∀ e ∈ controlKeys, e.2 = .enter → e.1 = js "\r" := by decide
  exact hseq ▸ enter _ (List.mem_of_find?_eq_some hf) hk

/-- Every chunk but CR returns from `_handleData`, having edited the line. -/
theorem editsLine_handleData {c : JsString} (hc : c ≠ js "\r") (s : PgShell) :
    ∃ s', handleData P env c s = .ok s' ∧ EditsLine s s' := by
  unfold handleData
  split
  · exact ⟨s, rfl, .refl s⟩
  · split
    · exact ⟨_, rfl, editsLine_handleCursorInsert _ s⟩
    · split
      · cases escapeKey _
        · exact ⟨s, rfl, .refl s⟩
        · exact ⟨_, rfl, editsLine_handleEscapeKey _ s⟩
      · split
        · cases hk : controlKey _ with
          | none => exact ⟨s, rfl, .refl s⟩
          | some k =>
            exact editsLine_handleControlKey (fun he => hc (controlKey_enter (he ▸ hk))) s
        · exact ⟨_, rfl, editsLine_handleCursorInsert _ s⟩

/-! ## A settled shell -/

/-- A shell that treats a typed chunk as `_handleData` does: the prompt prefix needs no reading,
    no character read is pending, and no continuation is queued. -/
structure Settled (s : PgShell) : Prop where
  detected : (s.pgTty.firstInit && s.activePrompt.isSome) = false
  noCharPrompt : s.activeCharPrompt = none
  noMicrotask : s.microtasks = []

theorem Settled.of_editsLine {s s' : PgShell} (hs : s.Settled) (h : EditsLine s s') :
    s'.Settled := by
  obtain ⟨t, c, o, rfl, hf⟩ := h
  exact ⟨by rw [← hs.detected, ← hf], hs.noCharPrompt, hs.noMicrotask⟩

theorem drain_of_nil {s : PgShell} (h : s.microtasks = []) : drain s = s := by
  cases s
  subst h
  rfl

theorem detectPromptPrefix_settled {s : PgShell}
    (h : (s.pgTty.firstInit && s.activePrompt.isSome) = false) : detectPromptPrefix env s = some s := by
  unfold detectPromptPrefix
  rw [h]
  rfl

/-- After the first-init block, the prompt prefix needs no reading. -/
theorem detectPromptPrefix_done {s s' : PgShell} (h : detectPromptPrefix env s = some s') :
    (s'.pgTty.firstInit && s'.activePrompt.isSome) = false := by
  unfold detectPromptPrefix at h
  split at h
  · split at h
    · cases h
    · cases h; rfl
  · cases h; exact Bool.eq_false_iff.mpr ‹_›

theorem detectPromptPrefix_fields {s s' : PgShell} (h : detectPromptPrefix env s = some s') :
    s'.history = s.history ∧ s'.waitingForInput = s.waitingForInput ∧
      s'.microtasks = s.microtasks ∧ s'.activePrompt.isSome = s.activePrompt.isSome := by
  unfold detectPromptPrefix at h
  split at h
  · split at h
    · cases h
    · cases h; simp_all
  · cases h; exact ⟨rfl, rfl, rfl, rfl⟩

/-- Once the prompt prefix is read, the shell is settled. -/
theorem settled_of_detect {s s' : PgShell} (hc : s.activeCharPrompt = none) (hm : s.microtasks = [])
    (h : detectPromptPrefix env s = some s') : s'.Settled :=
  ⟨detectPromptPrefix_done h, (detectPromptPrefix_active h).2.1.trans hc,
    (detectPromptPrefix_fields h).2.2.1.trans hm⟩

/-- Reading the prompt prefix first changes nothing about an active shell's next chunk. -/
theorem handleTermData_of_detect {s s' : PgShell} (ha : s.active = true)
    (h : detectPromptPrefix env s = some s') (d : JsString) :
    handleTermData P env d s = handleTermData P env d s' := by
  have ha' : s'.active = true := (detectPromptPrefix_active h).1.trans ha
  unfold handleTermData
  simp only [ha, ha', Bool.not_true, Bool.false_and, Bool.false_eq_true, ↓reduceIte, h,
    detectPromptPrefix_settled (detectPromptPrefix_done h)]

/-- With no buffer line to read the prompt prefix from, an active shell drops the chunk. -/
theorem step_undetected {s : PgShell} (ha : s.active = true) (hm : s.microtasks = [])
    (h : detectPromptPrefix env s = none) (d : JsString) : s.step P env (.termData d) = s := by
  simp only [step, handleTermData, ha, Bool.not_true, Bool.false_and, Bool.false_eq_true,
    ↓reduceIte, h, finalState, drain_of_nil hm]

/-- A settled shell hands a chunk that is no paste straight to `_handleData`. -/
theorem handleTermData_settled {s : PgShell} (hs : s.Settled) {d : JsString}
    (hp : isPaste d = false) : handleTermData P env d s = handleData P env d s := by
  unfold handleTermData
  split
  · rename_i hg
    unfold handleData
    rw [if_pos hg]
  · simp only [detectPromptPrefix_settled hs.detected, hs.noCharPrompt, hp, Bool.false_eq_true,
      ↓reduceIte]

/-! ## Runs of typed chunks -/

theorem run_cons (s : PgShell) (t : Env × Event) (tasks : List (Env × Event)) :
    s.run P (t :: tasks) = (s.step P t.1 t.2).run P tasks := rfl

theorem run_append (s : PgShell) (tasks tasks' : List (Env × Event)) :
    s.run P (tasks ++ tasks') = (s.run P tasks).run P tasks' := List.foldl_append _ _ _ _

theorem step_microtasks {s : PgShell} (hs : s.microtasks = []) (env : Env) (e : Event) :
    (s.step P env e).microtasks = [] := by
  have hd : ∀ s, (drain s).microtasks = [] := fun s => by
    obtain ⟨h, t, o, hd⟩ := drain_fields s
    rw [hd]
  cases e <;> simp only [step] <;> try exact hd _
  split
  · exact hs
  · exact hd _

end PgShell

/-- No continuation is left queued between tasks. -/
theorem Reachable.microtasks {P : Playground} {s : PgShell} (hr : Reachable P s) :
    s.microtasks = [] := by
  induction hr with
  | new options => rfl
  | step env e _ ih => exact PgShell.step_microtasks ih env e

namespace PgShell

variable {P : Playground} {env : Env}

/-- Typing pieces that are no paste and no CR, one task each, from a settled shell: the same as
    `_handleData` on each in turn, and the line is all that changes. -/
theorem run_typing (env : Env) {u : PgShell} (hu : u.Settled) {l : List JsString}
    (hl : ∀ c ∈ l, c ≠ js "\r" ∧ isPaste c = false) :
    ∃ u', l.foldlM (fun s c => handleData P env c s) u = .ok u' ∧
      u.run P (l.map fun c => (env, .termData c)) = u' ∧ EditsLine u u' := by
  induction l generalizing u with
  | nil => exact ⟨u, rfl, rfl, .refl u⟩
  | cons c l ih =>
    have hc := hl c (List.mem_cons_self _ _)
    obtain ⟨u₁, h₁, he₁⟩ : ∃ u₁, handleData P env c u = .ok u₁ ∧ EditsLine u u₁ :=
      editsLine_handleData hc.1 u
    have hu₁ := hu.of_editsLine he₁
    obtain ⟨u', h', hr', he'⟩ := ih hu₁ fun c' hc' => hl c' (List.mem_cons_of_mem _ hc')
    have hstep : u.step P env (.termData c) = u₁ := by
      simp only [step, handleTermData_settled hu hc.2, h₁, finalState, drain_of_nil hu₁.noMicrotask]
    refine ⟨u', ?_, ?_, he₁.trans he'⟩
    · rw [List.foldlM_cons, h₁]
      exact h'
    · rw [List.map_cons, run_cons, hstep, hr']

/-- Before the prompt prefix is read, the first typed chunk reads it as the paste would. -/
theorem run_typed_of_detect {s s' : PgShell} (ha : s.active = true)
    (h : detectPromptPrefix env s = some s') {l : List JsString} (hl : l ≠ []) :
    s.run P (l.map fun c => (env, .termData c)) = s'.run P (l.map fun c => (env, .termData c)) := by
  obtain ⟨c, l, rfl⟩ := List.exists_cons_of_ne_nil hl
  simp only [List.map_cons, run_cons, step, handleTermData_of_detect ha h]

/-- When the xterm buffer has no line for the cursor, every chunk is dropped. -/
theorem run_typed_undetected {s : PgShell} (ha : s.active = true) (hm : s.microtasks = [])
    (h : detectPromptPrefix env s = none) (l : List JsString) :
    s.run P (l.map fun c => (env, .termData c)) = s := by
  induction l with
  | nil => rfl
  | cons c l ih => rw [List.map_cons, run_cons, step_undetected ha hm h, ih]

/-! ## The paste -/

theorem isPaste_of_mem_codePoints {d c : JsString} (h : c ∈ codePoints d) : isPaste c = false := by
  have := length_of_mem_codePointsFrom none d c h
  simp only [isPaste, Bool.and_eq_false_iff, decide_eq_false_iff_not]
  omega

/-- A paste has pieces. -/
theorem codePoints_ne_nil {d : JsString} (hp : isPaste d = true) : codePoints d ≠ [] := by
  intro h
  have hj := codePoints_join d
  rw [h] at hj
  rw [← hj] at hp
  exact absurd hp (by decide)

/-- The pieces of a text with no line break are neither CR nor pastes. -/
theorem pieces_of_no_crlf {d : JsString} (hn : ∀ u ∈ d, isCrLf u = false) :
    ∀ c ∈ codePoints d, c ≠ js "\r" ∧ isPaste c = false := fun c hc =>
  ⟨fun hcr => by
    have hd : (0x0D : UInt16) ∈ d :=
      codePoints_join d ▸ List.mem_flatten.mpr ⟨c, hc, hcr ▸ List.mem_singleton_self _⟩
    exact absurd (hn _ hd) (by decide),
  isPaste_of_mem_codePoints hc⟩

/-- From every reachable active state, a pasted chunk with no line break does what typing its code
    points does, one task each; and a pasted chunk whose first line, typed with the CR that ends
    it, leaves the shell inactive does what typing that line and the CR does: the paste's later
    lines are dropped. -/
theorem paste_as_typing {s : PgShell} (hr : Reachable P s) (ha : s.active = true) (env : Env)
    {d : JsString} (hp : isPaste d = true) :
    ((∀ u ∈ d, isCrLf u = false) →
      s.step P env (.termData d) = s.run P ((codePoints d).map fun c => (env, .termData c))) ∧
    (∀ l q, codePoints (collapseNewlines d) = l ++ js "\r" :: q → js "\r" ∉ l →
      (s.run P ((l ++ [js "\r"]).map fun c => (env, .termData c))).active = false →
      s.step P env (.termData d) = s.run P ((l ++ [js "\r"]).map fun c => (env, .termData c))) := by
  have hc := hr.inv.activeCharPrompt
  have hm := hr.microtasks
  cases hd : detectPromptPrefix env s with
  | none =>
    exact ⟨fun _ => by rw [step_undetected ha hm hd, run_typed_undetected ha hm hd],
      fun _ _ _ _ _ => by rw [step_undetected ha hm hd, run_typed_undetected ha hm hd]⟩
  | some s₁ =>
    have hs₁ := settled_of_detect hc hm hd
    have hpaste : s.step P env (.termData d) = drain (finalState
        ((codePoints (collapseNewlines d)).foldlM (fun s c => handleData P env c s) s₁)) := by
      simp only [step, handleTermData, ha, Bool.not_true, Bool.false_and, Bool.false_eq_true,
        ↓reduceIte, hd, (detectPromptPrefix_active hd).2.1, hc, hp]
    refine ⟨fun hn => ?_, fun l q hpieces hl hoff => ?_⟩
    · obtain ⟨u, hu, hrun, he⟩ := run_typing (P := P) env hs₁ (pieces_of_no_crlf hn)
      rw [hpaste, collapseNewlines, collapseNewlinesFrom_of_no_crlf hn, hu, finalState,
        drain_of_nil (hs₁.of_editsLine he).noMicrotask,
        run_typed_of_detect ha hd (by simpa using codePoints_ne_nil hp), hrun]
    · have hlp : ∀ c ∈ l, c ≠ js "\r" ∧ isPaste c = false := fun c hcl =>
        ⟨fun h => hl (h ▸ hcl),
          isPaste_of_mem_codePoints (by rw [hpieces]; exact List.mem_append_left _ hcl)⟩
      obtain ⟨u, hu, hrun, he⟩ := run_typing (P := P) env hs₁ hlp
      have htyped : s.run P ((l ++ [js "\r"]).map fun c => (env, .termData c)) =
          drain (finalState (handleData P env (js "\r") u)) := by
        rw [run_typed_of_detect ha hd (by simp), List.map_append, run_append, hrun]
        simp only [List.map_cons, List.map_nil, run_cons, step,
          handleTermData_settled (hs₁.of_editsLine he) (show isPaste (js "\r") = false from rfl)]
        rfl
      rw [htyped] at hoff ⊢
      rw [hpaste, hpieces, List.foldlM_append, hu]
      show drain (finalState ((js "\r" :: q).foldlM (fun s c => handleData P env c s) u)) = _
      rw [List.foldlM_cons]
      cases h : handleData P env (js "\r") u with
      | error v => rfl
      | ok v =>
        have hv : v.active = false := by
          rw [h] at hoff
          exact (drain_control v).1.symm.trans hoff
        show drain (finalState (q.foldlM (fun s c => handleData P env c s) v)) = _
        rw [foldlM_handleData_inactive hv]

/-- `ls -la` pasted is `ls -la` typed; `help`, CR, `ls` pasted runs `help` and loses `ls`. -/
theorem paste_as_typing_sample :
    (session Playground.sample [.enable, .timer]).step Playground.sample Env.sample
        (.termData (js "ls -la")) =
      (session Playground.sample [.enable, .timer]).run Playground.sample
        ([js "l", js "s", js " ", js "-", js "l", js "a"].map fun c => (Env.sample, .termData c)) ∧
    (session Playground.sample [.enable, .timer]).step Playground.sample Env.sample
        (.termData (js "help\rls")) =
      (session Playground.sample [.enable, .timer]).run Playground.sample
        ([js "h", js "e", js "l", js "p", js "\r"].map fun c => (Env.sample, .termData c)) :=
  ⟨(paste_as_typing (reachable_session _ _ _) (by decide) Env.sample (by decide)).1 (by decide),
    (paste_as_typing (reachable_session _ _ _) (by decide) Env.sample (by decide)).2
      [js "h", js "e", js "l", js "p"] [js "l", js "s"] (by decide) (by decide) (by decide)⟩

end PgShell

end PlaygroundShell
