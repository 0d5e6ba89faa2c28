import PlaygroundShell.Submit

/-!
# Giving the prompt back

After a submitted line the shell is off (`handleReadComplete`, src/unnamed/part_004:161-178)
until something gives the prompt back: an `enable()` whose timer fires, `prompt()` itself (CLEAR),
or another component the line was handed to (a terminal state, a custom event, a package entry
point, `PgTerminal.runCmd`). The spec asks that every branch that does not re-enter the prompt by
itself call `enable()` exactly once (§4.5).

`_parseCommand` keeps this. No task ever schedules two `enable()` timers: `!!` recurses into one
branch only, a command whose wallet check fails calls `enable()` in place of its action, and a
paste of several lines stops at the first line that schedules one, since that line leaves the
shell off and an inactive shell drops the rest of the paste.

Results:
* `step_one_enable`: every task, from every state, schedules at most one `enable()` timer, and a
  chunk of input that schedules one leaves the shell off.
-/

namespace PlaygroundShell

namespace PgShell

variable {P : Playground} {env : Env}

/-! ## At most one `enable()` per task -/

theorem loadPkg_timers (pkg : PkgName) (cmd : JsString) (s : PgShell) :
    (loadPkg pkg cmd s).timers = s.timers := by
  unfold loadPkg
  dsimp only
  split <;> rfl

/-- The shell has `t` timers pending, or `t + 1` and is off. -/
def OneEnable (t : Nat) (s : PgShell) : Prop :=
  s.timers = t ∨ (s.timers = t + 1 ∧ s.active = false)

theorem OneEnable.le {t : Nat} {s : PgShell} (h : OneEnable t s) : s.timers ≤ t + 1 := by
  rcases h with h | ⟨h, -⟩ <;> omega

/-- `_parseCommand` on a shell that is off, as `handleReadComplete` leaves it, schedules at most
    one `enable()`, through `!!` as well. -/
theorem oneEnable_parseCommand (env : Env) (n : Nat) (cmd : JsString) {s : PgShell}
    (ha : s.active = false) : OneEnable s.timers (finalState (parseCommand P env n cmd s)) := by
  induction n generalizing cmd with
  | zero => exact .inl rfl
  | succ n ih =>
    cases hb : commandOf P (cmdNameOf cmd) with
    | none =>
      simp only [parseCommand, hb, finalState]
      exact .inr ⟨by split <;> rfl, by split <;> exact ha⟩
    | some b =>
      cases b
      case runLastCmd =>
        cases hl : s.history.getEntries.getLast? with
        | none =>
          simp only [parseCommand, hb, hl, finalState]
          exact .inr ⟨rfl, ha⟩
        | some e =>
          rw [parseCommand_runLastCmd hb hl]
          exact ih e
      case clear =>
        simp only [parseCommand, hb, finalState]
        exact .inl (prompt_timers env _)
      case help =>
        simp only [parseCommand, hb, finalState]
        exact .inr ⟨rfl, ha⟩
      case deploy =>
        simp only [parseCommand, hb, finalState]
        exact ifPgConnected_of (Q := OneEnable s.timers) (·.emit _) (.inl rfl) (.inr ⟨rfl, ha⟩)
      case solana | splToken =>
        simp only [parseCommand, hb, finalState]
        exact ifPgConnected_of _ (.inl (loadPkg_timers _ _ s)) (.inr ⟨rfl, ha⟩)
      all_goals
        simp only [parseCommand, hb, finalState]
        try split
      all_goals exact .inl rfl

theorem oneEnable_handleReadComplete (env : Env) (s : PgShell) :
    OneEnable s.timers (finalState (handleReadComplete P env false s)) := by
  have ht : (resolveActivePrompt s).timers = s.timers := by
    unfold resolveActivePrompt
    split <;> rfl
  unfold handleReadComplete
  simp only [Bool.false_eq_true, ↓reduceIte]
  rw [← ht]
  split
  · left
    unfold dispatchWaitForInput
    dsimp only
    split <;> rfl
  · exact oneEnable_parseCommand env _ _ rfl

theorem oneEnable_handleData (env : Env) (c : JsString) (s : PgShell) :
    OneEnable s.timers (finalState (handleData P env c s)) := by
  by_cases hc : c = js "\r"
  · subst hc
    unfold handleData
    split
    · exact .inl rfl
    · show OneEnable _ (finalState (handleControlKey P env .enter s))
      unfold handleControlKey
      dsimp only
      split
      · exact .inl rfl
      · exact oneEnable_handleReadComplete env s
  · obtain ⟨s', h, he⟩ : ∃ s', handleData P env c s = .ok s' ∧ EditsLine s s' :=
      editsLine_handleData hc s
    obtain ⟨t, c', o, rfl, -⟩ := he
    rw [h]
    exact .inl rfl

/-- A paste schedules at most one `enable()`: the line that schedules it leaves the shell off,
    and the shell then drops the rest. -/
theorem oneEnable_foldlM (env : Env) (l : List JsString) (s : PgShell) :
    OneEnable s.timers (finalState (l.foldlM (fun s c => handleData P env c s) s)) := by
  induction l generalizing s with
  | nil => exact .inl rfl
  | cons c l ih =>
    have h := oneEnable_handleData (P := P) env c s
    rw [List.foldlM_cons]
    cases hc : handleData P env c s with
    | error s' =>
      rw [hc] at h
      exact h
    | ok s' =>
      rw [hc] at h
      dsimp only [finalState] at h
      show OneEnable _ (finalState (l.foldlM _ s'))
      rcases h with h | ⟨h, ha⟩
      · exact h ▸ ih s'
      · rw [foldlM_handleData_inactive ha]
        exact .inr ⟨h, ha⟩

theorem oneEnable_handleTermData (env : Env) (d : JsString) (s : PgShell) :
    OneEnable s.timers (finalState (handleTermData P env d s)) := by
  unfold handleTermData
  split
  · exact .inl rfl
  · split
    · exact .inl rfl
    · rename_i s₁ hd
      rw [← (detectPromptPrefix_active hd).2.2]
      split
      · exact .inl rfl
      · split
        · exact oneEnable_foldlM env _ s₁
        · exact oneEnable_handleData env d s₁

theorem waitForUserInput_timers (msg : JsString) (fault : Option TtyFault) (s : PgShell) :
    (waitForUserInput P msg fault s).timers ≤ s.timers + 1 := by
  unfold waitForUserInput
  split
  · exact Nat.le_succ _
  · rcases fault with _ | _ | _
    · exact Nat.le_refl _
    · exact Nat.le_succ _
    · exact Nat.le_succ _

/-- Every task, from every state, schedules at most one `enable()` timer; a chunk of input that
    schedules one, a paste of several lines or a `!!` included, leaves the shell off. -/
theorem step_one_enable (s : PgShell) (env : Env) (e : Event) :
    (s.step P env e).timers ≤ s.timers + 1 ∧
      ∀ d, e = .termData d → OneEnable s.timers (s.step P env e) := by
  have hd := fun s => (drain_control s).2.1
  cases e with
  | termData d =>
    have h : OneEnable s.timers (s.step P env (.termData d)) := by
      rw [step, OneEnable, hd, (drain_control _).1]
      exact oneEnable_handleTermData env d s
    exact ⟨h.le, fun _ _ => h⟩
  | disable => exact ⟨(hd _).trans_le (Nat.le_succ _), fun _ h => nomatch h⟩
  | enable => exact ⟨(hd _).le, fun _ h => nomatch h⟩
  | timer =>
    refine ⟨?_, fun _ h => nomatch h⟩
    rw [step]
    split
    · exact Nat.le_succ _
    · rw [hd, (enableCallback_fields env _).2.2]
      exact Nat.le_succ_of_le (Nat.sub_le _ _)
  | waitForUserInput msg fault =>
    exact ⟨(hd _).trans_le (waitForUserInput_timers msg fault s), fun _ h => nomatch h⟩
  | runSugar cmd =>
    refine ⟨?_, fun _ h => nomatch h⟩
    rw [step, hd, runSugar]
    exact ifPgConnected_of (Q := fun s' => s'.timers ≤ s.timers + 1) _
      ((loadPkg_timers _ _ s).trans_le (Nat.le_succ _)) (Nat.le_refl _)

end PgShell

end PlaygroundShell
