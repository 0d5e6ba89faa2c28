import PlaygroundShell.Invariants

/-!
# Command dispatch

`_parseCommand` (src/unnamed/part_004:548-691) takes the command name from `cmd.trim().split(" ")`,
so only a space ends it: a tab after the name makes the whole word the name. The RUN and TEST
body then reads the untrimmed `cmd` again, through `cmd.startsWith(PgCommand.TEST)` and
`/^\w+\s?(.*)/`. On a line with no whitespace at either end both agree with the name.

SOLANA, SPL_TOKEN and the SUGAR callback mark their package in `_loadedPkgs` before the load
request, and ask for logging only when it was not marked (part_004:626-681). With no wallet
connected, DEPLOY, SOLANA, SPL_TOKEN and SUGAR skip their action, and `checkIsPgConnected`
releases the prompt as the spec has a failed precondition do (§4.5, §7).

`!!` runs the newest history entry through `_parseCommand` again. That entry is pushed by
`prompt()`, which records every submitted line, `!!` included: once `!!` is the newest entry,
`!!` calls itself until the stack runs out.

Results:
* `parseCommand_clientRun`: on a line equal to its own `trim`, the CLIENT_RUN event says whether
  the name is TEST and carries the rest of the line after the name and its space.
* `runLastCmd_twice`: `!!` submitted twice throws, however deep the stack.
* `loadPkg_logs_once`: a package asks for logging on its first load only, whatever runs between.
-/

namespace PlaygroundShell

/-- A name `/^\w+/` matches whole: non-empty, and made of `\w` units only. -/
def IsWord (w : JsString) : Prop := w ≠ [] ∧ ∀ u ∈ w, isWordChar u = true

instance : DecidablePred IsWord := fun _ => inferInstanceAs (Decidable (_ ∧ _))

/-! ## The command name -/

theorem mem_commandLabels {P : Playground} {cmdName : JsString} {b : Branch}
    (h : commandOf P cmdName = some b) : (cmdName, b) ∈ commandLabels P := by
  obtain ⟨⟨l, b⟩, hf, rfl⟩ := Option.map_eq_some'.mp h
  have hl : l = cmdName := by simpa using List.find?_some hf
  exact hl ▸ List.mem_of_find?_eq_some hf

theorem eq_of_commandOf_runOrTest {P : Playground} {cmdName : JsString}
    (h : commandOf P cmdName = some .runOrTest) : cmdName = P.run ∨ cmdName = P.test := by
  simpa [commandLabels] using mem_commandLabels h

/-- The first token is followed by nothing, or by a space. -/
theorem firstToken_split (L : JsString) :
    ∃ r, L = firstToken L ++ r ∧ (r = [] ∨ ∃ r', r = 0x20 :: r') := by
  refine ⟨L.dropWhile (· != 0x20), (List.takeWhile_append_dropWhile _ _).symm, ?_⟩
  have h := List.head?_dropWhile_not (· != (0x20 : UInt16)) L
  revert h
  cases L.dropWhile (· != 0x20) with
  | nil => exact fun _ => .inl rfl
  | cons u r => simp

/-! ## The RUN and TEST payload -/

/-- `/^\w+\s?(.*)/` on a word, then nothing or a space and a rest with no line terminator: group
    1 is that rest. -/
theorem runPathMatch_word {t r : JsString} (ht : IsWord t) (hr : r = [] ∨ ∃ r', r = 0x20 :: r')
    (hlt : ∀ u ∈ r, isLineTerminator u = false) : runPathMatch (t ++ r) = some (r.drop 1) := by
  rcases hr with rfl | ⟨r', rfl⟩
  · simp [runPathMatch, ht.1, List.takeWhile_eq_self_iff.mpr ht.2]
  · have hr' : ∀ u ∈ r', isLineTerminator u = false := fun u hu => hlt u (List.mem_cons_of_mem _ hu)
    simpa [runPathMatch, ht.1, List.takeWhile_append_of_pos ht.2, isWordChar, isWhitespace,
      List.takeWhile_eq_self_iff] using hr'

/-- `cmd.startsWith(PgCommand.TEST)` on a line made of RUN or TEST and then nothing or a space:
    true exactly when the name is TEST. -/
theorem startsWith_test {P : Playground} (htest : IsWord P.test) (hpre : ¬P.test <+: P.run)
    {t r : JsString} (ht : t = P.run ∨ t = P.test) (hr : r = [] ∨ ∃ r', r = 0x20 :: r') :
    startsWith (t ++ r) P.test = decide (t = P.test) := by
  by_cases h : t = P.test
  · subst h
    simp [startsWith]
  · obtain rfl := ht.resolve_right h
    rw [decide_eq_false h, startsWith, Bool.eq_false_iff]
    intro hp
    rw [List.isPrefixOf_iff_prefix] at hp
    rcases List.prefix_or_prefix_of_prefix hp (List.prefix_append P.run r) with h₁ | ⟨v, hv⟩
    · exact hpre h₁
    · rw [← hv, List.prefix_append_right_inj] at hp
      cases v with
      | nil => exact h (by simpa using hv)
      | cons u v =>
        have hu : isWordChar u = true := htest.2 u (hv ▸ by simp)
        rcases hr with rfl | ⟨r', rfl⟩
        · exact absurd hp.length_le (by simp)
        · rw [(List.cons_prefix_cons.mp hp).1] at hu
          exact absurd hu (by decide)

namespace PgShell

variable {P : Playground}

/-- On a line with no whitespace at either end and no line terminator, whose first
    space-separated token selects RUN or TEST, the CLIENT_RUN event says whether that token is
    TEST and carries what follows the token and its space. -/
theorem parseCommand_clientRun (hrun : IsWord P.run) (htest : IsWord P.test)
    (hpre : ¬P.test <+: P.run) {L : JsString} (hL : trim L = L)
    (hlt : ∀ u ∈ L, isLineTerminator u = false) (hb : commandOf P (cmdNameOf L) = some .runOrTest)
    (env : Env) (n : Nat) (s : PgShell) :
    parseCommand P env (n + 1) L s = .ok (s.emit (.dispatch (.clientRun
      (decide (cmdNameOf L = P.test)) (some (L.drop ((cmdNameOf L).length + 1)))))) := by
  have hname : cmdNameOf L = firstToken L := by rw [cmdNameOf, hL]
  obtain ⟨r, hsplit, hr⟩ := firstToken_split L
  have ht := eq_of_commandOf_runOrTest hb
  have htw : IsWord (cmdNameOf L) := ht.elim (· ▸ hrun) (· ▸ htest)
  have hrl : ∀ u ∈ r, isLineTerminator u = false :=
    fun u hu => hlt u (hsplit ▸ List.mem_append_right _ hu)
  rw [← hname] at hsplit
  simp only [parseCommand, hb]
  generalize cmdNameOf L = t at hsplit ht htw ⊢
  subst hsplit
  rw [runPathMatch_word htw hr hrl, startsWith_test htest hpre ht hr]
  simp

theorem parseCommand_clientRun_sample :
    parseCommand Playground.sample Env.sample 1 (js "test foo") (session Playground.sample []) =
      .ok ((session Playground.sample []).emit (.dispatch (.clientRun true (some (js "foo"))))) :=
  parseCommand_clientRun (by decide) (by decide) (by decide) (by decide) (by decide) (by decide)
    Env.sample 0 _

/-- A tab does not end the name, and the payload is read off the untrimmed line: `test\tfoo` is
    not found, and ` test foo` runs with `isTest` false and no path where `test foo` runs the test
    `foo`. -/
theorem clientRun_untrimmed :
    cmdNameOf (js "test\tfoo") = js "test\tfoo" ∧
    parseCommand Playground.sample Env.sample 1 (js "test\tfoo") (session Playground.sample []) =
      .ok (((session Playground.sample []).emit
        (.println (notFoundText Playground.sample (js "test\tfoo")))).enable) ∧
    parseCommand Playground.sample Env.sample 1 (js " test foo") (session Playground.sample []) =
      .ok ((session Playground.sample []).emit (.dispatch (.clientRun false none))) ∧
    parseCommand Playground.sample Env.sample 1 (js "test foo") (session Playground.sample []) =
      .ok ((session Playground.sample []).emit (.dispatch (.clientRun true (some (js "foo"))))) :=
  ⟨by decide, rfl, rfl, rfl⟩

/-! ## Submission -/

/-- ENTER on a complete line, once the prompt prefix has been read off the buffer, submits it. -/
theorem handleTermData_enter {env : Env} {s : PgShell} (ha : s.active = true)
    (hc : s.activeCharPrompt = none) (hf : s.pgTty.firstInit = false)
    (hi : P.isIncompleteInput s.pgTty.input = false) :
    handleTermData P env (js "\r") s = handleReadComplete P env false s := by
  simp only [handleTermData, detectPromptPrefix, ha, hc, hf, Bool.not_true, Bool.false_and,
    Bool.false_eq_true, ↓reduceIte]
  show handleData P env (js "\r") s = _
  unfold handleData
  rw [ha]
  show handleControlKey P env .enter s = _
  simp only [handleControlKey, hi, Bool.false_eq_true, ↓reduceIte]

/-- A submission while no wait is pending goes to `_parseCommand` with the whole stack left. -/
theorem handleReadComplete_parse {env : Env} {s : PgShell} (hw : s.waitingForInput = false)
    (clearCmd : Bool) :
    handleReadComplete P env clearCmd s = parseCommand P env env.stackDepth s.pgTty.input
      { (if clearCmd then (resolveActivePrompt s).emit .clearLine
          else (resolveActivePrompt s).emit (.print (js "\r\n"))) with active := false } := by
  have : (resolveActivePrompt s).waitingForInput = s.waitingForInput := by
    unfold resolveActivePrompt; split <;> rfl
  unfold handleReadComplete
  cases clearCmd <;> simp [emit, this, hw]

/-! ## `!!` -/

theorem cmdNameOf_runLastCmd : cmdNameOf PgCommand.runLastCmd = PgCommand.runLastCmd := by decide

/-- Once `!!` is the newest history entry, `!!` calls itself until the stack runs out, with the
    state unchanged. -/
theorem parseCommand_runLastCmd_loop {env : Env}
    (hc : commandOf P PgCommand.runLastCmd = some .runLastCmd) {s : PgShell}
    (hl : s.history.getEntries.getLast? = some PgCommand.runLastCmd) (n : Nat) :
    parseCommand P env n PgCommand.runLastCmd s = .error s := by
  induction n with
  | zero => rfl
  | succ n ih => simp only [parseCommand, cmdNameOf_runLastCmd, hc, hl, ih]

/-- `!!` submitted twice on a fresh shell: the first prints `No previous command.` and is
    recorded; the second throws, whatever the depth of the stack. -/
theorem runLastCmd_twice (depth : Nat) :
    (session Playground.sample [.enable, .timer, .termData (js "!!"), .termData (js "\r"), .timer,
      .termData (js "!!")]).history.getEntries = [js "!!"] ∧
    ∃ s, handleTermData Playground.sample { Env.sample with stackDepth := depth } (js "\r")
      (session Playground.sample [.enable, .timer, .termData (js "!!"), .termData (js "\r"), .timer,
        .termData (js "!!")]) = .error s := by
  have hi : (session Playground.sample [.enable, .timer, .termData (js "!!"), .termData (js "\r"),
      .timer, .termData (js "!!")]).pgTty.input = PgCommand.runLastCmd := by decide
  refine ⟨by decide, ?_⟩
  rw [handleTermData_enter (by decide) (by decide) (by decide) (by decide),
    handleReadComplete_parse (by decide), hi, parseCommand_runLastCmd_loop (by decide) (by decide)]
  exact ⟨_, rfl⟩

/-! ## Packages -/

theorem loadPkg_out (pkg : PkgName) (cmd : JsString) (s : PgShell) :
    (loadPkg pkg cmd s).out = s.out ++ [.loadPkg pkg (decide (pkg ∉ s.loadedPkgs)) cmd] := by
  unfold loadPkg
  dsimp only
  split <;> simp [emit]

theorem mem_loadPkg (pkg : PkgName) (cmd : JsString) (s : PgShell) :
    pkg ∈ (loadPkg pkg cmd s).loadedPkgs := by
  unfold loadPkg
  dsimp only
  split
  · exact List.mem_cons_self _ _
  · rename_i h
    simpa [emit] using h

theorem step_loaded (env : Env) {s : PgShell} (e : Event) {pkg : PkgName}
    (h : pkg ∈ s.loadedPkgs) : pkg ∈ (s.step P env e).loadedPkgs := by
  cases e with
  | termData d => exact (frame_drain _).loaded _ ((frame_handleTermData d s).loaded _ h)
  | disable => exact (frame_drain _).loaded _ h
  | enable => exact (frame_drain _).loaded _ h
  | timer =>
    show pkg ∈ (if s.timers = 0 then s else _).loadedPkgs
    split
    · exact h
    · refine (frame_drain _).loaded _ ?_
      unfold enableCallback decrementProcessCount
      dsimp only
      split_ifs <;> first
        | exact h
        | exact (frame_prompt _).loaded _ h
  | waitForUserInput msg fault =>
    refine (frame_drain _).loaded _ ?_
    unfold waitForUserInput
    split
    · exact h
    · rcases fault with _ | _ | _ <;> exact h
  | runSugar cmd => exact (frame_drain _).loaded _ ((frame_runSugar cmd s).loaded _ h)

/-- A package is loaded with logging only the first time: a load request logs exactly when the
    package is not marked loaded yet, and every later request for it, after any tasks in any
    order, asks for no logging. -/
theorem loadPkg_logs_once (pkg : PkgName) (cmd cmd' : JsString) (s : PgShell)
    (tasks : List (Env × Event)) :
    (loadPkg pkg cmd s).out.getLast? = some (.loadPkg pkg (decide (pkg ∉ s.loadedPkgs)) cmd) ∧
    (loadPkg pkg cmd' (run P (loadPkg pkg cmd s) tasks)).out.getLast? =
      some (.loadPkg pkg false cmd') := by
  have hrun : ∀ (tasks : List (Env × Event)) (s : PgShell), pkg ∈ s.loadedPkgs →
      pkg ∈ (run P s tasks).loadedPkgs := by
    intro tasks
    induction tasks with
    | nil => exact fun _ h => h
    | cons t tasks ih => exact fun s h => ih _ (step_loaded t.1 t.2 h)
  refine ⟨by simp [loadPkg_out], ?_⟩
  simp [loadPkg_out, hrun tasks _ (mem_loadPkg pkg cmd s)]

end PgShell

end PlaygroundShell
