import PlaygroundShell.Shell.Command

/-!
# Terminal input, submission and the event loop

`handleTermData` (src/unnamed/part_004:183-222) receives each chunk xterm delivers; a chunk that
looks pasted is cut into code points, and each piece goes to `_handleData` (part_004:311-526),
which decodes escape sequences and control characters. ENTER on a complete line calls
`handleReadComplete` (part_004:161-178), which hands the line to `_parseCommand` or to a pending
`waitForUserInput` (part_004:230-258).

The escape sequences and control characters `_handleData` knows are the `case` labels of its two
`switch` statements; `escapeKey` and `controlKey` read a sequence into the key it selects.

A `step` is one task of the event loop: an input chunk, an outside call of `disable`, `enable` or
`waitForUserInput`, a timer, or `PgTerminal.runCmd` running the SUGAR callback; then the
microtasks it queued run, as the browser runs them before the next task. `Reachable` is every
state a page reaches from a fresh shell on a fresh terminal.
-/

namespace PlaygroundShell

/-! ## Keys -/

/-- The `case` labels of the escape-sequence `switch` (part_004:322-391). -/
inductive EscapeKey
  | up
  | down
  | left
  | right
  | delete
  | end_
  | home
  | altLeft
  | altRight
  | ctrlBackspace
  deriving DecidableEq, Repr

/-- The labels of that `switch` in order, with the key each selects. -/
def escapeKeys : List (JsString × EscapeKey) :=
  [(js "[A", .up), (js "[B", .down), (js "[D", .left), (js "[C", .right), (js "[3~", .delete),
    (js "[F", .end_), (js "[H", .home), (js "b", .altLeft), (js "f", .altRight),
    (js "\x7F", .ctrlBackspace)]

/-- `switch (data.substring(1))` after an ESC: the first label equal to the sequence. -/
def escapeKey (seq : JsString) : Option EscapeKey :=
  (escapeKeys.find? fun e => e.1 = seq).map Prod.snd

/-- The `case` labels of the control-character `switch` (part_004:395-520); BACKSPACE, CTRL+H
    and CTRL+D share a body. -/
inductive ControlKey
  | enter
  | backspace
  | tab
  | ctrlA
  | ctrlB
  | ctrlE
  | ctrlF
  | ctrlG
  | ctrlK
  | ctrlN
  | ctrlP
  | ctrlU
  deriving DecidableEq, Repr

/-- The labels of that `switch` in order, with the key each selects. -/
def controlKeys : List (JsString × ControlKey) :=
  [(js "\r", .enter), (js "\x7F", .backspace), (js "\x08", .backspace), (js "\x04", .backspace),
    (js "\t", .tab), (js "\x01", .ctrlA), (js "\x02", .ctrlB), (js "\x05", .ctrlE),
    (js "\x06", .ctrlF), (js "\x07", .ctrlG), (js "\x0b", .ctrlK), (js "\x0e", .ctrlN),
    (js "\x10", .ctrlP), (js "\x15", .ctrlU)]

/-- `switch (data)` for a control character: the first label equal to it. -/
def controlKey (data : JsString) : Option ControlKey :=
  (controlKeys.find? fun e => e.1 = data).map Prod.snd

/-- CTRL+C, the one chunk an inactive shell lets through. -/
def ctrlC : JsString := js "\x03"

/-- `data.length > 3 && data.charCodeAt(0) !== 0x1b` (part_004:216). -/
def isPaste (data : JsString) : Bool := 3 < data.length && data.head? != some 0x1b

namespace PgShell

/-! ## Line editing -/

/-- A history entry is shown only if it is a non-empty string (`if (value)`). -/
def showEntry (value : Option JsString) (s : PgShell) : PgShell :=
  match value with
  | some v => if v ≠ [] then s.withTty ((s.pgTty.setInput v).setCursor v.length) else s
  | none => s

/-- Up arrow and CTRL+P (part_004:323-331, 504-512). -/
def historyPrevious (s : PgShell) : PgShell :=
  let r := s.history.getPrevious
  showEntry r.2 { s with history := r.1 }

/-- Down arrow and CTRL+N (part_004:333-340, 495-502): no entry shows an empty line. -/
def historyNext (s : PgShell) : PgShell :=
  let r := s.history.getNext
  let value := r.2.getD []
  { s with history := r.1 }.withTty ((s.pgTty.setInput value).setCursor value.length)

/-- The body of each escape-sequence `case` (part_004:323-390). -/
def handleEscapeKey (k : EscapeKey) (s : PgShell) : PgShell :=
  let t := s.pgTty
  match k with
  | .up => historyPrevious s
  | .down => historyNext s
  | .left => handleCursorMove (-1) s
  | .right => handleCursorMove 1 s
  | .delete => handleCursorErase false s
  | .end_ => s.withTty (t.setCursor t.input.length)
  | .home => s.withTty (t.setCursor 0)
  | .altLeft =>
    let ofs := closestLeftBoundary t.input t.cursor
    if ofs ≠ 0 then s.withTty (t.setCursor ofs) else s
  | .altRight =>
    let ofs := closestRightBoundary t.input t.cursor
    if ofs ≠ 0 then s.withTty (t.setCursor ofs) else s
  | .ctrlBackspace =>
    let ofs := closestLeftBoundary t.input t.cursor
    if ofs ≠ 0 then
      let t := t.setInput (t.input.take ofs ++ t.input.drop t.cursor)
      s.withTty (t.setCursor ofs)
    else s

/-- The four outcomes of TAB once the candidates are sorted (part_004:426-458): a space when
    there is none and no candidate, the one candidate as the whole line, the list, or a question
    first when the list is longer than `_maxAutocompleteEntries`. -/
def completeCandidates (candidates : List JsString) (hasTrailingSpace : Bool) (s : PgShell) :
    PgShell :=
  match candidates with
  | [] => if !hasTrailingSpace then handleCursorInsert (js " ") s else s
  | [c] => s.withTty ((s.pgTty.setInput c).setCursor c.length)
  | _ =>
    if candidates.length ≤ s.maxAutocompleteEntries then
      printAndRestartPrompt (fun s => (s.emit (.printWide candidates), false)) s
    else
      printAndRestartPrompt (fun s =>
        let msg := js "Display all " ++ jsNat candidates.length ++ js " possibilities? (y or n)"
        ((s.withTty (s.pgTty.readChar msg candidates).1).emit (.readChar msg), true)) s

/-- TAB (part_004:410-462). -/
def tabComplete (P : Playground) (s : PgShell) : PgShell :=
  if 0 < (autocompleteHandlers s).length then
    let inputFragment := s.pgTty.input.take s.pgTty.cursor
    let hasTrailingSpace := P.hasTrailingWhitespace inputFragment
    let candidates :=
      jsSort (P.collectAutocompleteCandidates (autocompleteHandlers s) inputFragment)
    completeCandidates candidates hasTrailingSpace s
  else handleCursorInsert (js "    ") s

/-! ## Submission -/

/-- `createAndDispatchCustomEvent(TERMINAL_WAIT_FOR_INPUT)`: `dispatchEvent` runs the listener
    `waitForUserInput` registered, if any, before it returns (part_004:242-250). -/
def dispatchWaitForInput (s : PgShell) : PgShell :=
  let s := s.emit (.dispatch .terminalWaitForInput)
  if s.waitListener then
    { s with waitingForInput := false, waitListener := false }.emit (.resolveWait s.pgTty.input)
  else s

/-- `this._activePrompt.resolve(input); this._activePrompt = undefined` (part_004:163-166):
    resolving the active prompt queues the rest of the `prompt()` call that awaits it. -/
def resolveActivePrompt (s : PgShell) : PgShell :=
  match s.activePrompt with
  | some _ => { s with activePrompt := none, microtasks := s.microtasks ++ [Microtask.promptResume] }
  | none => s

/-- `handleReadComplete(clearCmd)` (part_004:161-178). -/
def handleReadComplete (P : Playground) (env : Env) (clearCmd : Bool) (s : PgShell) :
    Except PgShell PgShell :=
  let input := s.pgTty.input
  let s := resolveActivePrompt s
  let s := if clearCmd then s.emit .clearLine else s.emit (.print (js "\r\n"))
  let s := { s with active := false }
  if s.waitingForInput then .ok (dispatchWaitForInput s)
  else parseCommand P env env.stackDepth input s

/-- The body of each control-character `case` (part_004:396-519). -/
def handleControlKey (P : Playground) (env : Env) (k : ControlKey) (s : PgShell) :
    Except PgShell PgShell :=
  let t := s.pgTty
  match k with
  | .enter =>
    if P.isIncompleteInput t.input then .ok (handleCursorInsert (js "\n") s)
    else handleReadComplete P env false s
  | .backspace => .ok (handleCursorErase true s)
  | .tab => .ok (tabComplete P s)
  | .ctrlA => .ok (s.withTty (t.setCursor 0))
  | .ctrlB => .ok (handleCursorMove (-1) s)
  | .ctrlE => .ok (s.withTty (t.setCursor t.input.length))
  | .ctrlF => .ok (handleCursorMove 1 s)
  | .ctrlG => .ok ({ s with history := s.history.getPrevious.1 }.withTty (t.setInput []))
  | .ctrlK =>
    let t := t.setInput (t.input.take t.cursor)
    .ok (s.withTty (t.setCursor t.input.length))
  | .ctrlN => .ok (historyNext s)
  | .ctrlP => .ok (historyPrevious s)
  | .ctrlU =>
    let t := t.setInput (t.input.drop t.cursor)
    .ok (s.withTty (t.setCursor 0))

/-- `_handleData(data)` (part_004:311-526). `charCodeAt(0)` of an empty string is `NaN`, which
    fails every comparison, so it reaches the visible-character branch. -/
def handleData (P : Playground) (env : Env) (data : JsString) (s : PgShell) :
    Except PgShell PgShell :=
  if !s.active && data != ctrlC then .ok s
  else
    match data with
    | [] => .ok (handleCursorInsert [] s)
    | ord :: rest =>
      if ord = 0x1b then .ok ((escapeKey rest).elim s (handleEscapeKey · s))
      else if ord < 32 ∨ ord = 0x7f then
        (controlKey data).elim (.ok s) (handleControlKey P env · s)
      else .ok (handleCursorInsert data s)

/-- The first-init block of `handleTermData` (part_004:189-205): the prompt prefix is read off
    the xterm buffer; `none` when the line is `undefined` and the chunk is dropped. -/
def detectPromptPrefix (env : Env) (s : PgShell) : Option PgShell :=
  if s.pgTty.firstInit && s.activePrompt.isSome then
    match env.bufferLine with
    | none => none
    | some promptRead =>
      some { s with activePrompt := some ⟨promptRead⟩,
                    pgTty := { s.pgTty with promptPrefix := promptRead, firstInit := false } }
  else some s

/-- `handleTermData(data)` (part_004:183-222). An exception in one piece of a paste ends the
    `forEach`. -/
def handleTermData (P : Playground) (env : Env) (data : JsString) (s : PgShell) :
    Except PgShell PgShell :=
  if !s.active && data != ctrlC then .ok s
  else
    match detectPromptPrefix env s with
    | none => .ok s
    | some s =>
      match s.activeCharPrompt with
      | some p =>
        .ok ({ s with activeCharPrompt := none,
                      microtasks := s.microtasks ++ [Microtask.charRead p data] }.emit (.print (js "\r\n")))
      | none =>
        if isPaste data then
          (codePoints (collapseNewlines data)).foldlM (fun s c => handleData P env c s) s
        else handleData P env data s

/-- `waitForUserInput(msg)` (part_004:230-258) as far as it runs synchronously. `fault` is
    where a terminal call throws, if one does: the `Promise` executor then rejects with it. -/
def waitForUserInput (P : Playground) (msg : JsString) (fault : Option TtyFault) (s : PgShell) :
    PgShell :=
  if s.waitingForInput then s.emit (.rejectWait (some (js "Already waiting for input.")))
  else
    let s := { s with waitingForInput := true }
    match fault with
    | some .clearLine => s.emit (.rejectWait none)
    | some .println => (s.emit .clearLine).emit (.rejectWait none)
    | none =>
      { ((s.emit .clearLine).emit
          (.println (P.secondary P.waitingInputMsgPrefix ++ msg))).enable with waitListener := true }

/-! ## The event loop -/

/-- One queued continuation. `promptResume` pushes what the terminal holds when it runs
    (part_004:118-119); a resolved character read prints the candidates on `y` or `Y` and
    resumes the prompt (part_004:452-456, 150). -/
def runMicrotask (s : PgShell) : Microtask → PgShell
  | .promptResume => { s with history := s.history.push (trim s.pgTty.input) }
  | .charRead p data =>
    resume (if data = js "y" ∨ data = js "Y" then s.emit (.printWide p.candidates) else s)

/-- The microtask checkpoint at the end of a task. -/
def drain (s : PgShell) : PgShell := s.microtasks.foldl runMicrotask { s with microtasks := [] }

end PgShell

/-- The state a handler leaves, whether it returned or threw. -/
def finalState : Except PgShell PgShell → PgShell
  | .ok s => s
  | .error s => s

/-- A task of the page's event loop. -/
inductive Event
  /-- xterm delivers `data` to `handleTermData`. -/
  | termData (data : JsString)
  /-- Code outside the shell calls `disable()`. -/
  | disable
  /-- Code outside the shell calls `enable()`. -/
  | enable
  /-- The oldest `enable()` timer fires. -/
  | timer
  /-- Code outside the shell calls `waitForUserInput(msg)`. -/
  | waitForUserInput (msg : JsString) (fault : Option TtyFault)
  /-- `PgTerminal.runCmd` runs the SUGAR callback for `cmd`. -/
  | runSugar (cmd : JsString)
  deriving DecidableEq, Repr

namespace PgShell

/-- One task, then its microtasks. A timer event with no timer pending changes nothing. -/
def step (P : Playground) (env : Env) (s : PgShell) : Event → PgShell
  | .termData data => drain (finalState (handleTermData P env data s))
  | .disable => drain s.disable
  | .enable => drain s.enable
  | .timer => if s.timers = 0 then s else drain (enableCallback P env { s with timers := s.timers - 1 })
  | .waitForUserInput msg fault => drain (waitForUserInput P msg fault s)
  | .runSugar cmd => drain (runSugar env cmd s)

/-- A run of tasks. -/
def run (P : Playground) (s : PgShell) (tasks : List (Env × Event)) : PgShell :=
  tasks.foldl (fun s task => step P task.1 s task.2) s

/-- A run from a fresh shell on a fresh terminal, every task under the answers of `Env.sample`. -/
def session (P : Playground) (tasks : List Event) (options : ShellOptions := {}) : PgShell :=
  run P (new PgTty.new options) (tasks.map fun e => (Env.sample, e))

end PgShell

/-- The states a page reaches: a fresh shell on a fresh terminal, with any options, then any
    tasks in any order under any answers of the page. -/
inductive Reachable (P : Playground) : PgShell → Prop
  | new (options : ShellOptions) : Reachable P (PgShell.new PgTty.new options)
  | step {s : PgShell} (env : Env) (e : Event) : Reachable P s → Reachable P (s.step P env e)

theorem Reachable.run {P : Playground} {s : PgShell} (h : Reachable P s) (tasks : List (Env × Event)) :
    Reachable P (s.run P tasks) := by
  induction tasks generalizing s with
  | nil => exact h
  | cons t tasks ih => exact ih (.step t.1 t.2 h)

theorem reachable_session (P : Playground) (tasks : List Event) (options : ShellOptions) :
    Reachable P (PgShell.session P tasks options) :=
  (Reachable.new options).run _

end PlaygroundShell
