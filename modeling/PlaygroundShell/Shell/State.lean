import PlaygroundShell.Collaborators
import PlaygroundShell.History
import PlaygroundShell.ShellUtils

/-!
# The shell's state and its line-editing primitives

`PgShell` (src/unnamed/part_004) keeps its fields in a class instance and lives in a browser
event loop. `PgShell` below is that instance together with the parts of the loop the shell
touches: the `enable()` callbacks `setTimeout` holds (all alike, so only their number), the
promise continuations queued to run when the current task ends, whether the listener of
`waitForUserInput` is on `document`, and the log of effects.

This module has the constructor, `disable`, `enable` and its callback, `prompt` up to its
`await`, `printAndRestartPrompt` and the three cursor helpers of part_004:263-306. Every
function takes and returns the whole state, as the methods mutate `this`.
-/

namespace PlaygroundShell

/-- `ShellOptions` (part_004:22) with the constructor's defaults. -/
structure ShellOptions where
  historySize : Nat := 30
  maxAutocompleteEntries : Nat := 100

/-- A promise continuation waiting in the microtask queue. -/
inductive Microtask
  /-- The rest of a `prompt()` call after `await this._activePrompt.promise` (part_004:118-119). -/
  | promptResume
  /-- The callbacks chained on a character read's promise, now resolved with `data`. -/
  | charRead (p : ActiveCharPrompt) (data : JsString)
  deriving DecidableEq, Repr

/-- The fields of a `PgShell` instance (part_004:33-42) and the parts of the event loop it
    touches. `_autocompleteHandlers` is not a field here: the constructor sets it to the one
    handler `autocompleteHandlers` below, and nothing changes it. -/
structure PgShell where
  pgTty : PgTty
  history : PgShellHistory
  active : Bool
  waitingForInput : Bool
  processCount : Nat
  maxAutocompleteEntries : Nat
  loadedPkgs : List PkgName
  activePrompt : Option ActivePrompt
  activeCharPrompt : Option ActiveCharPrompt
  /-- `enable()` callbacks scheduled by `setTimeout` and not yet run. -/
  timers : Nat
  /-- Promise continuations queued during the current task, oldest first. -/
  microtasks : List Microtask
  /-- `waitForUserInput`'s `handleInput` is registered for `TERMINAL_WAIT_FOR_INPUT`. -/
  waitListener : Bool
  out : List Effect
  deriving DecidableEq, Repr

namespace PgShell

/-- `new PgShell(pgTty, options)` (part_004:44-64). -/
def new (pgTty : PgTty) (options : ShellOptions := {}) : PgShell where
  pgTty := pgTty
  history := PgShellHistory.new options.historySize
  active := false
  waitingForInput := false
  processCount := 0
  maxAutocompleteEntries := options.maxAutocompleteEntries
  loadedPkgs := []
  activePrompt := none
  activeCharPrompt := none
  timers := 0
  microtasks := []
  waitListener := false
  out := []

/-- The only autocomplete handler (part_004:55-59): every history entry, whatever the input. -/
def autocompleteHandlers (s : PgShell) : List AutoCompleteHandler :=
  [fun _ _ => s.history.getEntries]

/-- Appends `e` to the effect log. -/
def emit (s : PgShell) (e : Effect) : PgShell := { s with out := s.out ++ [e] }

/-- Replaces the terminal's state. -/
def withTty (s : PgShell) (t : PgTty) : PgShell := { s with pgTty := t }

/-! ## `disable`, `enable`, `prompt` -/

/-- `disable()` (part_004:76-79) with `_incrementProcessCount` inlined. -/
def disable (s : PgShell) : PgShell :=
  { s with processCount := s.processCount + 1, active := false }

/-- `enable()` (part_004:87-96): the callback is left to a timer. -/
def enable (s : PgShell) : PgShell := { s with timers := s.timers + 1 }

/-- `_decrementProcessCount()` (part_004:538-542). -/
def decrementProcessCount (s : PgShell) : PgShell :=
  if s.processCount ≠ 0 then { s with processCount := s.processCount - 1 } else s

/-- `prompt()` (part_004:103-125) up to its `await`: unless a read is active and the terminal
    still shows a prompt, start a read with the prompt of the current mode. What follows the
    `await` is `Microtask.promptResume`, queued when the read is resolved. `PgTty.read` does not
    fail in this model, so the `catch` branch is not reached; `this._history` is always set. -/
def prompt (P : Playground) (env : Env) (s : PgShell) : PgShell :=
  if s.activePrompt.isSome && env.inputStartsWithPrompt then s
  else
    let promptText := if s.waitingForInput then P.waitingInputPromptPrefix else P.promptPrefix
    let (t, p) := s.pgTty.read promptText
    { s with pgTty := t, activePrompt := some p, active := true }.emit (.read promptText)

/-- The callback `enable()` hands to `setTimeout` (part_004:88-95). The read of `read("")` is
    dropped: nothing keeps its prompt. -/
def enableCallback (P : Playground) (env : Env) (s : PgShell) : PgShell :=
  let s := s.decrementProcessCount
  if s.processCount = 0 then
    let s := prompt P env { s with active := true }
    (s.withTty (s.pgTty.read []).1).emit (.read [])
  else s

/-! ## Cursor helpers -/

/-- `_handleCursorMove(dir)` (part_004:263-274). The new cursor `cursor + num` is never negative:
    `num ≥ -cursor` in both branches, so `Int.toNat` loses nothing. -/
def handleCursorMove (dir : Int) (s : PgShell) : PgShell :=
  let t := s.pgTty
  if dir > 0 then
    let num := min dir ((t.input.length : Int) - t.cursor)
    s.withTty (t.setCursorDirectly ((t.cursor : Int) + num).toNat)
  else if dir < 0 then
    let num := max dir (-(t.cursor : Int))
    s.withTty (t.setCursorDirectly ((t.cursor : Int) + num).toNat)
  else s

/-- `_handleCursorInsert(data)` (part_004:279-286). -/
def handleCursorInsert (data : JsString) (s : PgShell) : PgShell :=
  let t := s.pgTty
  let newInput := t.input.take t.cursor ++ data ++ t.input.drop t.cursor
  s.withTty ((t.setCursorDirectly (t.cursor + data.length)).setInput newInput)

/-- `_handleCursorErase(backspace)` (part_004:291-306). -/
def handleCursorErase (backspace : Bool) (s : PgShell) : PgShell :=
  let t := s.pgTty
  if backspace then
    if t.cursor ≤ 0 then s
    else
      let newInput := t.input.take (t.cursor - 1) ++ t.input.drop t.cursor
      (s.emit .clearInput).withTty ((t.setCursorDirectly (t.cursor - 1)).setInput newInput)
  else
    let newInput := t.input.take t.cursor ++ t.input.drop (t.cursor + 1)
    s.withTty (t.setInput newInput)

/-! ## `printAndRestartPrompt` -/

/-- The `resume` of `printAndRestartPrompt` (part_004:141-144). -/
def resume (s : PgShell) : PgShell :=
  let t := s.pgTty.setCursor s.pgTty.cursor
  s.withTty (t.setInput t.input)

/-- `printAndRestartPrompt(callback)` (part_004:135-154). `callback` returns the new state and
    whether it returned a promise; then `resume` waits for that promise. -/
def printAndRestartPrompt (callback : PgShell → PgShell × Bool) (s : PgShell) : PgShell :=
  let s := (s.withTty (s.pgTty.setCursor s.pgTty.input.length)).emit (.print (js "\r\n"))
  let r := callback s
  if r.2 then r.1 else resume r.1

end PgShell

end PlaygroundShell
