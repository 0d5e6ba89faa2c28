import PlaygroundShell.JsString

/-!
# What the shell talks to

`PgShell` (src/unnamed/part_004) drives a `PgTty`, reports to `PgTerminal`, `PgCommon` and
`PgPkg`, and reads the wallet and the xterm buffer. None of these is in src. This module fixes
what the shell sees of them.

* `PgTty` is the spec's rendering sink (§6: get and set the visible input text and the cursor
  column): a record of the line input and its cursor, which the spec's InputLine keeps within
  `[0, length]` (§3): `setInput` lowers the cursor to the new length when it exceeds it,
  `setCursor` clamps, `setCursorDirectly` assigns, and `read` starts a new line read with an
  empty input. Its drawing is not modelled: `print`,
  `println`, `clearLine` and the like become `Effect`s.
* The answer of `PgWallet.checkIsPgConnected()` is a field of `Env`; what the call does when the
  wallet is not connected, release the prompt with `enable()` as the spec has it (§4.5, §7), is
  `PgShell.checkIsPgConnected`.
* Everything else the shell sends out (terminal states, custom events, package loads, the
  settling of `waitForUserInput`'s promise) is an `Effect`, appended to a log.
* The constants and helpers src does not contain are the fields of `Playground`; the answers the
  page gives during one task are the fields of `Env`.
* `PgCommand`'s names and `help()` text are those of src/unnamed/part_003.
-/

namespace PlaygroundShell

/-! ## Prompts and the terminal -/

/-- `ActivePrompt` of shell-utils: a pending line read. Its promise is not data here: resolving
    the shell's active prompt queues the rest of the `prompt()` call that awaits it. -/
structure ActivePrompt where
  promptPrefix : JsString
  deriving DecidableEq, Repr

/-- `ActiveCharPrompt` of shell-utils: a pending character read, together with what the only
    caller of `readChar` (TAB, part_004:447-457) chains on its promise: print `candidates` if the
    character is `y` or `Y`, then resume the prompt. -/
structure ActiveCharPrompt where
  promptPrefix : JsString
  candidates : List JsString
  deriving DecidableEq, Repr

/-- The state of `PgTty` the shell reads and writes. -/
structure PgTty where
  input : JsString
  cursor : Nat
  promptPrefix : JsString
  /-- `getFirstInit()`: no data has been handled since the terminal was created. -/
  firstInit : Bool
  /-- The character read `readChar` started, if any. -/
  activeCharPrompt : Option ActiveCharPrompt
  deriving DecidableEq, Repr

namespace PgTty

/-- A fresh terminal: empty input, nothing read yet. -/
def new : PgTty := ⟨[], 0, [], true, none⟩

/-- `setInput(s)`: replaces the input; a cursor past the new end moves to it. -/
def setInput (t : PgTty) (s : JsString) : PgTty :=
  { t with input := s, cursor := min t.cursor s.length }

/-- `setCursor(n)`: `n` clamped to `[0, input.length]`. -/
def setCursor (t : PgTty) (n : Nat) : PgTty := { t with cursor := min n t.input.length }

/-- `setCursorDirectly(n)`: no clamping. -/
def setCursorDirectly (t : PgTty) (n : Nat) : PgTty := { t with cursor := n }

/-- `read(promptPrefix)`: a new pending line read with an empty input. -/
def read (t : PgTty) (promptPrefix : JsString) : PgTty × ActivePrompt :=
  ({ t with input := [], cursor := 0, promptPrefix := promptPrefix }, ⟨promptPrefix⟩)

/-- `readChar(promptPrefix)` with the callbacks its caller chains on the promise. -/
def readChar (t : PgTty) (promptPrefix : JsString) (candidates : List JsString) :
    PgTty × ActiveCharPrompt :=
  let p : ActiveCharPrompt := ⟨promptPrefix, candidates⟩
  ({ t with activeCharPrompt := some p }, p)

@[simp] theorem setInput_input (t : PgTty) (s : JsString) : (t.setInput s).input = s := rfl
@[simp] theorem setInput_cursor (t : PgTty) (s : JsString) :
    (t.setInput s).cursor = min t.cursor s.length := rfl
@[simp] theorem setInput_activeCharPrompt (t : PgTty) (s : JsString) :
    (t.setInput s).activeCharPrompt = t.activeCharPrompt := rfl
@[simp] theorem setCursor_input (t : PgTty) (n : Nat) : (t.setCursor n).input = t.input := rfl
@[simp] theorem setCursor_cursor (t : PgTty) (n : Nat) :
    (t.setCursor n).cursor = min n t.input.length := rfl
@[simp] theorem setCursor_activeCharPrompt (t : PgTty) (n : Nat) :
    (t.setCursor n).activeCharPrompt = t.activeCharPrompt := rfl
@[simp] theorem setCursorDirectly_input (t : PgTty) (n : Nat) :
    (t.setCursorDirectly n).input = t.input := rfl
@[simp] theorem setCursorDirectly_cursor (t : PgTty) (n : Nat) :
    (t.setCursorDirectly n).cursor = n := rfl
@[simp] theorem setCursorDirectly_activeCharPrompt (t : PgTty) (n : Nat) :
    (t.setCursorDirectly n).activeCharPrompt = t.activeCharPrompt := rfl
@[simp] theorem read_input (t : PgTty) (p : JsString) : (t.read p).1.input = [] := rfl
@[simp] theorem read_cursor (t : PgTty) (p : JsString) : (t.read p).1.cursor = 0 := rfl
@[simp] theorem read_activeCharPrompt (t : PgTty) (p : JsString) :
    (t.read p).1.activeCharPrompt = t.activeCharPrompt := rfl

/-- The cursor is on the line: `0 ≤ cursor ≤ input.length`. -/
def Valid (t : PgTty) : Prop := t.cursor ≤ t.input.length

instance (t : PgTty) : Decidable t.Valid := inferInstanceAs (Decidable (_ ≤ _))

theorem valid_new : new.Valid := Nat.zero_le _

theorem valid_setInput (t : PgTty) (s : JsString) : (t.setInput s).Valid := Nat.min_le_right _ _

theorem valid_setCursor (t : PgTty) (n : Nat) : (t.setCursor n).Valid := Nat.min_le_right _ _

theorem valid_read (t : PgTty) (p : JsString) : (t.read p).1.Valid := Nat.zero_le _

theorem valid_readChar {t : PgTty} (h : t.Valid) (p : JsString) (c : List JsString) :
    (t.readChar p c).1.Valid := h

end PgTty

/-! ## Effects -/

/-- `TerminalAction` values the shell sets. -/
inductive TerminalAction
  | buildStart
  | walletConnectOrSetupStart
  | deployStart
  deriving DecidableEq, Repr

/-- `Lang` values of the format requests. -/
inductive Lang
  | typescript
  | rust
  deriving DecidableEq, Repr

/-- `PkgName`: the lazily loaded command packages. -/
inductive PkgName
  | solanaCli
  | splTokenCli
  | sugarCli
  deriving DecidableEq, Repr

/-- The custom events the shell dispatches (`EventName`, client/src/constants/event.ts), with
    their `detail`. -/
inductive CustomEvent
  | clientRun (isTest : Bool) (path : Option JsString)
  | editorFormat (lang : Lang) (fromTerminal : Bool)
  | terminalWaitForInput
  deriving DecidableEq, Repr

/-- What the shell does to the world outside its own state, in order. -/
inductive Effect
  | print (text : JsString)
  | println (text : JsString)
  | printWide (items : List JsString)
  | clearInput
  | clearLine
  | clearTty
  | clear
  /-- `read` or `readChar` writes its prompt. -/
  | read (promptPrefix : JsString)
  | readChar (promptPrefix : JsString)
  | setTerminalState (action : TerminalAction)
  | logWasm (text : JsString)
  | dispatch (event : CustomEvent)
  /-- `PgPkg.loadPkg(pkg, { log })`, then the package's entry point on `cmd`. -/
  | loadPkg (pkg : PkgName) (log : Bool) (cmd : JsString)
  /-- `PgTerminal.runCmd` with the SUGAR callback for `cmd`. -/
  | runCmd (cmd : JsString)
  /-- `waitForUserInput`'s promise is resolved with `input`. -/
  | resolveWait (input : JsString)
  /-- It is rejected, with `"Already waiting for input."` or (`none`) with what the terminal
      threw. -/
  | rejectWait (reason : Option JsString)
  deriving DecidableEq, Repr

/-! ## `PgCommand` (src/unnamed/part_003) -/

/-- `AutoCompleteHandler` (part_004:21). -/
abbrev AutoCompleteHandler := Nat → List JsString → List JsString

namespace PgCommand

def build : JsString := js "build"
def clear : JsString := js "clear"
def connect : JsString := js "connect"
def deploy : JsString := js "deploy"
def help : JsString := js "help"
def solana : JsString := js "solana"
def splToken : JsString := js "spl-token"
def runLastCmd : JsString := js "!!"

/-- `Command` (part_003:38-41). -/
structure Command where
  name : JsString
  description : JsString

/-- `COMMANDS` (part_003:46-71): the commands `help` lists. -/
def commands : List Command :=
  [⟨build, js "Build your program"⟩, ⟨clear, js "Clear terminal"⟩,
    ⟨connect, js "Toggle connection to Playground Wallet"⟩, ⟨deploy, js "Deploy your program"⟩,
    ⟨solana, js "Commands for interacting with Solana"⟩,
    ⟨splToken, js "Commands related to SPL Token"⟩]

/-- `PgCommand.help()` (part_003:14-35). `fillWhitespace(n)` is `25 - n` spaces; every name is
    shorter than 25, so the `reduce` never runs on an empty array. -/
def helpText : JsString :=
  js "COMMANDS:\n" ++ commands.foldl (fun acc cmd =>
    acc ++ js "    " ++ cmd.name ++ List.replicate (25 - cmd.name.length) 0x20 ++
      cmd.description ++ js "\n") []

end PgCommand

/-! ## Parameters -/

/-- The parts of the playground `PgShell` uses that src does not contain: the prompt texts and
    styling of `PgTerminal`; the names `PgCommand.PRETTIER`, `RUN`, `RUSTFMT`, `SUGAR` and `TEST`,
    which part_003's `PgCommand` lacks; and the helpers of shell-utils whose behaviour the spec
    leaves open (the autocomplete providers of §4.2, the incomplete-input predicate of §8 item 7).
    Every result holds for every choice of them unless it says otherwise. -/
structure Playground where
  promptPrefix : JsString
  waitingInputPromptPrefix : JsString
  waitingInputMsgPrefix : JsString
  italic : JsString → JsString
  secondary : JsString → JsString
  prettier : JsString
  run : JsString
  rustfmt : JsString
  sugar : JsString
  test : JsString
  collectAutocompleteCandidates : List AutoCompleteHandler → JsString → List JsString
  hasTrailingWhitespace : JsString → Bool
  isIncompleteInput : JsString → Bool

/-- A playground to run the model on: the missing names as `PgCommand` spells the others,
    candidates the handlers' entries that start with the fragment, a trailing whitespace unit,
    and a line ending in a backslash as the incomplete input. -/
def Playground.sample : Playground where
  promptPrefix := js "$ "
  waitingInputPromptPrefix := js ">> "
  waitingInputMsgPrefix := js "? "
  italic := id
  secondary := id
  prettier := js "prettier"
  run := js "run"
  rustfmt := js "rustfmt"
  sugar := js "sugar"
  test := js "test"
  collectAutocompleteCandidates handlers fragment :=
    (handlers.flatMap fun h => h 0 []).filter fun c => startsWith c fragment
  hasTrailingWhitespace input := (input.getLast?.map isWhitespace).getD false
  isIncompleteInput input := input.getLast? = some 0x5C

/-- What the page answers while the shell handles one task. Every result holds for every
    sequence of answers unless it says otherwise. -/
structure Env where
  /-- The answer of `PgWallet.checkIsPgConnected()`: whether the Playground Wallet is
      connected. What the call does when it is not is `PgShell.checkIsPgConnected`. -/
  walletConnected : Bool
  /-- `PgTty.getInputStartsWithPrompt()`, which reads the xterm buffer. -/
  inputStartsWithPrompt : Bool
  /-- `getBuffer().getLine(cursorY + baseY)` read up to `cursorX`; `none` is `undefined`. -/
  bufferLine : Option JsString
  /-- The frames the engine's call stack has left for `_parseCommand`'s recursion. -/
  stackDepth : Nat

/-- A page with a connected wallet, whose buffer line left of the cursor is empty, and a call
    stack deep enough for every run evaluated here. -/
def Env.sample : Env := ⟨true, false, some [], 100⟩

/-- Where a terminal call inside `waitForUserInput` throws. -/
inductive TtyFault
  | clearLine
  | println
  deriving DecidableEq, Repr

end PlaygroundShell
