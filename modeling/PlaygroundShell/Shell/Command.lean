import PlaygroundShell.Shell.State

/-!
# Command dispatch

`_parseCommand(cmd)` (src/unnamed/part_004:548-691) switches on the first space-separated token
of the trimmed line. `Branch` names the `case` a token selects; `commandOf` is the `switch`, which
tries the labels in source order. Each branch is then one line of `parseCommand`.

The `!!` branch calls `_parseCommand` again on the newest history entry. The recursion is given
the engine's remaining stack frames as fuel: when they run out the call throws, which
`parseCommand` returns as `.error` with the state at the throw.
-/

namespace PlaygroundShell

/-- The `case` labels of `_parseCommand`'s `switch`; `RUN` and `TEST` share a body. -/
inductive Branch
  | build
  | clear
  | connect
  | deploy
  | help
  | prettier
  | runLastCmd
  | runOrTest
  | rustfmt
  | solana
  | splToken
  | sugar
  deriving DecidableEq, Repr

/-- `cmd.trim().split(" ")?.at(0)` (part_004:551). -/
def cmdNameOf (cmd : JsString) : JsString := firstToken (trim cmd)

/-- The labels of the `switch (cmdName)` of part_004:553-682 in order, with the `case` each
    selects. -/
def commandLabels (P : Playground) : List (JsString × Branch) :=
  [(PgCommand.build, .build), (PgCommand.clear, .clear), (PgCommand.connect, .connect),
    (PgCommand.deploy, .deploy), (PgCommand.help, .help), (P.prettier, .prettier),
    (PgCommand.runLastCmd, .runLastCmd), (P.run, .runOrTest), (P.test, .runOrTest),
    (P.rustfmt, .rustfmt), (PgCommand.solana, .solana), (PgCommand.splToken, .splToken),
    (P.sugar, .sugar)]

/-- `switch (cmdName)`: the first label equal to `cmdName`. -/
def commandOf (P : Playground) (cmdName : JsString) : Option Branch :=
  ((commandLabels P).find? fun e => e.1 = cmdName).map Prod.snd

/-- The `Command '...' not found.` line (part_004:687). -/
def notFoundText (P : Playground) (cmd : JsString) : JsString :=
  js "Command '" ++ P.italic cmd ++ js "' not found.\n"

namespace PgShell

/-- `PgWallet.checkIsPgConnected()`, which src does not contain. Its answer is the page's
    (`Env.walletConnected`). Its failure path is modelled from the spec, which has a command whose
    precondition fails skip its action and still call `enable()` (§4.5, §7): when no wallet is
    connected it releases the prompt with `enable()` and answers `false`. -/
def checkIsPgConnected (env : Env) (s : PgShell) : Bool × PgShell :=
  if env.walletConnected then (true, s) else (false, s.enable)

/-- `if (PgWallet.checkIsPgConnected()) { body }`, the guard of DEPLOY, SOLANA, SPL_TOKEN
    (part_004:573-578, 629-663) and of the SUGAR callback (part_004:666-678). -/
def ifPgConnected (env : Env) (body : PgShell → PgShell) (s : PgShell) : PgShell :=
  let (connected, s) := checkIsPgConnected env s
  if connected then body s else s

/-- The guard runs the body on a connected wallet, and otherwise only releases the prompt. -/
theorem ifPgConnected_eq (env : Env) (body : PgShell → PgShell) (s : PgShell) :
    ifPgConnected env body s = if env.walletConnected then body s else s.enable := by
  unfold ifPgConnected checkIsPgConnected
  cases env.walletConnected <;> rfl

/-- What holds of the body's result and of the released shell holds after the guard. -/
theorem ifPgConnected_of {Q : PgShell → Prop} {env : Env} (body : PgShell → PgShell)
    {s : PgShell} (hb : Q (body s)) (he : Q s.enable) : Q (ifPgConnected env body s) := by
  rw [ifPgConnected_eq]
  split
  · exact hb
  · exact he

/-- What the SOLANA, SPL_TOKEN and SUGAR bodies do before their first `await`
    (part_004:632-638): mark `pkg` loaded, and load it with logging only the first time. -/
def loadPkg (pkg : PkgName) (cmd : JsString) (s : PgShell) : PgShell :=
  let initial := !s.loadedPkgs.contains pkg
  let s := if initial then { s with loadedPkgs := pkg :: s.loadedPkgs } else s
  s.emit (.loadPkg pkg initial cmd)

/-- `_parseCommand(cmd)` (part_004:548-691) with `fuel` stack frames left. -/
def parseCommand (P : Playground) (env : Env) : Nat → JsString → PgShell → Except PgShell PgShell
  | 0, _, s => .error s
  | fuel + 1, cmd, s =>
    let cmdName := cmdNameOf cmd
    match commandOf P cmdName with
    | some .build => .ok (s.emit (.setTerminalState .buildStart))
    | some .clear => .ok (prompt P env ((s.emit .clearTty).emit .clear))
    | some .connect => .ok (s.emit (.setTerminalState .walletConnectOrSetupStart))
    | some .deploy => .ok (ifPgConnected env (·.emit (.setTerminalState .deployStart)) s)
    | some .help => .ok ((s.emit (.logWasm PgCommand.helpText)).enable)
    | some .prettier => .ok (s.emit (.dispatch (.editorFormat .typescript true)))
    | some .runLastCmd =>
      match s.history.getEntries.getLast? with
      | none => .ok ((s.emit (.println (js "No previous command."))).enable)
      | some lastCmd => parseCommand P env fuel lastCmd s
    | some .runOrTest =>
      .ok (s.emit (.dispatch (.clientRun (startsWith cmd P.test) (runPathMatch cmd))))
    | some .rustfmt => .ok (s.emit (.dispatch (.editorFormat .rust true)))
    | some .solana => .ok (ifPgConnected env (loadPkg .solanaCli cmd) s)
    | some .splToken => .ok (ifPgConnected env (loadPkg .splTokenCli cmd) s)
    | some .sugar => .ok (s.emit (.runCmd cmd))
    | none => .ok (if cmdName ≠ [] then s.emit (.println (notFoundText P cmd)) else s).enable

/-- The callback the SUGAR branch passes to `PgTerminal.runCmd` (part_004:666-678), up to its
    first `await`. -/
def runSugar (env : Env) (cmd : JsString) (s : PgShell) : PgShell :=
  ifPgConnected env (loadPkg .sugarCli cmd) s

end PgShell

end PlaygroundShell
