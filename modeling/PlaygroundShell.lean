import PlaygroundShell.JsString
import PlaygroundShell.Collaborators
import PlaygroundShell.History
import PlaygroundShell.ShellUtils
import PlaygroundShell.Shell.State
import PlaygroundShell.Shell.Command
import PlaygroundShell.Shell.Input
import PlaygroundShell.Invariants
import PlaygroundShell.Editor
import PlaygroundShell.WordMotion
import PlaygroundShell.Navigation
import PlaygroundShell.Autocomplete
import PlaygroundShell.Dispatch
import PlaygroundShell.Runs
import PlaygroundShell.Controller
import PlaygroundShell.Paste
import PlaygroundShell.Submit
import PlaygroundShell.Keys
import PlaygroundShell.Resume
