/-
Module: RuntimeConsole.Console.Preferences
Purpose: Settings and modules inside a console, and who is told about their
  changes.
Main exports:
  Console.observePrompt, Console.bindAllowLists, Console.updateSettings,
  Console.reportModule
-/
import RuntimeConsole.Console.Messages

namespace RuntimeConsole

/-- The settings with some of them replaced. -/
def Settings.patch (settings : Settings) (changes : List (String × Json)) : Decoded Settings :=
  let members :=
    match settings.toJson with
    | .obj members => members
    | _ => []
  Settings.read settings
    (Json.obj (changes.foldl (fun members change => Json.setMember change.1 change.2 members) members))

/-- The keystrokes left to the editor in a kind of terminal. -/
def Settings.keystrokes (settings : Settings) : TerminalClass → List String
  | .repl => settings.replKeystrokes
  | .auxiliary => settings.auxiliaryKeystrokes

/-- The strings of a sequence. -/
def Json.strings : Json → List String
  | .arr items => items.filterMap fun item =>
      match item with
      | .str text => some text
      | _ => none
  | _ => []

namespace Console

/-- Tells a listener about a part of the settings. -/
def settingsListenerSees (console : Console) (part : Json) : SettingsListener → Console
  | .prompt =>
      match part with
      | .str prompt => console.send "changeprompt" [.str (prompt ++ " ")]
      | _ => console
  | .keystrokes kind =>
      { console with
        allowLists := console.allowLists.replace kind (.ofList part.strings) }
  | .guest label => console.emit (.guestSawSetting label part)

/-- Adds an observer of a part of the settings, removed by the key in the result.
It is told about the part at once. -/
def observeSettings (console : Console) (select : Settings → Json)
    (listener : SettingsListener) : Console × Nat :=
  let (settings, key, part) := console.settings.observe select listener
  ({ console.settingsListenerSees part listener with settings := settings }, key)

/-- Lets the runtime know the prompt, now and whenever it changes. -/
def observePrompt (console : Console) : Console × Nat :=
  console.observeSettings (fun settings => .str settings.prompt) .prompt

/-- Keeps the allow-list of a kind of terminal up to date. -/
def bindAllowList (console : Console) (kind : TerminalClass) : Console × Nat :=
  console.observeSettings (fun settings => stringsToJson (settings.keystrokes kind))
    (.keystrokes kind)

/-- Keeps both allow-lists up to date.  The result are the subscriptions. -/
def bindAllowLists (console : Console) : Console × List Release :=
  let (console, repl) := console.bindAllowList .repl
  let (console, auxiliary) := console.bindAllowList .auxiliary
  (console, [.settingsObserver repl, .settingsObserver auxiliary])

/-- Lets code of the embedding program know a setting by its name, now and
whenever it changes. -/
def observeField (console : Console) (name : String) (label : Json) : Console × Nat :=
  console.observeSettings (fun settings => (settings.toJson.member? name).getD .null)
    (.guest label)

/-- Replaces the settings. -/
def updateSettings (console : Console) (settings : Settings) : Console :=
  let (store, notices) := console.settings.update settings
  notices.foldl (fun console notice => console.settingsListenerSees notice.2 notice.1)
    { console with settings := store }

/-- Does what a debouncer put off. -/
def runDebounced (console : Console) : DebouncedAction → Console
  | .reportModule =>
      console.send "changemodule"
        [.obj [("mod", .str console.modules.current),
          ("cols", .int console.terminal.cols.toNat)]]
  | .guest value => console.emit (.guestFired value)

/-- Adds a debouncer, whose number is in the result. -/
def addDebouncer (console : Console) (delay : Nat) : Console × Nat :=
  ({ console with
      debouncers := console.debouncers ++ [.idle delay console.host.concurrent] },
    console.debouncers.length)

/-- Puts an action off. -/
def debounce (console : Console) (id : Nat) (action : DebouncedAction) : Console :=
  match console.debouncers[id]? with
  | none => console
  | some debouncer =>
      let (debouncer, immediate) := debouncer.call console.now action
      let console := { console with debouncers := console.debouncers.set id debouncer }
      match immediate with
      | some action => console.runDebounced action
      | none => console

/-- Drops what a debouncer put off. -/
def cancelDebounced (console : Console) (id : Nat) : Console :=
  match console.debouncers[id]? with
  | none => console
  | some debouncer =>
      { console with debouncers := console.debouncers.set id debouncer.cancel }

/-- Tells a listener about a module. -/
def moduleListenerSees (console : Console) (name : String) : ModuleListener → Console
  | .runtime debouncer => console.debounce debouncer .reportModule
  | .guest label => console.emit (.guestSawModule label name console.modules.current)

/-- Takes note of the module the editor considers active. -/
def reportModule (console : Console) (name : String) : Console :=
  let (modules, listeners) := console.modules.report name
  listeners.foldl (fun console listener => console.moduleListenerSees name listener)
    { console with modules := modules }

/-- Adds a listener for modules, removed by the key in the result. -/
def listenModules (console : Console) (listener : ModuleListener) : Console × Nat :=
  let (modules, key) := console.modules.listen listener
  ({ console with modules := modules }, key)

end Console

end RuntimeConsole
