/-
Module: RuntimeConsole.Console.SettingsEvent
Purpose: What can happen to the settings of a console, with those who are told of it at work.
Main exports:
  SettingsEvent, SettingsEvent.Faithful, Console.adjust, Console.adjustAll, Console.hear
-/
import RuntimeConsole.Config.StoreEvent
import RuntimeConsole.Console.Lifecycle

namespace RuntimeConsole

/-- Something that happens to the settings. -/
abbrev SettingsEvent := StoreEvent Settings Json SettingsListener

/-- Whether an event adds no observer that puts something else than the settings say in the place
of an allow-list. -/
def SettingsEvent.Faithful (event : SettingsEvent) : Prop :=
  ∀ select kind, event = .observe select (.keystrokes kind) →
    select = fun settings => stringsToJson (settings.keystrokes kind)

namespace Console

/-- The console after something has happened to its settings. -/
def adjust (console : Console) : SettingsEvent → Console
  | .update settings => console.updateSettings settings
  | .modify change => console.updateSettings (change console.settings.current)
  | .observe select listener => (console.observeSettings select listener).1
  | .release key => console.release (.settingsObserver key)

/-- The console after several things have happened to its settings. -/
def adjustAll (console : Console) (events : List SettingsEvent) : Console :=
  events.foldl adjust console

/-- The console after an observer was told something of its settings. -/
def hear (console : Console) (told : Nat × SettingsListener × Json) : Console :=
  console.settingsListenerSees told.2.2 told.2.1

end Console

end RuntimeConsole
