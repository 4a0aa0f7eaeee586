/-
Module: RuntimeConsole.Console.Guests
Purpose: What the program a console is embedded in does with it: it follows
  connections, requests, settings, modules and lines, and it stands at the other
  end of connections.
Main exports:
  Console.followBoots, Console.followDetaches, Console.handleRequests,
  Console.followLines, Console.followSetting, Console.followModules,
  Console.remoteWrites, Console.remoteCloses
-/
import RuntimeConsole.Console.Schedule

namespace RuntimeConsole

namespace Console

/-! ### Subscriptions

Each comes with the release that ends it. -/

/-- Follows the beginnings of connections. -/
def followBoots (console : Console) (observer : BootObserver) : Console × Release :=
  let (client, id) := console.client.onBoot observer
  (console.withClient client, .clientObserver id)

/-- Follows the ends of connections. -/
def followDetaches (console : Console) (observer : DetachObserver) : Console × Release :=
  let (client, id) := console.client.onDetached observer
  (console.withClient client, .clientObserver id)

/-- Handles what the runtime asks for under a name. -/
def handleRequests (console : Console) (name : String) (handler : Handler) :
    Console × Release :=
  let (client, id) := console.client.onMessage name handler
  (console.withClient client, .handler name id)

/-- Follows the rows of the screen. -/
def followLines (console : Console) (label : Json) : Console × Release :=
  let (console, key) := console.addLineListener (.guest label)
  (console, .lineListener key)

/-- Follows a setting. -/
def followSetting (console : Console) (name : String) (label : Json) : Console × Release :=
  let (console, key) := console.observeField name label
  (console, .settingsObserver key)

/-- Follows the modules. -/
def followModules (console : Console) (label : Json) : Console × Release :=
  let (console, key) := console.listenModules (.guest label)
  (console, .moduleListener key)

/-! ### The other end of connections -/

/-- The runtime writes to a byte stream.  The result says whether there is still
somebody to read it. -/
def remoteWrites (console : Console) (channel : Nat) (bytes : List UInt8) : Console × Bool :=
  match console.servedWire? channel with
  | some wire =>
      (console.setWire channel { wire with inbound := wire.inbound ++ bytes }, true)
  | none => (console, false)

/-- The runtime closes a byte stream in both directions. -/
def remoteCloses (console : Console) (channel : Nat) : Console :=
  match console.channels[channel]? with
  | some (.wire wire) => console.setWire channel { wire with remoteOpen := false }
  | _ => console

/-- Nobody takes the frames of a channel any more. -/
def stopTaking (console : Console) (channel : Nat) : Console :=
  match console.channels[channel]? with
  | some (.direct _) =>
      { console with channels := console.channels.set channel (.direct false) }
  | _ => console

end Console

end RuntimeConsole
