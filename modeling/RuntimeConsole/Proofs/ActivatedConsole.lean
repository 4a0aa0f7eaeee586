/-
Module: RuntimeConsole.Proofs.ActivatedConsole
Purpose: What a console is set up with before its session is activated and the terminals of an
  earlier time are restored.
Main exports:
  Console.furnished, Console.furnished_fresh, Console.wired_noShells, Console.activate?_eq
-/
import RuntimeConsole.Proofs.SessionInvariant
import RuntimeConsole.Proofs.ShellBooks

namespace RuntimeConsole

namespace Console

/-! ### Rows nobody listens to -/

theorem notify_unheard {console : Console} (unheard : console.terminal.listeners = [])
    (changes : List LineChange) : console.notify changes = console := by
  unfold notify
  induction changes with
  | nil => rfl
  | cons change changes inductionHypothesis =>
      rw [List.foldl_cons, unheard, List.foldl_nil]
      exact inductionHypothesis

theorem writeText_unheard {console : Console} (unheard : console.terminal.listeners = [])
    (text : String) :
    console.writeText text =
      { console with terminal := (console.terminal.render (Text.encode text.toList)).1 } := by
  unfold writeText write withTerminal
  refine notify_unheard ?_ _
  exact unheard

/-! ### Before the session is activated -/

/-- The console before its session is activated. -/
def furnished (parts : ConsoleParts) : Console :=
  let console := unwired parts.host parts.settings (runtimeTerminal parts.settings)
  let (console, lists) := console.bindAllowLists
  let console := { console with subscriptions := console.subscriptions.addAll lists }
  let console := console.writeText banner
  let console := console.withClient { console.client with booter := parts.booter }
  let console := console.serveAll basicHandlers
  if parts.showsLint then console.serveAll lintHandlers else console

theorem wired_eq (parts : ConsoleParts) : wired parts = (furnished parts).activateSession := rfl

/-- Handlers are registered with the client, and their subscriptions are kept. -/
theorem serveAll_changes (console : Console) (handlers : List (String × Handler)) :
    Changes [.nextId, .handlers, .subscriptions] console (console.serveAll handlers) := by
  refine .foldl (fun console entry => ⟨fun aspect outside => ?_⟩) handlers console
  cases aspect <;> first | rfl | exact absurd (by decide) outside

/-- The console before it serves any requests. -/
def unserved (parts : ConsoleParts) : Console :=
  let console := unwired parts.host parts.settings (runtimeTerminal parts.settings)
  let (console, lists) := console.bindAllowLists
  let console := { console with subscriptions := console.subscriptions.addAll lists }
  { console with
    client := { console.client with booter := parts.booter }
    terminal := (console.terminal.render (Text.encode banner.toList)).1 }

theorem furnished_eq (parts : ConsoleParts) :
    furnished parts = (unserved parts).serveAll
      (basicHandlers ++ if parts.showsLint then lintHandlers else []) := by
  have shown : ∀ console : Console, console.terminal.listeners = [] →
      (console.writeText banner).withClient
          { (console.writeText banner).client with booter := parts.booter } =
        { console with
          client := { console.client with booter := parts.booter }
          terminal := (console.terminal.render (Text.encode banner.toList)).1 } := by
    intro console unheard
    rw [writeText_unheard unheard]
    rfl
  unfold furnished
  dsimp only
  rw [shown _ rfl]
  cases parts.showsLint with
  | false => simp [unserved]
  | true => simp [unserved, serveAll]

theorem furnished_changes (parts : ConsoleParts) :
    Changes [.nextId, .handlers, .subscriptions] (unserved parts) (furnished parts) := by
  rw [furnished_eq]
  exact serveAll_changes _ _

/-- What is looked at in a console that has been furnished, as far as requests are of no
concern. -/
theorem furnished_look (parts : ConsoleParts) (aspect : Aspect)
    (apart : aspect ∉ [.nextId, .handlers, .subscriptions]) :
    (furnished parts).look aspect = (unserved parts).look aspect :=
  (furnished_changes parts).same aspect apart

/-- The allow-lists are the only ones that follow the settings. -/
theorem furnished_watchers (parts : ConsoleParts) :
    (furnished parts).watchers = [(0, .keystrokes .repl), (1, .keystrokes .auxiliary)] ∧
      (furnished parts).settings.nextKey = 2 :=
  Prod.mk.inj (furnished_look parts .watchers (by decide))

theorem furnished_observers (parts : ConsoleParts) :
    (furnished parts).client.bootObservers = [] ∧ (furnished parts).client.detachObservers = [] :=
  Prod.mk.inj (furnished_look parts .observers (by decide))

theorem furnished_listeners (parts : ConsoleParts) : (furnished parts).terminal.listeners = [] :=
  (Prod.mk.inj (furnished_look parts .listeners (by decide))).1

theorem furnished_moduleListeners (parts : ConsoleParts) :
    (furnished parts).modules.listeners = [] :=
  (Prod.mk.inj (furnished_look parts .moduleListeners (by decide))).1

theorem furnished_fresh (parts : ConsoleParts) : Fresh (furnished parts) where
  callFree := {
    connection := furnished_look parts .connection (by decide)
    pending := furnished_look parts .pending (by decide)
    tasks := furnished_look parts .tasks (by decide) }
  session := furnished_look parts .session (by decide)
  attached := furnished_look parts .attached (by decide)
  resolvers := furnished_look parts .resolvers (by decide)
  bootObservers := by simp [(furnished_observers parts).1]
  detachObservers := by simp [(furnished_observers parts).2]
  keys := {
    watchers := by
      obtain ⟨watchers, next⟩ := furnished_watchers parts
      simp [wiring, watchers, next]
    listeners := by simp [wiring, furnished_listeners parts]
    moduleListeners := by simp [wiring, furnished_moduleListeners parts] }
  watchers := by simp [(furnished_watchers parts).1]
  listeners := by simp [furnished_listeners parts]
  moduleListeners := by simp [furnished_moduleListeners parts]
  overrun := furnished_look parts .overrun (by decide)

/-! ### Once it is activated -/

/-- Until terminals of an earlier time are restored no shell has been started. -/
theorem wired_noShells (parts : ConsoleParts) : (wired parts).NoShells := by
  have shells := furnished_look parts .shells (by decide)
  have trace : (wired parts).trace = [] := furnished_look parts .trace (by decide)
  simp only [look, Prod.mk.injEq] at shells
  exact {
    registry := shells.1
    errands := shells.2.2.1
    tasks := (furnished_fresh parts).callFree.tasks
    trace := fun ticket total said => by simp [trace] at said }

theorem wired_streams (parts : ConsoleParts) : (wired parts).streams = [] :=
  furnished_look parts .streams (by decide)

theorem wired_host (parts : ConsoleParts) : (wired parts).host = parts.host :=
  furnished_look parts .host (by decide)

/-- What is left to do with the terminals of an earlier time. -/
def openingEvents (parts : ConsoleParts) : List ShellEvent :=
  if parts.persisted.isEmpty then [] else [.restores activationTicket parts.persisted]

/-- An activated console has restored the terminals of an earlier time, or waits for the user to
choose directories for them. -/
theorem activate?_eq {parts : ConsoleParts} {start : Console}
    (activated : activate? parts = some start) :
    start = (wired parts).runShells (openingEvents parts) := by
  unfold activate? at activated
  unfold openingEvents
  split at activated
  next => cases activated
  next =>
      split at activated
      next none => rw [if_pos none]; exact (Option.some.inj activated).symm
      next some => rw [if_neg some]; exact (Option.some.inj activated).symm

end Console

end RuntimeConsole
