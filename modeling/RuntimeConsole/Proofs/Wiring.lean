/-
Module: RuntimeConsole.Proofs.Wiring
Purpose: Where the session is registered for the time of a connection, and that it is
  registered nowhere once it has let go.
Main exports:
  Wiring, CycleKeys, Wiring.Idle, Wiring.Registered, Console.openCycle_wiring,
  Console.dispose_wiring
-/
import RuntimeConsole.Proofs.CallResolution

namespace RuntimeConsole

/-- Everybody who is registered somewhere, with the keys that come next: who follows
settings, rows and modules, which resolvers are at work, and how many debouncers there
are. -/
structure Wiring where
  watchers : List (Nat × SettingsListener)
  promptKey : Nat
  listeners : List (Nat × LineListener)
  lineKey : Nat
  moduleListeners : List (Nat × ModuleListener)
  moduleKey : Nat
  living : List Bool
  timers : Nat

/-- Under which keys the session is registered for the time of a connection. -/
structure CycleKeys where
  prompt : Nat
  lines : Nat
  resolver : Nat
  modules : Nat
  debouncer : Nat

/-- What the session holds under such keys. -/
def CycleKeys.cycle (keys : CycleKeys) : Cycle :=
  ⟨⟨[.settingsObserver keys.prompt, .lineListener keys.lines, .resolver keys.resolver,
    .moduleListener keys.modules, .debouncer keys.debouncer]⟩, some keys.resolver⟩

namespace Wiring

/-- The keys that come next. -/
def nextKeys (wiring : Wiring) : CycleKeys where
  prompt := wiring.promptKey
  lines := wiring.lineKey
  resolver := wiring.living.length
  modules := wiring.moduleKey
  debouncer := wiring.timers

/-- The session comes last in each place. -/
def register (wiring : Wiring) : Wiring where
  watchers := wiring.watchers ++ [(wiring.promptKey, .prompt)]
  promptKey := wiring.promptKey + 1
  listeners := wiring.listeners ++ [(wiring.lineKey, .resolver wiring.living.length)]
  lineKey := wiring.lineKey + 1
  moduleListeners := wiring.moduleListeners ++ [(wiring.moduleKey, .runtime wiring.timers)]
  moduleKey := wiring.moduleKey + 1
  living := wiring.living ++ [true]
  timers := wiring.timers + 1

/-- Whoever is registered under some keys goes. -/
def unregister (wiring : Wiring) (keys : CycleKeys) : Wiring :=
  { wiring with
    watchers := wiring.watchers.filter fun entry => entry.1 != keys.prompt
    listeners := wiring.listeners.filter fun entry => entry.1 != keys.lines
    moduleListeners := wiring.moduleListeners.filter fun entry => entry.1 != keys.modules
    living := wiring.living.set keys.resolver false }

/-- Keys given away are behind the next ones. -/
structure InOrder (wiring : Wiring) : Prop where
  watchers : ∀ entry ∈ wiring.watchers, entry.1 < wiring.promptKey
  listeners : ∀ entry ∈ wiring.listeners, entry.1 < wiring.lineKey
  moduleListeners : ∀ entry ∈ wiring.moduleListeners, entry.1 < wiring.moduleKey

/-- Nobody is registered but those who were there before the session, and no resolver is
at work. -/
structure Idle (base wiring : Wiring) : Prop where
  watchers : wiring.watchers = base.watchers
  listeners : wiring.listeners = base.listeners
  moduleListeners : wiring.moduleListeners = base.moduleListeners
  promptKey : base.promptKey ≤ wiring.promptKey
  lineKey : base.lineKey ≤ wiring.lineKey
  moduleKey : base.moduleKey ≤ wiring.moduleKey
  living : ∀ id : Nat, wiring.living[id]? ≠ some true

/-- The session is registered once in each place, after those who were there before it,
and its resolver is the only one at work. -/
structure Registered (base : Wiring) (keys : CycleKeys) (wiring : Wiring) : Prop where
  watchers : wiring.watchers = base.watchers ++ [(keys.prompt, .prompt)]
  listeners : wiring.listeners = base.listeners ++ [(keys.lines, .resolver keys.resolver)]
  moduleListeners : wiring.moduleListeners =
    base.moduleListeners ++ [(keys.modules, .runtime keys.debouncer)]
  promptKey : base.promptKey ≤ keys.prompt ∧ keys.prompt < wiring.promptKey
  lineKey : base.lineKey ≤ keys.lines ∧ keys.lines < wiring.lineKey
  moduleKey : base.moduleKey ≤ keys.modules ∧ keys.modules < wiring.moduleKey
  living : ∀ id : Nat, wiring.living[id]? = some true ↔ id = keys.resolver

theorem Idle.register {base wiring : Wiring} (idle : Idle base wiring) :
    Registered base wiring.nextKeys wiring.register where
  watchers := by rw [Wiring.register, idle.watchers, nextKeys]
  listeners := by rw [Wiring.register, idle.listeners, nextKeys]
  moduleListeners := by rw [Wiring.register, idle.moduleListeners, nextKeys]
  promptKey := ⟨idle.promptKey, Nat.lt_succ_self _⟩
  lineKey := ⟨idle.lineKey, Nat.lt_succ_self _⟩
  moduleKey := ⟨idle.moduleKey, Nat.lt_succ_self _⟩
  living id := by
    have before := idle.living id
    change (wiring.living ++ [true])[id]? = some true ↔ id = wiring.living.length
    rcases Nat.lt_trichotomy id wiring.living.length with inside | rfl | outside
    · rw [List.getElem?_append_left inside]
      exact iff_of_false before (Nat.ne_of_lt inside)
    · simp
    · rw [List.getElem?_eq_none (by simp; omega)]
      exact iff_of_false (by simp) (Nat.ne_of_gt outside)

/-- The entry that came last under a key of its own is the one that goes. -/
theorem filter_key_concat {Item : Type} {entries : List (Nat × Item)} {bound key : Nat}
    (below : ∀ entry ∈ entries, entry.1 < bound) (behind : bound ≤ key) (item : Item) :
    (entries ++ [(key, item)]).filter (fun entry => entry.1 != key) = entries := by
  rw [List.filter_append, List.filter_eq_self.mpr]
  · simp
  · intro entry member
    have := below entry member
    simp
    omega

theorem Registered.unregister {base wiring : Wiring} {keys : CycleKeys} (ordered : base.InOrder)
    (registered : Registered base keys wiring) : Idle base (wiring.unregister keys) where
  watchers := by
    rw [Wiring.unregister, registered.watchers]
    exact filter_key_concat ordered.watchers registered.promptKey.1 _
  listeners := by
    rw [Wiring.unregister, registered.listeners]
    exact filter_key_concat ordered.listeners registered.lineKey.1 _
  moduleListeners := by
    rw [Wiring.unregister, registered.moduleListeners]
    exact filter_key_concat ordered.moduleListeners registered.moduleKey.1 _
  promptKey := Nat.le_trans registered.promptKey.1 (Nat.le_of_lt registered.promptKey.2)
  lineKey := Nat.le_trans registered.lineKey.1 (Nat.le_of_lt registered.lineKey.2)
  moduleKey := Nat.le_trans registered.moduleKey.1 (Nat.le_of_lt registered.moduleKey.2)
  living id := by
    have before := registered.living id
    change (wiring.living.set keys.resolver false)[id]? ≠ some true
    rw [List.getElem?_set]
    split
    next => split <;> simp
    next other => exact fun alive => other (before.mp alive).symm

end Wiring

namespace Console

/-- Everybody who is registered somewhere in a console. -/
def wiring (console : Console) : Wiring where
  watchers := console.watchers
  promptKey := console.settings.nextKey
  listeners := console.terminal.listeners
  lineKey := console.terminal.nextListener
  moduleListeners := console.modules.listeners
  moduleKey := console.modules.nextKey
  living := console.resolvers.map Resolver.alive
  timers := console.debouncers.length

/-- Where nobody comes and nobody goes. -/
theorem wiring_of_changes {aspects : List Aspect} {before after : Console}
    (step : Changes aspects before after)
    (apart : [.watchers, .listeners, .moduleListeners, .living, .timers].all (· ∉ aspects) = true) :
    after.wiring = before.wiring := by
  have watchers := step.kept apart .watchers (by decide)
  have listeners := step.kept apart .listeners (by decide)
  have modules := step.kept apart .moduleListeners (by decide)
  have living := step.kept apart .living (by decide)
  have timers := step.kept apart .timers (by decide)
  simp only [look, Prod.mk.injEq] at watchers listeners modules living timers
  simp only [wiring, watchers, listeners, modules, living, timers]

/-! ### Registering -/

theorem observePrompt_wiring (console : Console) :
    console.observePrompt.1.wiring =
      { console.wiring with
        watchers := console.wiring.watchers ++ [(console.wiring.promptKey, .prompt)]
        promptKey := console.wiring.promptKey + 1 } := by
  have told := wiring_of_changes (console.send_changes "changeprompt"
    [.str (console.settings.current.prompt ++ " ")]) (by decide)
  have added : console.observePrompt.1.wiring =
      { (console.send "changeprompt" [.str (console.settings.current.prompt ++ " ")]).wiring with
        watchers := console.wiring.watchers ++ [(console.wiring.promptKey, .prompt)]
        promptKey := console.wiring.promptKey + 1 } := by
    simp [observePrompt, observeSettings, wiring, watchers, Store.observe, settingsListenerSees]
  rw [added, told]

theorem addResolver_wiring (console : Console) :
    console.addResolver.1.wiring =
      { console.wiring with living := console.wiring.living ++ [true] } := by
  simp [addResolver, wiring, watchers, Resolver.fresh]

theorem addLineListener_wiring (console : Console) (listener : LineListener) :
    (console.addLineListener listener).1.wiring =
      { console.wiring with
        listeners := console.wiring.listeners ++ [(console.wiring.lineKey, listener)]
        lineKey := console.wiring.lineKey + 1 } := by
  have told : ∀ (changes : List LineChange) (console : Console),
      Changes [.resolvers, .tasks, .trace] console
        (changes.foldl (fun console change => console.listenerSeesLine change listener) console) :=
    fun changes console => .foldl (fun console change =>
      console.listenerSeesLine_changes change listener) changes console
  exact wiring_of_changes (told _ _) (by decide)

theorem addDebouncer_wiring (console : Console) (delay : Nat) :
    (console.addDebouncer delay).1.wiring =
      { console.wiring with timers := console.wiring.timers + 1 } := by
  simp [addDebouncer, wiring, watchers]

theorem listenModules_wiring (console : Console) (listener : ModuleListener) :
    (console.listenModules listener).1.wiring =
      { console.wiring with
        moduleListeners :=
          console.wiring.moduleListeners ++ [(console.wiring.moduleKey, listener)]
        moduleKey := console.wiring.moduleKey + 1 } := rfl

/-- The session is registered once in each place, under the next keys. -/
theorem openCycle_wiring (console : Console) :
    console.openCycle.1.wiring = console.wiring.register ∧
      console.openCycle.2 = console.wiring.nextKeys.cycle := by
  have resolverKey (console : Console) : console.addResolver.2 = console.wiring.living.length := by
    simp [addResolver, wiring]
  have lineKey (console : Console) (listener : LineListener) :
      (console.addLineListener listener).2 = console.wiring.lineKey := rfl
  have debouncerKey (console : Console) (delay : Nat) :
      (console.addDebouncer delay).2 = console.wiring.timers := rfl
  have moduleKey (console : Console) (listener : ModuleListener) :
      (console.listenModules listener).2 = console.wiring.moduleKey := rfl
  have promptKey : console.observePrompt.2 = console.wiring.promptKey := rfl
  simp only [openCycle, listenModules_wiring, addDebouncer_wiring, addLineListener_wiring,
    addResolver_wiring, observePrompt_wiring, resolverKey, lineKey, debouncerKey, moduleKey,
    promptKey]
  exact ⟨rfl, rfl⟩

/-! ### Letting go -/

theorem release_settingsObserver_wiring (console : Console) (key : Nat) :
    (console.release (.settingsObserver key)).wiring =
      { console.wiring with
        watchers := console.wiring.watchers.filter fun entry => entry.1 != key } := by
  simp [release, wiring, watchers, Store.release, List.filter_map, Function.comp_def]

theorem release_lineListener_wiring (console : Console) (key : Nat) :
    (console.release (.lineListener key)).wiring =
      { console.wiring with
        listeners := console.wiring.listeners.filter fun entry => entry.1 != key } := rfl

theorem release_resolver_wiring (console : Console) (id : Nat) :
    (console.release (.resolver id)).wiring =
      { console.wiring with living := console.wiring.living.set id false } := by
  unfold release
  dsimp only
  split
  next resolver found =>
      have shut : (console.resolvers.set id resolver.shutdown).map Resolver.alive =
          (console.resolvers.map Resolver.alive).set id false := List.map_set ..
      simp [wiring, watchers, setResolver, shut]
  next absent =>
      have outside : console.wiring.living.length ≤ id := by
        simpa [wiring] using absent
      rw [List.set_eq_of_length_le outside]

theorem release_moduleListener_wiring (console : Console) (key : Nat) :
    (console.release (.moduleListener key)).wiring =
      { console.wiring with
        moduleListeners := console.wiring.moduleListeners.filter fun entry => entry.1 != key } :=
  rfl

theorem release_debouncer_wiring (console : Console) (id : Nat) :
    (console.release (.debouncer id)).wiring = console.wiring :=
  wiring_of_changes (console.cancelDebounced_changes id) (by decide)

/-- What the session held is registered nowhere any more. -/
theorem dispose_wiring (console : Console) (keys : CycleKeys) :
    (console.dispose keys.cycle.disposables).wiring = console.wiring.unregister keys := by
  simp only [dispose, Disposables.releaseOrder, CycleKeys.cycle, List.reverse_cons,
    List.reverse_nil, List.nil_append, List.cons_append, List.foldl_cons, List.foldl_nil,
    release_debouncer_wiring, release_moduleListener_wiring, release_resolver_wiring,
    release_lineListener_wiring, release_settingsObserver_wiring]
  rfl

end Console

end RuntimeConsole
