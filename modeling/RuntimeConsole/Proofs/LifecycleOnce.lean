/-
Module: RuntimeConsole.Proofs.LifecycleOnce
Purpose: Whoever follows connections is told of each exactly once, for as long as the subscription
  lasts, and ends of connections that are gone are ignored.
Main exports:
  Embedding.InStep, Embedding.inStep_apply, Embedding.InStep.tells, TakesTurns, Pair,
  Embedding.InStep.story_turns, Pair.Throughout.alternates, lifecycle_once
-/
import RuntimeConsole.Console.Following
import RuntimeConsole.Proofs.CallResolution
import RuntimeConsole.Proofs.LifecycleQuiet

namespace RuntimeConsole

/-! ### Subscriptions and observers -/

namespace Subscribed

theorem release_of_bootObserver? {subscribed : Subscribed} {key : Nat} {observer : BootObserver}
    (entry : subscribed.bootObserver? = some (key, observer)) :
    subscribed.release = .clientObserver key ∧ subscribed.follower = .boots observer := by
  unfold bootObserver? at entry
  split at entry
  next =>
      obtain ⟨rfl, rfl⟩ := Prod.mk.inj (Option.some.inj entry)
      exact ⟨rfl, rfl⟩
  next => cases entry

theorem release_of_detachObserver? {subscribed : Subscribed} {key : Nat} {observer : DetachObserver}
    (entry : subscribed.detachObserver? = some (key, observer)) :
    subscribed.release = .clientObserver key ∧ subscribed.follower = .detaches observer := by
  unfold detachObserver? at entry
  split at entry
  next =>
      obtain ⟨rfl, rfl⟩ := Prod.mk.inj (Option.some.inj entry)
      exact ⟨rfl, rfl⟩
  next => cases entry

theorem bootObserver?_ended (subscribed : Subscribed) : subscribed.ended.bootObserver? = none := by
  obtain ⟨release, follower, live⟩ := subscribed
  cases release <;> cases follower <;> rfl

theorem detachObserver?_ended (subscribed : Subscribed) :
    subscribed.ended.detachObserver? = none := by
  obtain ⟨release, follower, live⟩ := subscribed
  cases release <;> cases follower <;> rfl

section

variable {subscriptions : List Subscribed} {place : Nat} {subscribed : Subscribed}
  (found : subscriptions[place]? = some subscribed)
include found

theorem map_release_set_ended :
    (subscriptions.set place subscribed.ended).map release = subscriptions.map release := by
  obtain ⟨inside, rfl⟩ := List.getElem?_eq_some_iff.mp found
  have same : (subscriptions[place]).ended.release = (subscriptions[place]).release := rfl
  rw [List.map_set, same, ← List.getElem_map release, List.set_getElem_self]
  simpa using inside

/-- The end of a subscription changes neither what anybody does to end one nor who is told. -/
theorem of_mem_set_ended {other : Subscribed}
    (member : other ∈ subscriptions.set place subscribed.ended) :
    ∃ old ∈ subscriptions, other.release = old.release ∧ other.follower = old.follower := by
  rcases List.mem_or_eq_of_mem_set member with old | rfl
  · exact ⟨other, old, rfl, rfl⟩
  · exact ⟨subscribed, List.mem_of_getElem? found, rfl, rfl⟩

end

section

variable {Observer : Type} {observer? : Subscribed → Option (Nat × Observer)}
  (owned : ∀ subscribed key observer, observer? subscribed = some (key, observer) →
    subscribed.release = .clientObserver key)
include owned

/-- Different subscriptions have different numbers. -/
theorem keys_nodup {subscriptions : List Subscribed}
    (distinct : (subscriptions.map Subscribed.release).Nodup) :
    ((subscriptions.filterMap observer?).map Prod.fst).Nodup := by
  rw [List.Nodup, List.pairwise_map] at distinct ⊢
  rw [List.pairwise_filterMap]
  refine distinct.imp fun different first firstEntry second secondEntry same => different ?_
  rw [owned _ _ _ firstEntry, owned _ _ _ secondEntry, same]

/-- The end of a subscription removes its own entry and no other. -/
theorem filterMap_set_ended (gone : ∀ subscribed : Subscribed, observer? subscribed.ended = none)
    {subscriptions : List Subscribed} (distinct : (subscriptions.map Subscribed.release).Nodup)
    {place key : Nat} {subscribed : Subscribed} (found : subscriptions[place]? = some subscribed)
    (released : subscribed.release = .clientObserver key) :
    (subscriptions.set place subscribed.ended).filterMap observer? =
      (subscriptions.filterMap observer?).filter fun entry => entry.1 != key := by
  induction subscriptions generalizing place with
  | nil => cases found
  | cons first rest inductionHypothesis =>
      rw [List.map_cons, List.nodup_cons] at distinct
      cases place with
      | zero =>
          obtain rfl := Option.some.inj found
          have others : (rest.filterMap observer?).filter (fun entry => entry.1 != key) =
              rest.filterMap observer? := by
            rw [List.filter_eq_self]
            intro entry member
            obtain ⟨other, otherMember, otherEntry⟩ := List.mem_filterMap.mp member
            rw [bne_iff_ne]
            rintro rfl
            apply distinct.1
            rw [released, ← owned other entry.1 entry.2 otherEntry]
            exact List.mem_map_of_mem otherMember
          rw [List.set_cons_zero, List.filterMap_cons_none (gone first)]
          cases here : observer? first with
          | none => rw [List.filterMap_cons_none here, others]
          | some entry =>
              have same : entry.1 = key := by
                have both := (owned first entry.1 entry.2 here).symm.trans released
                exact Release.clientObserver.inj both
              rw [List.filterMap_cons_some here, List.filter_cons_of_neg (by simp [same]), others]
      | succ place =>
          have later := inductionHypothesis distinct.2 found
          rw [List.set_cons_succ]
          cases here : observer? first with
          | none => rw [List.filterMap_cons_none here, List.filterMap_cons_none here, later]
          | some entry =>
              have different : (entry.1 != key) = true := by
                rw [bne_iff_ne]
                rintro rfl
                apply distinct.1
                rw [owned first entry.1 entry.2 here, ← released]
                exact List.mem_map_of_mem (List.mem_of_getElem? found)
              rw [List.filterMap_cons_some here, List.filterMap_cons_some here, List.filter_cons,
                if_pos different, later]

end

end Subscribed

/-! ### Programs and their consoles -/

/-- Whether a use puts no observer in place that has an effect on connections. -/
def Use.quiet : Use → Bool
  | .follow follower => follower.actions.all ClientAction.passive
  | .connect _ | .disconnect | .endConnection _ | .call .. | .release _ => true

namespace Embedding

/-- The observers of a console are the live subscriptions of its program. -/
structure InStep (now : Embedding) : Prop where
  boots : now.console.client.bootObservers = now.liveBoots
  detaches : now.console.client.detachObservers = now.liveDetaches
  /-- Every subscription has a number of its own, which has been given away. -/
  distinct : (now.subscriptions.map Subscribed.release).Nodup
  numbered : ∀ subscribed ∈ now.subscriptions,
    ∃ key < now.console.client.nextId, subscribed.release = .clientObserver key
  quiet : ∀ subscribed ∈ now.subscriptions,
    subscribed.follower.actions.all ClientAction.passive = true
  connection : ∀ id, now.console.connectionId? = some id → id < now.console.client.nextId
  aside : now.console.CycleAside
  ran : now.console.overrun = false

variable {now : Embedding}

theorem InStep.consoleQuiet (inStep : now.InStep) : now.console.Quiet where
  boots entry member := by
    rw [inStep.boots] at member
    obtain ⟨key, observer⟩ := entry
    obtain ⟨subscribed, taken, found⟩ := List.mem_filterMap.mp member
    have follower := (Subscribed.release_of_bootObserver? found).2
    have quiet := inStep.quiet subscribed taken
    rwa [follower] at quiet
  detaches entry member := by
    rw [inStep.detaches] at member
    obtain ⟨key, observer⟩ := entry
    obtain ⟨subscribed, taken, found⟩ := List.mem_filterMap.mp member
    have follower := (Subscribed.release_of_detachObserver? found).2
    have quiet := inStep.quiet subscribed taken
    rwa [follower] at quiet

theorem InStep.partings_eq (inStep : now.InStep) : now.console.partings = now.partings := by
  rw [Console.partings, partings]
  cases now.console.connectionId? with
  | none => rfl
  | some id =>
      have same := congrArg (List.map fun entry => Notice.toldDetach id entry.1) inStep.detaches
      exact congrArg (.ended id :: ·) same

theorem InStep.greetings_eq (inStep : now.InStep) : now.console.greetings = now.greetings := by
  rw [Console.greetings, greetings, inStep.boots]

/-- A console that has the same observers, and no fewer numbers given away, is in step too. -/
theorem InStep.console (inStep : now.InStep) {after : Console}
    (observers : (after.client.bootObservers, after.client.detachObservers) =
      (now.console.client.bootObservers, now.console.client.detachObservers))
    (nextId : now.console.client.nextId ≤ after.client.nextId)
    (connection : ∀ id, after.connectionId? = some id → id < after.client.nextId)
    (aside : after.CycleAside) (ran : after.overrun = false) :
    InStep { now with console := after } where
  boots := (congrArg Prod.fst observers).trans inStep.boots
  detaches := (congrArg Prod.snd observers).trans inStep.detaches
  distinct := inStep.distinct
  numbered subscribed member := by
    obtain ⟨key, given, released⟩ := inStep.numbered subscribed member
    exact ⟨key, Nat.lt_of_lt_of_le given nextId, released⟩
  quiet := inStep.quiet
  connection := connection
  aside := aside
  ran := ran

/-! ### What one use does -/

theorem InStep.connect (inStep : now.InStep) (spec : ProcessSpec) :
    InStep (now.apply (.connect spec)) ∧
      (now.apply (.connect spec)).console.connectionId? = some now.console.client.nextId ∧
      (now.apply (.connect spec)).console.client.nextId = now.console.client.nextId + 1 ∧
      ∀ log, now.Tells (.connect spec) log ↔ log = now.due (.connect spec) := by
  obtain ⟨spared, tells⟩ :=
    now.console.connect_told inStep.consoleQuiet inStep.aside inStep.ran spec
  refine ⟨?_, spared.connection, spared.nextId, ?_⟩
  · refine inStep.console spared.observers ?_ ?_ spared.aside (spared.overrun.trans inStep.ran)
    · exact spared.nextId ▸ Nat.le_succ now.console.client.nextId
    · intro id connected
      obtain rfl := Option.some.inj (spared.connection.symm.trans connected)
      exact spared.nextId ▸ Nat.lt_succ_self now.console.client.nextId
  · rw [inStep.partings_eq, inStep.greetings_eq] at tells
    exact tells

theorem InStep.disconnect (inStep : now.InStep) :
    InStep (now.apply .disconnect) ∧
      (now.apply .disconnect).console.connectionId? = none ∧
      (now.apply .disconnect).console.client.nextId = now.console.client.nextId ∧
      ∀ log, now.Tells .disconnect log ↔ log = now.due .disconnect := by
  obtain ⟨spared, tells⟩ :=
    now.console.disconnect_told inStep.consoleQuiet inStep.aside inStep.ran
  refine ⟨?_, spared.connection, spared.nextId, ?_⟩
  · refine inStep.console spared.observers ?_ ?_ spared.aside (spared.overrun.trans inStep.ran)
    · exact Nat.le_of_eq spared.nextId.symm
    · intro id connected
      exact absurd (spared.connection.symm.trans connected) nofun
  · rw [inStep.partings_eq] at tells
    exact tells

/-- The end of a connection that is gone is ignored. -/
theorem endConnection_stale {id : Nat} (stale : now.console.connectionId? ≠ some id) :
    now.apply (.endConnection id) = now := by
  have same : now.console.endConnection id = now.console := if_neg stale
  rw [apply, same]

theorem endConnection_live {id : Nat} (live : now.console.connectionId? = some id) :
    now.apply (.endConnection id) = now.apply .disconnect := by
  have same : now.console.endConnection id = now.console.disconnect := if_pos live
  rw [apply, apply, same]

theorem InStep.endConnection (inStep : now.InStep) (id : Nat) :
    InStep (now.apply (.endConnection id)) ∧
      ∀ log, now.Tells (.endConnection id) log ↔ log = now.due (.endConnection id) := by
  by_cases live : now.console.connectionId? = some id
  · obtain ⟨kept, -, -, tells⟩ := inStep.disconnect
    refine ⟨(endConnection_live live).symm ▸ kept, fun log => ?_⟩
    rw [Tells, due, if_pos live, if_pos live, endConnection_live live]
    exact tells log
  · refine ⟨(endConnection_stale live).symm ▸ inStep, fun log => ?_⟩
    rw [Tells, due, if_neg live, if_neg live]

theorem InStep.call (inStep : now.InStep) (ticket : Nat) (expected : Expectation) (name : String)
    (args : List Json) : InStep (now.apply (.call ticket expected name args)) := by
  have called := now.console.call_changes name args (.guest ticket expected)
  have ran := (called.same .overrun (by decide)).trans inStep.ran
  have nextId := (now.console.callStep_apply (.call ticket expected name args) ran).nextId
  have connection : (now.console.call name args (.guest ticket expected)).connectionId? =
      now.console.connectionId? :=
    congrArg (Option.map Connection.id) (called.same .connection (by decide))
  refine inStep.console (called.same .observers (by decide)) nextId ?_
    (inStep.aside.of_same (called.same .session (by decide))) ran
  intro id connected
  exact Nat.lt_of_lt_of_le (inStep.connection id (connection.symm.trans connected)) nextId

/-- A subscription that is taken comes after those there are, under a number of its own. -/
theorem InStep.add (inStep : now.InStep) {taken : Subscribed} {after : Console}
    (released : taken.release = .clientObserver now.console.client.nextId)
    (quiet : taken.follower.actions.all ClientAction.passive = true)
    (boots : after.client.bootObservers =
      now.console.client.bootObservers ++ taken.bootObserver?.toList)
    (detaches : after.client.detachObservers =
      now.console.client.detachObservers ++ taken.detachObserver?.toList)
    (nextId : after.client.nextId = now.console.client.nextId + 1)
    (connection : after.connectionId? = now.console.connectionId?)
    (session : after.session = now.console.session)
    (overrun : after.overrun = now.console.overrun) :
    InStep ⟨after, now.subscriptions ++ [taken]⟩ where
  boots := by
    rw [liveBoots, List.filterMap_append, boots, inStep.boots, liveBoots]
    cases entry : taken.bootObserver? <;> simp [entry]
  detaches := by
    rw [liveDetaches, List.filterMap_append, detaches, inStep.detaches, liveDetaches]
    cases entry : taken.detachObserver? <;> simp [entry]
  distinct := by
    rw [List.map_append, List.nodup_append]
    refine ⟨inStep.distinct, by simp, ?_⟩
    rintro release member other last rfl
    obtain ⟨subscribed, old, rfl⟩ := List.mem_map.mp member
    obtain ⟨key, given, oldReleased⟩ := inStep.numbered subscribed old
    have same : subscribed.release = taken.release := List.mem_singleton.mp last
    rw [oldReleased, released] at same
    exact absurd (Release.clientObserver.inj same) (Nat.ne_of_lt given)
  numbered subscribed member := by
    rw [nextId]
    rcases List.mem_append.mp member with old | last
    · obtain ⟨key, given, released⟩ := inStep.numbered subscribed old
      exact ⟨key, Nat.lt_succ_of_lt given, released⟩
    · obtain rfl := List.mem_singleton.mp last
      exact ⟨now.console.client.nextId, Nat.lt_succ_self _, released⟩
  quiet subscribed member := by
    rcases List.mem_append.mp member with old | last
    · exact inStep.quiet subscribed old
    · obtain rfl := List.mem_singleton.mp last
      exact quiet
  connection id connected := by
    rw [nextId]
    exact Nat.lt_succ_of_lt (inStep.connection id (connection.symm.trans connected))
  aside := inStep.aside.of_same session
  ran := overrun.trans inStep.ran

theorem InStep.follow (inStep : now.InStep) {follower : Follower}
    (quiet : follower.actions.all ClientAction.passive = true) :
    InStep (now.apply (.follow follower)) := by
  cases follower with
  | boots observer =>
      exact inStep.add rfl quiet rfl (List.append_nil _).symm rfl rfl rfl rfl
  | detaches observer =>
      exact inStep.add rfl quiet (List.append_nil _).symm rfl rfl rfl rfl rfl

/-- A subscription that is ended keeps its place and its number, so no other is ended with it. -/
theorem InStep.release (inStep : now.InStep) (place : Nat) :
    InStep (now.apply (.release place)) := by
  rw [apply, Embedding.release]
  cases found : now.subscriptions[place]? with
  | none => exact inStep
  | some subscribed =>
      have taken := List.mem_of_getElem? found
      obtain ⟨key, -, released⟩ := inStep.numbered subscribed taken
      have removed : now.console.release subscribed.release =
          now.console.withClient (now.console.client.removeObserver key) := by
        rw [released, Console.release]
      have boots := Subscribed.filterMap_set_ended
        (fun _ _ _ entry => (Subscribed.release_of_bootObserver? entry).1)
        Subscribed.bootObserver?_ended inStep.distinct found released
      have detaches := Subscribed.filterMap_set_ended
        (fun _ _ _ entry => (Subscribed.release_of_detachObserver? entry).1)
        Subscribed.detachObserver?_ended inStep.distinct found released
      dsimp only
      rw [removed]
      refine ⟨?_, ?_, ?_, ?_, ?_, inStep.connection, inStep.aside, inStep.ran⟩
      · rw [liveBoots, boots, ← liveBoots, ← inStep.boots]
        rfl
      · rw [liveDetaches, detaches, ← liveDetaches, ← inStep.detaches]
        rfl
      · rw [Subscribed.map_release_set_ended found]
        exact inStep.distinct
      · intro other member
        obtain ⟨old, oldMember, release, -⟩ := Subscribed.of_mem_set_ended found member
        rw [release]
        exact inStep.numbered old oldMember
      · intro other member
        obtain ⟨old, oldMember, -, follower⟩ := Subscribed.of_mem_set_ended found member
        rw [follower]
        exact inStep.quiet old oldMember

/-- To take or end a subscription is nothing to the connection, nor to anything but the client. -/
theorem InStep.subscription (inStep : now.InStep) {use : Use}
    (isSubscription : use.isSubscription) :
    ∃ client, (now.apply use).console = now.console.withClient client ∧
      client.connection = now.console.client.connection ∧
      now.console.client.nextId ≤ client.nextId := by
  cases use with
  | follow follower =>
      cases follower <;> exact ⟨_, rfl, rfl, Nat.le_succ now.console.client.nextId⟩
  | release place =>
      rw [apply, Embedding.release]
      cases found : now.subscriptions[place]? with
      | none => exact ⟨now.console.client, rfl, rfl, Nat.le_refl _⟩
      | some subscribed =>
          obtain ⟨key, -, released⟩ := inStep.numbered subscribed (List.mem_of_getElem? found)
          refine ⟨now.console.client.removeObserver key, ?_, rfl, Nat.le_refl _⟩
          exact congrArg now.console.release released
  | connect spec => cases isSubscription
  | disconnect => cases isSubscription
  | endConnection id => cases isSubscription
  | call ticket expected name args => cases isSubscription

/-- Whatever a program does with its client, its live subscriptions stay the observers. -/
theorem inStep_apply (inStep : now.InStep) {use : Use} (quiet : use.quiet = true) :
    InStep (now.apply use) := by
  cases use with
  | connect spec => exact (inStep.connect spec).1
  | disconnect => exact inStep.disconnect.1
  | endConnection id => exact (inStep.endConnection id).1
  | call ticket expected name args => exact inStep.call ticket expected name args
  | follow follower => exact inStep.follow quiet
  | release place => exact inStep.release place

theorem inStep_run (inStep : now.InStep) {uses : List Use}
    (quiet : ∀ use ∈ uses, use.quiet = true) : InStep (now.run uses) := by
  induction uses generalizing now with
  | nil => exact inStep
  | cons use uses inductionHypothesis =>
      exact inductionHypothesis (inStep_apply inStep (quiet use List.mem_cons_self))
        fun other member => quiet other (List.mem_cons_of_mem use member)

/-- What is told is what is due. -/
theorem InStep.tells (inStep : now.InStep) (use : Use) (log : List Notice) :
    now.Tells use log ↔ log = now.due use := by
  cases use with
  | connect spec => exact (inStep.connect spec).2.2.2 log
  | disconnect => exact inStep.disconnect.2.2.2 log
  | endConnection id => exact (inStep.endConnection id).2 log
  | call ticket expected name args => exact Iff.rfl
  | follow follower => exact Iff.rfl
  | release place => exact Iff.rfl

end Embedding

/-! ### Pairs of followers -/

/-- The connection a notice says has begun, if it says so. -/
def Notice.began? : Notice → Option Nat
  | .began id => some id
  | .ended _ | .toldBoot .. | .toldDetach .. => none

/-- Connections begin and end in turn, where `current` is the one there is at first. -/
def TakesTurns : Option Nat → List Notice → Prop
  | _, [] => True
  | none, .began id :: rest => TakesTurns (some id) rest
  | some current, .ended id :: rest => id = current ∧ TakesTurns none rest
  | _, _ :: _ => False

/-- A follower of beginnings and one of ends, each with the place of its subscription and its
number. -/
structure Pair where
  bootPlace : Nat
  bootKey : Nat
  detachPlace : Nat
  detachKey : Nat

namespace Pair

/-- What a pair learns from a notice. -/
def sees? (pair : Pair) : Notice → Option Notice
  | .toldBoot id key => if key = pair.bootKey then some (.began id) else none
  | .toldDetach id key => if key = pair.detachKey then some (.ended id) else none
  | .began _ | .ended _ => none

/-- The subscriptions of a pair are live and stay so. -/
structure Throughout (pair : Pair) (now : Embedding) (uses : List Use) : Prop where
  boots : ∃ observer,
    now.subscriptions[pair.bootPlace]? = some ⟨.clientObserver pair.bootKey, .boots observer, true⟩
  detaches : ∃ observer,
    now.subscriptions[pair.detachPlace]? =
      some ⟨.clientObserver pair.detachKey, .detaches observer, true⟩
  kept : ∀ use ∈ uses, use ≠ .release pair.bootPlace ∧ use ≠ .release pair.detachPlace

/-- A pair learns of every beginning and of every end, once and in turn, and no connection begins
twice. -/
structure Alternates (pair : Pair) (current : Option Nat) (log : List Notice) : Prop where
  once : log.filterMap pair.sees? = log.filter Notice.turns
  turns : TakesTurns current (log.filterMap pair.sees?)
  fresh : (current.toList ++ (log.filterMap pair.sees?).filterMap Notice.began?).Pairwise (· < ·)

end Pair

/-! ### Turns -/

namespace Embedding

variable {now : Embedding}

theorem turns_of_told {Item : Type} {items : List Item} {tell : Item → Notice}
    (told : ∀ item, (tell item).turns = false) : (items.map tell).filter Notice.turns = [] := by
  rw [List.filter_eq_nil_iff]
  rintro notice member
  obtain ⟨item, -, rfl⟩ := List.mem_map.mp member
  exact Bool.eq_false_iff.mp (told item)

theorem partings_turns (now : Embedding) :
    now.partings.filter Notice.turns =
      (now.console.connectionId?.map Notice.ended).toList := by
  rw [partings]
  cases now.console.connectionId? with
  | none => rfl
  | some id =>
      dsimp only
      rw [List.filter_cons_of_pos rfl, turns_of_told fun _ => rfl]
      rfl

theorem greetings_turns (now : Embedding) :
    now.greetings.filter Notice.turns = [.began now.console.client.nextId] := by
  rw [greetings, List.filter_cons_of_pos rfl, turns_of_told fun _ => rfl]

/-- The connection there is ends before another begins. -/
theorem takesTurns_partings {rest : List Notice} (turns : TakesTurns none rest) :
    TakesTurns now.console.connectionId? (now.partings.filter Notice.turns ++ rest) := by
  rw [partings_turns]
  cases now.console.connectionId? with
  | none => exact turns
  | some id => exact ⟨rfl, turns⟩

theorem partings_began (now : Embedding) :
    (now.partings.filter Notice.turns).filterMap Notice.began? = [] := by
  rw [partings_turns]
  cases now.console.connectionId? <;> rfl

/-- The turns of one use, with the connections that are numbered in it. -/
structure Turns (now : Embedding) (use : Use) : Prop where
  nextId : now.console.client.nextId ≤ (now.apply use).console.client.nextId
  turns : ∀ rest, TakesTurns (now.apply use).console.connectionId? rest →
    TakesTurns now.console.connectionId? ((now.due use).filter Notice.turns ++ rest)
  began : ∀ id ∈ ((now.due use).filter Notice.turns).filterMap Notice.began?,
    now.console.client.nextId ≤ id ∧ id < (now.apply use).console.client.nextId
  increasing : (((now.due use).filter Notice.turns).filterMap Notice.began?).Pairwise (· < ·)

/-- A use in which nothing happens to connections. -/
theorem Turns.of_silent {use : Use} (silent : now.due use = [])
    (nextId : now.console.client.nextId ≤ (now.apply use).console.client.nextId)
    (connection : (now.apply use).console.connectionId? = now.console.connectionId?) :
    Turns now use where
  nextId := nextId
  turns rest turns := by
    rw [silent]
    rwa [connection] at turns
  began := by
    rw [silent]
    exact nofun
  increasing := by
    rw [silent]
    exact .nil

theorem InStep.turns_subscription (inStep : now.InStep) {use : Use}
    (isSubscription : use.isSubscription) (silent : now.due use = []) : Turns now use := by
  obtain ⟨client, changed, connection, nextId⟩ := inStep.subscription isSubscription
  refine .of_silent silent ?_ ?_ <;> rw [changed]
  · exact nextId
  · exact congrArg (Option.map Connection.id) connection

theorem InStep.turns_disconnect (inStep : now.InStep) : Turns now .disconnect := by
  obtain ⟨-, connection, nextId, -⟩ := inStep.disconnect
  refine ⟨Nat.le_of_eq nextId.symm, ?_, ?_, ?_⟩
  · intro rest turns
    rw [connection] at turns
    exact takesTurns_partings turns
  · rw [due, partings_began]
    exact nofun
  · rw [due, partings_began]
    exact .nil

/-- Every use lets connections begin and end in turn, under numbers of their own. -/
theorem InStep.turns (inStep : now.InStep) (use : Use) : Turns now use := by
  cases use with
  | connect spec =>
      obtain ⟨-, connection, nextId, -⟩ := inStep.connect spec
      have began : ((now.due (.connect spec)).filter Notice.turns).filterMap Notice.began? =
          [now.console.client.nextId] := by
        rw [due, List.filter_append, List.filterMap_append, partings_began, greetings_turns]
        rfl
      refine ⟨nextId ▸ Nat.le_succ _, ?_, ?_, ?_⟩
      · intro rest turns
        rw [connection] at turns
        rw [due, List.filter_append, greetings_turns, List.append_assoc]
        exact takesTurns_partings turns
      · rw [began]
        intro id member
        obtain rfl := List.mem_singleton.mp member
        exact ⟨Nat.le_refl _, nextId ▸ Nat.lt_succ_self _⟩
      · rw [began]
        exact List.pairwise_singleton _ _
  | disconnect => exact inStep.turns_disconnect
  | endConnection id =>
      by_cases live : now.console.connectionId? = some id
      · have same : now.due (.endConnection id) = now.due .disconnect := if_pos live
        obtain ⟨nextId, turns, began, increasing⟩ := inStep.turns_disconnect
        rw [← endConnection_live live] at nextId turns began
        rw [← same] at turns began increasing
        exact ⟨nextId, turns, began, increasing⟩
      · have same := endConnection_stale live
        refine .of_silent (if_neg live) (Nat.le_of_eq ?_) ?_
        · rw [same]
        · rw [same]
  | call ticket expected name args =>
      have called := now.console.call_changes name args (.guest ticket expected)
      have ran := (called.same .overrun (by decide)).trans inStep.ran
      exact .of_silent rfl
        (now.console.callStep_apply (.call ticket expected name args) ran).nextId
        (congrArg (Option.map Connection.id) (called.same .connection (by decide)))
  | follow follower => exact inStep.turns_subscription rfl rfl
  | release place => exact inStep.turns_subscription rfl rfl

/-! ### Whole runs -/

theorem InStep.tellsAll (inStep : now.InStep) {uses : List Use}
    (quiet : ∀ use ∈ uses, use.quiet = true) (log : List Notice) :
    now.TellsAll uses log ↔ log = now.story uses := by
  induction uses generalizing now log with
  | nil => exact Iff.rfl
  | cons use uses inductionHypothesis =>
      have later := inductionHypothesis (inStep_apply inStep (quiet use List.mem_cons_self))
        fun other member => quiet other (List.mem_cons_of_mem use member)
      rw [TellsAll, story]
      constructor
      · rintro ⟨first, rest, rfl, tells, tellsAll⟩
        rw [(inStep.tells use first).mp tells, (later rest).mp tellsAll]
      · rintro rfl
        exact ⟨_, _, rfl, (inStep.tells use _).mpr rfl, (later _).mpr rfl⟩

/-- Connections begin and end in turn, and no connection begins twice. -/
theorem InStep.story_turns (inStep : now.InStep) {uses : List Use}
    (quiet : ∀ use ∈ uses, use.quiet = true) :
    TakesTurns now.console.connectionId? ((now.story uses).filter Notice.turns) ∧
      (((now.story uses).filter Notice.turns).filterMap Notice.began?).Pairwise (· < ·) ∧
      ∀ id ∈ ((now.story uses).filter Notice.turns).filterMap Notice.began?,
        now.console.client.nextId ≤ id := by
  induction uses generalizing now with
  | nil => exact ⟨trivial, .nil, nofun⟩
  | cons use uses inductionHypothesis =>
      obtain ⟨turns, increasing, fresh⟩ :=
        inductionHypothesis (inStep_apply inStep (quiet use List.mem_cons_self))
          fun other member => quiet other (List.mem_cons_of_mem use member)
      have here := inStep.turns use
      rw [story, List.filter_append, List.filterMap_append]
      refine ⟨here.turns _ turns, ?_, ?_⟩
      · rw [List.pairwise_append]
        refine ⟨here.increasing, increasing, fun id member other later => ?_⟩
        exact Nat.lt_of_lt_of_le (here.began id member).2 (fresh other later)
      · intro id member
        rcases List.mem_append.mp member with now | later
        · exact (here.began id now).1
        · exact Nat.le_trans here.nextId (fresh id later)

/-! ### Pairs -/

/-- A subscription stays as it is until it is ended itself. -/
theorem getElem?_apply {place : Nat} {subscribed : Subscribed} {use : Use}
    (found : now.subscriptions[place]? = some subscribed) (kept : use ≠ .release place) :
    (now.apply use).subscriptions[place]? = some subscribed := by
  cases use with
  | connect spec => exact found
  | disconnect => exact found
  | endConnection id => exact found
  | call ticket expected name args => exact found
  | follow follower =>
      have inside := (List.getElem?_eq_some_iff.mp found).1
      exact (List.getElem?_append_left inside).trans found
  | release other =>
      have different : other ≠ place := fun same => kept (congrArg Use.release same)
      rw [apply, Embedding.release]
      split
      · exact found
      · exact (List.getElem?_set_ne different).trans found

/-- Of several that are told in one round under different numbers a follower is one. -/
theorem filterMap_number {Observer : Type} {entries : List (Nat × Observer)} {key : Nat}
    {observer : Observer} {seen : Notice} (distinct : (entries.map Prod.fst).Nodup)
    (member : (key, observer) ∈ entries) :
    entries.filterMap (fun entry => if entry.1 = key then some seen else none) = [seen] := by
  induction entries with
  | nil => cases member
  | cons entry entries inductionHypothesis =>
      rw [List.map_cons, List.nodup_cons] at distinct
      rcases List.mem_cons.mp member with rfl | later
      · have others : entries.filterMap
            (fun entry => if entry.1 = key then some seen else none) = [] := by
          rw [List.filterMap_eq_nil_iff]
          intro other otherMember
          have different : other.1 ≠ key := by
            rintro rfl
            exact distinct.1 (List.mem_map.mpr ⟨other, otherMember, rfl⟩)
          exact if_neg different
        rw [List.filterMap_cons, if_pos rfl, others]
      · have different : entry.1 ≠ key := fun same =>
          distinct.1 (same ▸ List.mem_map_of_mem later)
        rw [List.filterMap_cons, if_neg different, inductionHypothesis distinct.2 later]

end Embedding

open RuntimeConsole.Embedding

namespace Pair

variable {pair : Pair} {now : Embedding} {uses : List Use}

theorem Throughout.later {use : Use} (throughout : pair.Throughout now (use :: uses)) :
    pair.Throughout (now.apply use) uses where
  boots := by
    obtain ⟨observer, found⟩ := throughout.boots
    exact ⟨observer, getElem?_apply found (throughout.kept use List.mem_cons_self).1⟩
  detaches := by
    obtain ⟨observer, found⟩ := throughout.detaches
    exact ⟨observer, getElem?_apply found (throughout.kept use List.mem_cons_self).2⟩
  kept other member := throughout.kept other (List.mem_cons_of_mem use member)

theorem Throughout.greetings (throughout : pair.Throughout now uses) (inStep : now.InStep) :
    now.greetings.filterMap pair.sees? = [.began now.console.client.nextId] := by
  obtain ⟨observer, found⟩ := throughout.boots
  have member : (pair.bootKey, observer) ∈ now.liveBoots :=
    List.mem_filterMap.mpr ⟨_, List.mem_of_getElem? found, rfl⟩
  have distinct := Subscribed.keys_nodup
    (fun _ _ _ found => (Subscribed.release_of_bootObserver? found).1) inStep.distinct
  rw [Embedding.greetings, List.filterMap_cons_none rfl, List.filterMap_map]
  exact filterMap_number distinct member

theorem Throughout.partings (throughout : pair.Throughout now uses) (inStep : now.InStep) :
    now.partings.filterMap pair.sees? = (now.console.connectionId?.map Notice.ended).toList := by
  obtain ⟨observer, found⟩ := throughout.detaches
  have member : (pair.detachKey, observer) ∈ now.liveDetaches :=
    List.mem_filterMap.mpr ⟨_, List.mem_of_getElem? found, rfl⟩
  have distinct := Subscribed.keys_nodup
    (fun _ _ _ found => (Subscribed.release_of_detachObserver? found).1) inStep.distinct
  rw [Embedding.partings]
  cases now.console.connectionId? with
  | none => rfl
  | some id =>
      dsimp only
      rw [List.filterMap_cons_none rfl, List.filterMap_map]
      exact filterMap_number distinct member

/-- In what is due a pair sees every beginning and every end once. -/
theorem Throughout.due (throughout : pair.Throughout now uses) (inStep : now.InStep) (use : Use) :
    (now.due use).filterMap pair.sees? = (now.due use).filter Notice.turns := by
  have partings := (throughout.partings inStep).trans (partings_turns now).symm
  have greetings := (throughout.greetings inStep).trans (greetings_turns now).symm
  cases use with
  | connect spec =>
      rw [Embedding.due, List.filterMap_append, List.filter_append, partings, greetings]
  | disconnect => exact partings
  | endConnection id =>
      rw [Embedding.due]
      split
      · exact partings
      · rfl
  | call ticket expected name args => rfl
  | follow follower => rfl
  | release place => rfl

theorem Throughout.story (throughout : pair.Throughout now uses) (inStep : now.InStep)
    (quiet : ∀ use ∈ uses, use.quiet = true) :
    (now.story uses).filterMap pair.sees? = (now.story uses).filter Notice.turns := by
  induction uses generalizing now with
  | nil => rfl
  | cons use uses inductionHypothesis =>
      have rest := inductionHypothesis throughout.later
        (inStep_apply inStep (quiet use List.mem_cons_self))
        fun other member => quiet other (List.mem_cons_of_mem use member)
      rw [Embedding.story, List.filterMap_append, List.filter_append, throughout.due inStep use,
        rest]

/-- A pair whose subscriptions last sees connections begin and end in turn. -/
theorem Throughout.alternates (throughout : pair.Throughout now uses) (inStep : now.InStep)
    (quiet : ∀ use ∈ uses, use.quiet = true) :
    pair.Alternates now.console.connectionId? (now.story uses) := by
  have once := throughout.story inStep quiet
  obtain ⟨turns, increasing, fresh⟩ := inStep.story_turns quiet
  refine ⟨once, once ▸ turns, ?_⟩
  rw [once, List.pairwise_append]
  refine ⟨?_, increasing, fun id connected other member => ?_⟩
  · cases now.console.connectionId? with
    | none => exact .nil
    | some id => exact List.pairwise_singleton _ _
  · have given := inStep.connection id (Option.mem_toList.mp connected)
    exact Nat.lt_of_lt_of_le given (fresh other member)

end Pair

/-! ### Exactly once -/

/-- What those who follow connections are told while a program uses its client. -/
structure ExactlyOnce (start : Embedding) (uses : List Use) : Prop where
  /-- Whatever the program does next, those and only those who are subscribed at that moment are
  told, once each, in the order in which they have subscribed. -/
  told : ∀ before use after, uses = before ++ use :: after → ∀ log,
    (start.run before).Tells use log ↔ log = (start.run before).due use
  /-- The end of a connection that is not the one there is changes nothing, and nobody is told. -/
  stale : ∀ before connection after, uses = before ++ .endConnection connection :: after →
    (start.run before).console.connectionId? ≠ some connection →
    (start.run before).apply (.endConnection connection) = start.run before ∧
      ∀ log, (start.run before).Tells (.endConnection connection) log ↔ log = []
  /-- Nothing is done to the world or to the session when a subscription is taken or ended. -/
  silent : ∀ before use after, uses = before ++ use :: after → use.isSubscription →
    ((start.run before).apply use).console.trace = (start.run before).console.trace ∧
      ((start.run before).apply use).console.session = (start.run before).console.session
  /-- The observers of the client are those whose subscriptions are live. -/
  registered : ∀ before after, uses = before ++ after →
    (start.run before).console.client.bootObservers = (start.run before).liveBoots ∧
      (start.run before).console.client.detachObservers = (start.run before).liveDetaches
  /-- The end of a subscription removes nobody who has another. -/
  released : ∀ before place after, uses = before ++ .release place :: after →
    ∀ other subscribed, other ≠ place →
      (start.run before).subscriptions[other]? = some subscribed →
      (∀ entry, subscribed.bootObserver? = some entry →
        entry ∈ ((start.run before).apply (.release place)).console.client.bootObservers) ∧
      ∀ entry, subscribed.detachObserver? = some entry →
        entry ∈ ((start.run before).apply (.release place)).console.client.detachObservers
  /-- As long as its subscriptions last, a pair sees connections begin and end in turn. -/
  paired : ∀ before during after, uses = before ++ during ++ after →
    ∀ pair : Pair, pair.Throughout (start.run before) during →
      (∃ log, (start.run before).TellsAll during log) ∧
      ∀ log, (start.run before).TellsAll during log →
        pair.Alternates (start.run before).console.connectionId? log

/-- Whoever follows connections is told of each exactly once, whatever a program does with its
client, as long as those who are told leave connections alone. -/
theorem lifecycle_once (base : Console) (noBoots : base.client.bootObservers = [])
    (noDetaches : base.client.detachObservers = []) (numbered : base.ConnectionNumbered)
    (aside : base.CycleAside) (ran : base.overrun = false) (uses : List Use)
    (quiet : ∀ use ∈ uses, use.quiet = true) : ExactlyOnce (begin base) uses := by
  have start : (begin base).InStep := {
    boots := noBoots
    detaches := noDetaches
    distinct := .nil
    numbered := nofun
    quiet := nofun
    connection := fun id connected => by
      obtain ⟨connection, found, rfl⟩ := Option.map_eq_some_iff.mp connected
      exact numbered connection found
    aside := aside
    ran := ran }
  have inStep {before after : List Use} (split : uses = before ++ after) :
      ((begin base).run before).InStep :=
    inStep_run start fun use member => quiet use (split ▸ List.mem_append_left after member)
  refine ⟨?told, ?stale, ?silent, ?registered, ?released, ?paired⟩
  case told =>
    intro before use after split log
    exact (inStep split).tells use log
  case stale =>
    intro before connection after split stale
    refine ⟨endConnection_stale stale, fun log => ?_⟩
    rw [(inStep split).tells, due, if_neg stale]
  case silent =>
    intro before use after split isSubscription
    obtain ⟨client, changed, -, -⟩ := (inStep split).subscription isSubscription
    rw [changed]
    exact ⟨rfl, rfl⟩
  case registered =>
    intro before after split
    exact ⟨(inStep split).boots, (inStep split).detaches⟩
  case released =>
    intro before place after split other subscribed different found
    have next : (((begin base).run before).apply (.release place)).InStep :=
      inStep_apply (inStep split) rfl
    have kept : ((((begin base).run before).apply (.release place)).subscriptions)[other]? =
        some subscribed :=
      getElem?_apply found fun same => different (Use.release.inj same).symm
    rw [next.boots, next.detaches]
    exact ⟨fun _ entry => List.mem_filterMap.mpr ⟨_, List.mem_of_getElem? kept, entry⟩,
      fun _ entry => List.mem_filterMap.mpr ⟨_, List.mem_of_getElem? kept, entry⟩⟩
  case paired =>
    intro before during after split pair throughout
    have here := inStep ((List.append_assoc before during after) ▸ split)
    have quietDuring : ∀ use ∈ during, use.quiet = true := fun use member =>
      quiet use (split ▸ List.mem_append_left after (List.mem_append_right before member))
    refine ⟨⟨_, (here.tellsAll quietDuring _).mpr rfl⟩, fun log tells => ?_⟩
    rw [(here.tellsAll quietDuring log).mp tells]
    exact throughout.alternates here quietDuring

/-- A pair and a second follower of beginnings, whose subscription ends in between; connections
give way to others, are ended late, and are ended twice. -/
def Use.crossing : List Use :=
  [.follow (.boots (.guest .null false [.send "pwd"])), .follow (.detaches (.guest .null [])),
    .follow (.boots (.guest .null true [])), .connect .plain, .call 1 .any "pwd" [],
    .connect .plain, .endConnection 4, .release 2, .endConnection 6, .endConnection 6,
    .connect .plain, .disconnect]

/-- The second follower is told of the first two connections, the pair of all three. -/
theorem lifecycle_once_crossing :
    let start := Embedding.begin (Console.bare ⟨2, 20⟩)
    let pair : Pair := ⟨0, 1, 1, 2⟩
    ExactlyOnce start Use.crossing ∧
      pair.Throughout (start.run (Use.crossing.take 3)) (Use.crossing.drop 3) ∧
      start.story Use.crossing =
        [.began 4, .toldBoot 4 1, .toldBoot 4 3, .ended 4, .toldDetach 4 2,
          .began 6, .toldBoot 6 1, .toldBoot 6 3, .ended 6, .toldDetach 6 2,
          .began 7, .toldBoot 7 1, .ended 7, .toldDetach 7 2] := by
  intro start pair
  refine ⟨?_, ⟨⟨_, rfl⟩, ⟨_, rfl⟩, ?_⟩, by decide +kernel⟩
  · exact lifecycle_once (Console.bare ⟨2, 20⟩) rfl rfl nofun nofun rfl Use.crossing (by decide)
  · simp [Use.crossing, pair]

end RuntimeConsole
