/-
Module: RuntimeConsole.Proofs.LinkCycle
Purpose: Which resolver there is for the links of the screen: one begins with each
  connection, and as long as the connection lasts events are steps of it.
Main exports:
  Console.beginCycle_hears, LinkMove, Console.linkMove_apply
-/
import RuntimeConsole.Proofs.LinkStep
import RuntimeConsole.Proofs.SessionInvariant

namespace RuntimeConsole

namespace Console

/-- The resolver of a connection is the last to be told about changed rows. -/
theorem Bound.listens {base console : Console} {keys : CycleKeys} (fresh : Fresh base)
    (bound : Bound base keys console) : console.Listens keys.resolver :=
  ⟨base.terminal.listeners, keys.lines, bound.wiring.listeners, fresh.listeners⟩

theorem Bound.resolver {base console : Console} {keys : CycleKeys}
    (bound : Bound base keys console) :
    ∃ resolver, console.resolvers[keys.resolver]? = some resolver ∧ resolver.alive = true := by
  have alive : (console.resolvers.map Resolver.alive)[keys.resolver]? = some true :=
    (bound.wiring.living keys.resolver).mpr rfl
  rwa [List.getElem?_map, Option.map_eq_some_iff] at alive

/-- A session that begins to hold something has a new resolver, which hears of the rows that
are not empty. -/
theorem beginCycle_hears {ready : Console} (orderly : ready.Orderly)
    (cycle : ready.session.cycle = .empty) :
    let heard := (Resolver.fresh ready.host.platform ready.host.concurrent).hear
      (lineChanges 0 [] ready.terminal.scanned)
    ready.beginCycle.resolvers[ready.resolvers.length]? = some heard.1 ∧
      (ready.beginCycle.questions ready.resolvers.length).Perm heard.2 := by
  have prompted := ready.observePrompt_changes
  generalize promptedEq : ready.observePrompt.1 = first at prompted
  have host : first.host = ready.host := prompted.same .host (by decide)
  have resolvers : first.resolvers = ready.resolvers := prompted.same .resolvers (by decide)
  have scanned : first.terminal.scanned = ready.terminal.scanned :=
    prompted.same .scanned (by decide)
  have silent : first.addResolver.1.questions ready.resolvers.length = [] := by
    have none := orderly.questions ready.resolvers.length (Nat.le_refl _)
    rw [← questions_of_changes prompted (by decide)] at none
    exact none
  have known : first.addResolver.1.resolvers[ready.resolvers.length]? =
      some (.fresh ready.host.platform ready.host.concurrent) := by
    rw [addResolver, resolvers, host]
    simp
  obtain ⟨heard, asked⟩ := addLineListener_hears known
  rw [silent, List.nil_append] at asked
  change _ = some (Resolver.hear _ (lineChanges 0 [] first.terminal.scanned)).1 at heard
  change List.Perm _ (Resolver.hear _ (lineChanges 0 [] first.terminal.scanned)).2 at asked
  rw [scanned] at heard asked
  have number : first.addResolver.2 = ready.resolvers.length := congrArg List.length resolvers
  have rest : Changes [.debouncers, .timers, .moduleListeners, .session]
      (first.addResolver.1.addLineListener (.resolver ready.resolvers.length)).1
      ready.beginCycle := by
    rw [beginCycle_eq cycle, openCycle]
    dsimp only
    rw [promptedEq, number]
    exact ((addDebouncer_changes _ _).mono (by decide)).trans
      (((listenModules_changes _ _).mono (by decide)).trans
        ((withCycle_changes _ _).andThen (withSessionState_changes _ _) (by decide)))
  have resolversSame : ready.beginCycle.resolvers = _ := rest.same .resolvers (by decide)
  refine ⟨(congrArg (·[ready.resolvers.length]?) resolversSame).trans heard, ?_⟩
  rw [questions_of_changes rest (by decide)]
  exact asked

/-- What an event comes to for the links of the screen. -/
inductive LinkMove (base before : Console) (event : Event) (after : Console) : Prop where
  /-- A connection lasts, and its resolver with it. -/
  | during (keys : CycleKeys) (held : Bound base keys before) (kept : Bound base keys after)
      (step : LinkStep keys.resolver (before.verdictsBy event) before after)
  | idle (unbound : Unbound base after)
  /-- A connection begins, and a resolver with it. -/
  | begins (ready : Console) (keys : CycleKeys) (advances : Advances before ready)
      (cycle : ready.session.cycle = .empty) (kept : Bound base keys after)
      (number : keys.resolver = ready.resolvers.length) (reached : after = ready.beginCycle)

section

variable {base before between after : Console} {event : Event}

/-- A connection that begins has a resolver that was not there before. -/
theorem connectWithin_begins (fresh : Fresh base) (settled : Settled base between)
    (spec : ProcessSpec) (nesting : Nat) :
    ∃ ready keys, Advances between ready ∧ ready.session.cycle = .empty ∧
      Bound base keys ready.beginCycle ∧ keys.resolver = ready.resolvers.length ∧
      (connectWithin (nesting + 3) between spec).1 = ready.beginCycle := by
  obtain ⟨reached, opening⟩ :=
    connectWithin_opening fresh settled.steady settled.place spec nesting
  refine ⟨_, _, openingFor_advances _ _ _ _, opening.cycle, opening.began.1, ?_, reached⟩
  simp [Wiring.nextKeys, wiring]

/-- A connection that begins, perhaps after something else was done. -/
theorem LinkMove.of_connectWithin (fresh : Fresh base) (settled : Settled base between)
    (advances : Advances before between) (spec : ProcessSpec) (nesting : Nat) :
    LinkMove base before event (connectWithin (nesting + 3) between spec).1 := by
  obtain ⟨ready, keys, ahead, cycle, kept, number, reached⟩ :=
    connectWithin_begins fresh settled spec nesting
  rw [reached]
  exact .begins ready keys (advances.trans ahead) cycle kept number rfl

/-- The session has settled without a connection. -/
theorem LinkMove.of_settled (settled : Settled base after)
    (disconnected : after.client.connection = none) : LinkMove base before event after := by
  rcases settled.place with unbound | ⟨keys, bound⟩
  · exact .idle unbound
  · obtain ⟨connection, _, connected, -⟩ := bound.connection
    exact absurd (disconnected.symm.trans connected) nofun

/-- A start of the runtime between connections. -/
theorem LinkMove.of_start (fresh : Fresh base) (unbound : Unbound base before)
    (steady : Steady base before) (settled : Settled base before.start.1) :
    LinkMove base before event before.start.1 := by
  by_cases allowed : before.session.state.canStart = true
  · have asked := before.startAsked_changes
    have advances : Advances before before.startAsked :=
      .trans (.of_changes (withSessionState_changes _ _) (by decide)) (writeText_advances _ _)
    have askedUnbound : Unbound base before.startAsked := by
      have starting : Unbound base (before.withSessionState .starting) :=
        unbound.withSessionState nofun
      exact starting.of_changes (writeText_changes _ startingMessage) (by decide)
    rw [start_eq allowed] at settled ⊢
    rcases before.startAsked.bootReported_cases with kept | ⟨booter, spec, reached⟩
    · exact .of_settled settled (kept.trans askedUnbound.connection)
    · have told := before.startAsked.emit_booted_changes booter
      have toldSettled : Settled base (before.startAsked.emit (.booted booter)) :=
        ⟨(steady.of_changes asked (by decide)).of_changes told (by decide),
          .inl (askedUnbound.of_changes told (by decide))⟩
      rw [reached]
      exact .of_connectWithin fresh toldSettled (advances.trans (.of_changes told (by decide)))
        spec 96
  · have same : before.start.1 = before := by rw [start, if_neg allowed]
    rw [same] at settled ⊢
    exact .of_settled settled unbound.connection

/-- A session that is bound to a connection does not wait for the runtime. -/
theorem Bound.still {keys : CycleKeys} (bound : Bound base keys before) :
    before.start.1 = before ∧ ∀ failure, before.bootFailed failure = before := by
  constructor
  · rw [start, bound.state]
    rfl
  · intro failure
    rw [bootFailed, bound.state]
    rfl

/-- Whatever happens comes to one of a few things for the links of the screen. -/
theorem linkMove_apply {console : Console} (fresh : Fresh base) (settled : Settled base console)
    (ordered : console.CallsInOrder) (event : Event) :
    LinkMove base console event (console.apply event) := by
  obtain ⟨after, -⟩ := settled.step fresh ordered event
  cases console.sessionMove_apply event with
  | aside step _ _ how =>
      rcases settled.place with unbound | ⟨keys, bound⟩
      · exact .idle (unbound.of_changes step (by decide))
      · obtain ⟨resolver, known, -⟩ := bound.resolver
        exact .during keys bound (bound.of_changes_apart step (by decide))
          (how.linkStep ordered (bound.listens fresh) known)
  | starts reached _ =>
      rw [reached] at after ⊢
      rcases settled.place with unbound | ⟨keys, bound⟩
      · exact .of_start fresh unbound settled.steady after
      · rw [bound.still.1]
        exact .during keys bound bound (.of_changes (.refl [] console) (by decide))
  | fails ready failure readied reached _ =>
      rw [reached] at after ⊢
      rcases settled.place with unbound | ⟨keys, bound⟩
      · refine .of_settled after ?_
        exact ((ready.bootFailed_changes failure).same .connection (by decide)).trans
          ((readied.same .connection (by decide)).trans unbound.connection)
      · have readyBound := bound.of_changes_apart readied (by decide)
        rw [readyBound.still.2]
        exact .during keys bound readyBound (.of_changes readied (by decide))
  | connects ready spec readied reached _ =>
      rw [reached]
      exact .of_connectWithin fresh (settled.of_changes readied (by decide))
        (.of_changes readied (by decide)) spec 97
  | ends ready readied reached _ =>
      rw [reached] at after ⊢
      refine .of_settled after ?_
      have readySettled := settled.of_changes readied (by decide)
      rcases readySettled.place with unbound | ⟨keys, bound⟩
      · have idle : ready.client.isConnected = false := by
          simp [Client.isConnected, unbound.connection]
        rw [disconnect_eq, disconnectWithin, if_neg (by simp [idle])]
        exact unbound.connection
      · rw [disconnect_eq]
        exact (disconnectWithin_ended fresh readySettled.steady bound 98).unbound.connection

end

end Console

end RuntimeConsole
