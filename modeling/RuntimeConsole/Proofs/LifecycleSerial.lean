/-
Module: RuntimeConsole.Proofs.LifecycleSerial
Purpose: Effects on the client take courses, and beginnings and ends of connections are told
  strictly one after the other exactly as long as no observer cuts in.
Main exports:
  Takes, Console.callClients_course, Diary.serial_of_read, lifecycle_serial
-/
import RuntimeConsole.Proofs.CallResolution
import RuntimeConsole.Proofs.LifecycleCalm

namespace RuntimeConsole

/-! ### The courses there are -/

/-- A deed takes a course in which everybody does what they were registered to do. -/
def Takes (deed : Deed) (before after : Console) : Prop :=
  ∃ log calm, Course AsRegistered deed before log calm after

namespace Console

/-- What is carried out of nested effects are courses, down to a depth. -/
structure Nests (nesting : Nat) : Prop where
  perform : ∀ console action, Takes (.act action) console (performWithin nesting console action)
  ends : ∀ console, Takes .ends console (disconnectWithin nesting console)
  connect : ∀ console spec,
    Takes (.act (.connect spec)) console (connectWithin nesting console spec).1
  boot : ∀ console, Takes (.act .boot) console (bootWithin nesting console).1
  tellBoot : ∀ console process observer last, Takes (.acts last observer.actions)
    (console.hearBoot process observer) (tellBoot nesting console process observer)
  tellDetach : ∀ console observer last, Takes (.acts last observer.actions)
    (console.hearDetach observer) (tellDetach nesting console observer)

/-- A start connects a process, or how deep it is nested does not matter. -/
theorem bootWithin_succ (nesting : Nat) (console : Console) :
    (∃ booter spec, console.client.booter = some booter ∧ booter.outcome = .connects spec ∧
        (bootWithin (nesting + 1) console).1 =
          (connectWithin nesting (console.emit (.booted booter.label)) spec).1) ∨
      (bootWithin (nesting + 1) console).1 = (bootWithin 0 console).1 := by
  unfold bootWithin
  split
  next => exact .inr rfl
  next booter found =>
      cases outcome : booter.outcome with
      | connects spec => exact .inl ⟨booter, spec, found, outcome, rfl⟩
      | _ => exact .inr rfl

theorem takes_dropped {deed : Deed} (console : Console) (call : deed.isCall = true) :
    Takes deed console console.giveUpNesting :=
  ⟨_, _, .dropped call⟩

theorem takes_acts {perform : Console → ClientAction → Console}
    (each : ∀ console action, Takes (.act action) console (perform console action))
    (last : Bool) (actions : List ClientAction) (console : Console) :
    Takes (.acts last actions) console (actions.foldl perform console) := by
  induction actions generalizing console with
  | nil => exact ⟨_, _, .actsNone⟩
  | cons action actions inductionHypothesis =>
      obtain ⟨_, _, first⟩ := each console action
      obtain ⟨_, _, second⟩ := inductionHypothesis (perform console action)
      exact ⟨_, _, .acts first second⟩

theorem takes_boots {tell : Console → BootObserver → Console} {process : Nat}
    (each : ∀ console observer last, Takes (.acts last observer.actions)
      (console.hearBoot process observer) (tell console observer))
    (id : Nat) (observers : List (Nat × BootObserver)) (console : Console) :
    Takes (.boots id process observers) console
      (observers.foldl (fun console entry => tell console entry.2) console) := by
  induction observers generalizing console with
  | nil => exact ⟨_, _, .bootsNone⟩
  | cons entry rest inductionHypothesis =>
      obtain ⟨_, _, acting⟩ := each console entry.2 rest.isEmpty
      obtain ⟨_, _, others⟩ := inductionHypothesis (tell console entry.2)
      exact ⟨_, _, .boots rfl acting others⟩

theorem takes_detaches {tell : Console → DetachObserver → Console}
    (each : ∀ console observer last, Takes (.acts last observer.actions)
      (console.hearDetach observer) (tell console observer))
    (id : Nat) (observers : List (Nat × DetachObserver)) (console : Console) :
    Takes (.detaches id observers) console
      (observers.foldl (fun console entry => tell console entry.2) console) := by
  induction observers generalizing console with
  | nil => exact ⟨_, _, .detachesNone⟩
  | cons entry rest inductionHypothesis =>
      obtain ⟨_, _, acting⟩ := each console entry.2 rest.isEmpty
      obtain ⟨_, _, others⟩ := inductionHypothesis (tell console entry.2)
      exact ⟨_, _, .detaches rfl acting others⟩

theorem nests_zero : Nests 0 where
  perform console action := by
    unfold performWithin
    cases action with
    | send name => exact ⟨_, _, .send⟩
    | connect spec => exact console.takes_dropped rfl
    | disconnect => exact console.takes_dropped rfl
    | boot => exact console.takes_dropped rfl
  ends console := by
    rw [disconnectWithin]
    exact console.takes_dropped rfl
  connect console spec := by
    rw [connectWithin]
    exact console.takes_dropped rfl
  boot console := ⟨_, _, .boot⟩
  tellBoot console process observer last := by
    cases observer with
    | session =>
        rw [tellBoot]
        exact ⟨_, _, .actsNone⟩
    | guest label takesEarly actions =>
        unfold tellBoot
        cases takesEarly <;> exact takes_dropped _ rfl
  tellDetach console observer last := by
    cases observer with
    | session =>
        rw [tellDetach]
        exact ⟨_, _, .actsNone⟩
    | guest label actions =>
        unfold tellDetach
        exact takes_dropped _ rfl

theorem Nests.succ {nesting : Nat} (nests : Nests nesting) : Nests (nesting + 1) where
  perform console action := by
    unfold performWithin
    cases action with
    | send name => exact ⟨_, _, .send⟩
    | connect spec => exact nests.connect console spec
    | disconnect =>
        obtain ⟨_, _, course⟩ := nests.ends console
        exact ⟨_, _, .disconnect course⟩
    | boot => exact nests.boot console
  ends console := by
    rw [disconnectWithin]
    unfold Client.isConnected
    cases connected : console.client.connection with
    | none => exact ⟨_, _, .endsNone connected⟩
    | some connection =>
        obtain ⟨_, _, course⟩ := takes_detaches nests.tellDetach connection.id
          console.client.detachObservers console.dropConnection
        exact ⟨_, _, .ends connected course⟩
  connect console spec := by
    rw [connectWithin]
    rcases prepares : console.prepareProcess spec with ⟨prepared, process, channel⟩
    dsimp only
    have ended : Takes .ends prepared
        (if prepared.client.isConnected then disconnectWithin nesting prepared else prepared) := by
      split
      next => exact nests.ends prepared
      next disconnected =>
          exact ⟨_, _, .endsNone (by simpa [Client.isConnected] using disconnected)⟩
    generalize (if prepared.client.isConnected then disconnectWithin nesting prepared
      else prepared) = between at ended ⊢
    rcases installs : between.installConnection process channel with ⟨installed, id⟩
    obtain ⟨_, _, ending⟩ := ended
    obtain ⟨_, _, telling⟩ := takes_boots (nests.tellBoot · process) id
      installed.client.bootObservers installed
    exact ⟨_, _, .connect prepares ending installs telling⟩
  boot console := by
    rcases bootWithin_succ nesting console with ⟨booter, spec, found, outcome, connects⟩ | same
    · obtain ⟨_, _, course⟩ := nests.connect (console.emit (.booted booter.label)) spec
      rw [connects]
      exact ⟨_, _, .bootConnects found outcome course⟩
    · rw [same]
      exact ⟨_, _, .boot⟩
  tellBoot console process observer last := by
    have acted := takes_acts nests.perform last observer.actions
      (console.hearBoot process observer)
    cases observer with
    | session =>
        rw [Console.tellBoot]
        exact acted
    | guest label takesEarly actions =>
        unfold Console.tellBoot
        cases takesEarly <;> exact acted
  tellDetach console observer last := by
    have acted := takes_acts nests.perform last observer.actions (console.hearDetach observer)
    cases observer with
    | session =>
        rw [Console.tellDetach]
        exact acted
    | guest label actions =>
        unfold Console.tellDetach
        exact acted

theorem nests (nesting : Nat) : Nests nesting := by
  induction nesting with
  | zero => exact nests_zero
  | succ nesting inductionHypothesis => exact inductionHypothesis.succ

theorem callClient_course (console : Console) (action : ClientAction) :
    Takes (.act action) console (console.callClient action) := by
  cases action with
  | send name => exact ⟨_, _, .send⟩
  | connect spec => exact (nests nestingLimit).connect console spec
  | disconnect =>
      obtain ⟨_, _, course⟩ := (nests nestingLimit).ends console
      exact ⟨_, _, .disconnect course⟩
  | boot => exact (nests nestingLimit).boot console

/-- What the embedding program does to the client, one call after the other, takes a course. -/
theorem callClients_course (console : Console) (calls : List ClientAction) :
    Takes (.acts true calls) console (calls.foldl callClient console) :=
  takes_acts callClient_course true calls console

end Console

/-! ### What a diary says of the order -/

/-- Whether a notice can be due as long as the given connection is the one there is. -/
def Notice.concerns (current : Option Nat) : Notice → Prop
  | .toldBoot id _ => current = some id
  | .toldDetach _ _ => current = none
  | .began _ | .ended _ => False

/-- What is told of connections is told one after the other, where `current` is the connection
there is at first. -/
structure Serial (detaches : List Nat) (current : Option Nat) (log : List Notice) : Prop where
  /-- The end of a connection is told to everybody before the beginning of another is told to
  anybody. -/
  detachFirst : ∀ before id key after, log = before ++ .toldBoot id key :: after →
    ∀ other, .ended other ∈ before → ∀ observer ∈ detaches, .toldDetach other observer ∈ before
  /-- No connection is replaced by another without having ended. -/
  noneReplaced : ∀ before id after, log = before ++ .began id :: after →
    ∀ other, current = some other ∨ .began other ∈ before → .ended other ∈ before

namespace Diary

variable {boots detaches : List Nat} {start : Option Nat} {past log : List Notice}
  {notice : Notice} {diary next final : Diary}

/-- Everything that can be written into a diary. -/
theorem write_cases (written : diary.write boots detaches notice = some next) :
    (∃ due, diary.due = notice :: due ∧ next = ⟨diary.current, due⟩) ∨
      (∃ id, notice = .began id ∧ diary = ⟨none, []⟩ ∧
        next = ⟨some id, boots.map (.toldBoot id)⟩) ∨
      (∃ id, notice = .ended id ∧ diary = ⟨some id, []⟩ ∧
        next = ⟨none, detaches.map (.toldDetach id)⟩) := by
  unfold write at written
  split at written
  next first due waits =>
      split at written
      next same => exact .inl ⟨due, by rw [same, waits], (Option.some.inj written).symm⟩
      next => exact absurd written nofun
  next nothing =>
      have known (current : Option Nat) (is : diary.current = current) :
          diary = ⟨current, []⟩ := by rw [← is, ← nothing]
      split at written
      next id none => exact .inr (.inl ⟨id, rfl, known _ none, (Option.some.inj written).symm⟩)
      next id current some =>
          split at written
          next same =>
              exact .inr (.inr ⟨id, rfl, same ▸ known _ some, (Option.some.inj written).symm⟩)
          next => exact absurd written nofun
      next => exact absurd written nofun

/-- What a diary knows of the past. -/
structure Accounts (detaches : List Nat) (start : Option Nat) (past : List Notice)
    (diary : Diary) : Prop where
  due : ∀ notice ∈ diary.due, notice.concerns diary.current
  /-- A connection that has begun has ended, or it is the one there is. -/
  began : ∀ other, start = some other ∨ .began other ∈ past →
    .ended other ∈ past ∨ diary.current = some other
  /-- That a connection has ended has been told to everybody, or it is due. -/
  ended : ∀ other, .ended other ∈ past → ∀ observer ∈ detaches,
    .toldDetach other observer ∈ past ∨ .toldDetach other observer ∈ diary.due

theorem Accounts.initial (start : Option Nat) : Accounts detaches start [] ⟨start, []⟩ where
  due := nofun
  began _ known := .inr (known.resolve_right List.not_mem_nil)
  ended := nofun

theorem Accounts.write (accounts : Accounts detaches start past diary)
    (written : diary.write boots detaches notice = some next) :
    Accounts detaches start (past ++ [notice]) next := by
  obtain ⟨due, dueEq, rfl⟩ | ⟨id, rfl, rfl, rfl⟩ | ⟨id, rfl, rfl, rfl⟩ := write_cases written
  · have concerns := accounts.due
    rw [dueEq] at concerns
    -- What is due is neither that a connection begins nor that it ends.
    have first := concerns notice List.mem_cons_self
    refine ⟨fun other member => concerns other (List.mem_cons_of_mem _ member),
      fun other known => ?_, fun other ended observer member => ?_⟩
    · have known : start = some other ∨ .began other ∈ past := by
        refine known.imp_right fun member => ?_
        rcases List.mem_append.mp member with member | member
        · exact member
        · exact (List.mem_singleton.mp member ▸ first : Notice.concerns _ (.began other)).elim
      exact (accounts.began other known).imp_left (List.mem_append_left _)
    · have ended : .ended other ∈ past := by
        rcases List.mem_append.mp ended with member | member
        · exact member
        · exact (List.mem_singleton.mp member ▸ first : Notice.concerns _ (.ended other)).elim
      rcases accounts.ended other ended observer member with told | waits
      · exact .inl (List.mem_append_left _ told)
      · rw [dueEq, List.mem_cons] at waits
        exact waits.imp_left fun same => by simp [same]
  · refine ⟨fun other member => ?_, fun other known => ?_, fun other ended observer member => ?_⟩
    · obtain ⟨key, -, rfl⟩ := List.mem_map.mp member
      rfl
    · rcases known with known | member
      · have ended := (accounts.began other (.inl known)).resolve_right nofun
        exact .inl (List.mem_append_left _ ended)
      · rcases List.mem_append.mp member with member | member
        · have ended := (accounts.began other (.inr member)).resolve_right nofun
          exact .inl (List.mem_append_left _ ended)
        · obtain rfl : other = id := by simpa using member
          exact .inr rfl
    · have ended : .ended other ∈ past := by simpa using ended
      have told := (accounts.ended other ended observer member).resolve_right List.not_mem_nil
      exact .inl (List.mem_append_left _ told)
  · refine ⟨fun other member => ?_, fun other known => ?_, fun other ended observer member => ?_⟩
    · obtain ⟨key, -, rfl⟩ := List.mem_map.mp member
      rfl
    · have known : start = some other ∨ .began other ∈ past := by simpa using known
      refine .inl ?_
      rcases accounts.began other known with ended | current
      · exact List.mem_append_left _ ended
      · obtain rfl := Option.some.inj current
        exact List.mem_append_right _ List.mem_cons_self
    · rcases List.mem_append.mp ended with past | now
      · have told := (accounts.ended other past observer member).resolve_right List.not_mem_nil
        exact .inl (List.mem_append_left _ told)
      · obtain rfl : other = id := by simpa using now
        exact .inr (List.mem_map_of_mem member)

theorem Accounts.read (accounts : Accounts detaches start past diary)
    (taken : diary.read boots detaches log = some final) :
    Accounts detaches start (past ++ log) final := by
  induction log generalizing diary past with
  | nil =>
      obtain rfl := Option.some.inj taken
      rwa [List.append_nil]
  | cons notice log inductionHypothesis =>
      rw [Diary.read] at taken
      obtain ⟨next, written, taken⟩ := Option.bind_eq_some_iff.mp taken
      rw [List.append_cons]
      exact inductionHypothesis (accounts.write written) taken

/-- Before a notice that a diary has taken, it accounts for everything that came earlier. -/
theorem accounts_before {before after : List Notice}
    (taken : Diary.read boots detaches ⟨start, []⟩ (before ++ notice :: after) = some final) :
    ∃ between next, Accounts detaches start before between ∧
      between.write boots detaches notice = some next := by
  rw [read_append] at taken
  obtain ⟨between, earlier, later⟩ := Option.bind_eq_some_iff.mp taken
  rw [Diary.read] at later
  obtain ⟨next, written, -⟩ := Option.bind_eq_some_iff.mp later
  exact ⟨between, next, (Accounts.initial start).read earlier, written⟩

theorem serial_of_read (taken : Diary.read boots detaches ⟨start, []⟩ log = some final) :
    Serial detaches start log where
  detachFirst before id key after logEq other ended observer member := by
    rw [logEq] at taken
    obtain ⟨between, next, accounts, written⟩ := accounts_before taken
    obtain ⟨due, dueEq, -⟩ | ⟨_, impossible, -⟩ | ⟨_, impossible, -⟩ := write_cases written
    · have current : between.current = some id :=
        accounts.due (.toldBoot id key) (by rw [dueEq]; exact List.mem_cons_self)
      refine (accounts.ended other ended observer member).resolve_right fun waits => ?_
      have none : between.current = none := accounts.due _ waits
      exact absurd (none.symm.trans current) nofun
    · exact absurd impossible nofun
    · exact absurd impossible nofun
  noneReplaced before id after logEq other known := by
    rw [logEq] at taken
    obtain ⟨between, next, accounts, written⟩ := accounts_before taken
    obtain ⟨due, dueEq, -⟩ | ⟨_, -, rfl, -⟩ | ⟨_, impossible, -⟩ := write_cases written
    · exact (accounts.due (.began id) (by rw [dueEq]; exact List.mem_cons_self)).elim
    · exact (accounts.began other known).resolve_right nofun
    · exact absurd impossible nofun

end Diary

/-! ### Serial lifecycles -/

/-- How what observers do to the client agrees with what they are told, and with the session. -/
structure LifecycleSerial (conduct : List ClientAction → List ClientAction → Prop)
    (base : Console) (log : List Notice) (calm : Bool) (now : Console) : Prop where
  /-- Exactly if nobody cuts in, a connection begins only when there is none and ends only when
  there is one, and every observer is told of either before the next begins or ends. -/
  taken : base.diary.read (base.client.bootObservers.map Prod.fst)
      (base.client.detachObservers.map Prod.fst) log = if calm then some now.diary else none
  ordered : calm = true →
    Serial (base.client.detachObservers.map Prod.fst) base.connectionId? log
  agrees : calm = true → now.Agrees
  /-- Nobody cuts in where only the last observer of beginnings connects or disconnects, and no
  observer of ends connects. -/
  modest : Modest conduct base.client.bootObservers base.client.detachObservers →
    now.overrun = false → calm = true

/-- Whatever observers do to the client when they are told of connections, what they are told is
strictly serial, and the session is attached exactly as long as the client is connected, as long
as nobody cuts in; where somebody does, what is told is not serial. -/
theorem lifecycle_serial (base : Console) (calls : List ClientAction)
    (bootSession : .session ∈ base.client.bootObservers.map Prod.snd)
    (detachSession : .session ∈ base.client.detachObservers.map Prod.snd)
    (aside : base.CycleAside) (agrees : base.Agrees) :
    Takes (.acts true calls) base (calls.foldl Console.callClient base) ∧
      ∀ conduct log calm now, Course conduct (.acts true calls) base log calm now →
        LifecycleSerial conduct base log calm now := by
  refine ⟨base.callClients_course calls, fun conduct log calm now course => ?_⟩
  have observed : base.Observed base.client.bootObservers base.client.detachObservers :=
    ⟨rfl, rfl, aside⟩
  obtain ⟨-, told⟩ := course.meets bootSession detachSession observed
  have told := told agrees
  exact {
    taken := told.read
    ordered := fun calmly => Diary.serial_of_read (told.read.trans (if_pos calmly))
    agrees := told.agrees
    modest := fun modest ran => (course.calms modest observed ran).1 rfl }

/-- A console whose session is activated before or after the embedding program wants to
disconnect as soon as it is told of a connection. -/
def Console.hasty (first : Bool) : Console :=
  let guest : Console → Console := fun console =>
    { console with
      client := (console.client.onBoot (.guest .null false [.disconnect])).1 }
  if first then (guest (.bare ⟨2, 20⟩)).activateSession
  else guest (Console.bare ⟨2, 20⟩).activateSession

/-- A guest that is told of a connection before the session disconnects in the middle of the
round: the session is attached, and nothing is connected.  One that is told after the session
does no harm. -/
theorem lifecycle_serial_hasty :
    let cut := (Console.hasty true).callClient (.connect .plain)
    let orderly := (Console.hasty false).callClient (.connect .plain)
    (∃ log, LifecycleSerial AsRegistered (Console.hasty true) log false cut) ∧
      cut.session.state = .attached ∧ cut.client.isConnected = false ∧
      (∃ log, LifecycleSerial AsRegistered (Console.hasty false) log true orderly) ∧
      orderly.session.state = .detached ∧ orderly.client.isConnected = false := by
  intro cut orderly
  have cutOff : ¬ cut.Agrees := by decide +kernel
  refine ⟨?_, by decide +kernel, by decide +kernel, ?_, by decide +kernel, by decide +kernel⟩
  · obtain ⟨⟨log, calm, course⟩, follows⟩ := lifecycle_serial (Console.hasty true)
      [.connect .plain] (by decide) (by decide) (fun _ member => (List.not_mem_nil member).elim)
      (by decide)
    have serial := follows AsRegistered log calm cut course
    cases calm with
    | false => exact ⟨log, serial⟩
    | true => exact absurd (serial.agrees rfl) cutOff
  · obtain ⟨⟨log, calm, course⟩, follows⟩ := lifecycle_serial (Console.hasty false)
      [.connect .plain] (by decide) (by decide) (fun _ member => (List.not_mem_nil member).elim)
      (by decide)
    have serial := follows AsRegistered log calm orderly course
    obtain rfl := serial.modest (.asRegistered (by decide) (by decide)) (by decide +kernel)
    exact ⟨log, serial⟩

end RuntimeConsole
