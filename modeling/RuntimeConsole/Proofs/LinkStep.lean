/-
Module: RuntimeConsole.Proofs.LinkStep
Purpose: What an event comes to for the link resolver at work: nothing, rows it hears of,
  or a verdict on one of its candidates.
Main exports:
  LinkVerdict, Console.verdictsBy, LinkStep, Console.Aside.linkStep
-/
import RuntimeConsole.Proofs.LinkQuestions

namespace RuntimeConsole

/-- What a resolver is told about a candidate. -/
structure LinkVerdict where
  resolver : Nat
  link : LinkMatch
  confirmed : Bool
deriving DecidableEq

/-- Whether an answer confirms a candidate.  A call that failed does not. -/
def confirms : Except Failure Json → Bool
  | .ok (.bool confirmed) => confirmed
  | _ => false

theorem eq_of_confirms {answer : Except Failure Json} (confirmed : confirms answer = true) :
    answer = .ok (.bool true) := by
  unfold confirms at confirmed
  split at confirmed
  next => rw [confirmed]
  next => cases confirmed

/-- The verdict an answer is for the caller that waits for it. -/
def Waiter.verdicts (answer : Except Failure Json) : Waiter → List LinkVerdict
  | .validation resolver _ _ link => [⟨resolver, link, confirms answer⟩]
  | .opening .. | .guest .. => []

theorem Waiter.question?_eq_some {waiter : Waiter} {id : Nat} {row : UInt16} {generation : Nat}
    {link : LinkMatch} (asked : waiter.question? id = some ⟨row, generation, link⟩) :
    waiter = .validation id row generation link := by
  cases waiter with
  | validation resolver _ _ _ =>
      rw [Waiter.question?] at asked
      split at asked
      next own =>
          cases asked
          rw [own]
      next => cases asked
  | _ => cases asked

/-- The verdicts that come of a task.  A question that cannot be put to the runtime is
answered at once. -/
def Task.verdicts (refused : Bool) : Task → List LinkVerdict
  | .validate resolver _ _ link => if refused then [⟨resolver, link, false⟩] else []
  | .resume call answer => call.waiter.verdicts answer
  | .chosen .. => []

namespace Console

/-- The verdicts that are given in an event. -/
def verdictsBy (console : Console) : Event → List LinkVerdict
  | .work .task => (console.tasks.head?.map (Task.verdicts !console.takesFrames)).getD []
  | _ => []

/-- The rows that are not as the listeners knew them before. -/
def changedRows (before after : Console) : List LineChange :=
  lineChanges 0 before.terminal.scanned after.terminal.grid.visibleLines

/-- A resolver is told about changed rows, and besides it only code of the embedding
program is. -/
def Listens (console : Console) (id : Nat) : Prop :=
  ∃ guests key, console.terminal.listeners = guests ++ [(key, .resolver id)] ∧
    ∀ entry ∈ guests, ∃ label, entry.2 = .guest label

end Console

open Console

/-- What happens to a resolver, where `given` are the verdicts that are given meanwhile. -/
inductive LinkStep (id : Nat) (given : List LinkVerdict) (before after : Console) : Prop where
  | still (resolver : after.resolvers[id]? = before.resolvers[id]?)
      (questions : (after.questions id).Perm (before.questions id))
      (display : after.terminal.display = before.terminal.display)
  /-- The screen shows something else, and the resolver hears of the rows that changed. -/
  | hears (resolver : Resolver) (known : before.resolvers[id]? = some resolver)
      (heard : after.resolvers[id]? = some (resolver.hear (before.changedRows after)).1)
      (questions : (after.questions id).Perm
        (before.questions id ++ (resolver.hear (before.changedRows after)).2))
  /-- A question is settled. -/
  | settles (resolver : Resolver) (known : before.resolvers[id]? = some resolver)
      (question : Question) (confirmed : Bool) (verdict : ⟨id, question.link, confirmed⟩ ∈ given)
      (settled : after.resolvers[id]? = some (if confirmed then
        resolver.accept question.row question.generation question.link else resolver))
      (questions : (before.questions id).Perm (question :: after.questions id))
      (display : after.terminal.display = before.terminal.display)

namespace LinkStep

section

variable {id : Nat} {given : List LinkVerdict} {before between after : Console}
  {aspects : List Aspect}

theorem of_changes (step : Changes aspects before after)
    (apart : linkAspects.all (· ∉ aspects) = true) : LinkStep id given before after := by
  have resolvers : after.resolvers = before.resolvers :=
    step.kept apart .resolvers (by decide)
  refine .still (by rw [resolvers]) (.of_eq ?_) (step.kept apart .display (by decide))
  exact questions_of_changes step (apart_mono apart (by decide)) id

/-- Something else happens before that has nothing to do with the screen. -/
theorem preceded (step : Changes aspects before between)
    (apart : linkAspects.all (· ∉ aspects) = true) (next : LinkStep id given between after) :
    LinkStep id given before after := by
  have resolvers : between.resolvers = before.resolvers :=
    step.kept apart .resolvers (by decide)
  have display : between.terminal.display = before.terminal.display :=
    step.kept apart .display (by decide)
  have scanned : between.terminal.scanned = before.terminal.scanned :=
    step.kept apart .scanned (by decide)
  have questions := questions_of_changes step (apart_mono apart (by decide)) id
  cases next with
  | still resolver asked shown =>
      exact .still (resolvers ▸ resolver) (questions ▸ asked) (shown.trans display)
  | hears resolver known heard asked =>
      rw [changedRows, scanned] at heard asked
      exact .hears resolver (resolvers ▸ known) heard (questions ▸ asked)
  | settles resolver known question confirmed verdict settled asked shown =>
      exact .settles resolver (resolvers ▸ known) question confirmed verdict settled
        (questions ▸ asked) (shown.trans display)

/-- Something else happens afterwards that has nothing to do with the screen. -/
theorem followed (next : LinkStep id given before between) (step : Changes aspects between after)
    (apart : linkAspects.all (· ∉ aspects) = true) : LinkStep id given before after := by
  have resolvers : after.resolvers = between.resolvers :=
    step.kept apart .resolvers (by decide)
  have display : after.terminal.display = between.terminal.display :=
    step.kept apart .display (by decide)
  have questions := questions_of_changes step (apart_mono apart (by decide)) id
  cases next with
  | still resolver asked shown =>
      exact .still ((congrArg (·[id]?) resolvers).trans resolver) (questions ▸ asked)
        (display.trans shown)
  | hears resolver known heard asked =>
      refine .hears resolver known ?_ ?_
      · rw [resolvers, changedRows, Terminal.grid, display]
        exact heard
      · rw [questions, changedRows, Terminal.grid, display]
        exact asked
  | settles resolver known question confirmed verdict settled asked shown =>
      exact .settles resolver known question confirmed verdict
        ((congrArg (·[id]?) resolvers).trans settled) (questions ▸ asked) (display.trans shown)

end

end LinkStep

namespace Console

/-! ### Rows -/

/-- Candidates are put to the runtime one after the other. -/
theorem foldl_spawn_questions (links : List LinkMatch) (id : Nat) (row : UInt16)
    (generation : Nat) (console : Console) :
    ((links.foldl (fun console link => console.spawn (.validate id row generation link))
      console).questions id).Perm
        (console.questions id ++ links.map (⟨row, generation, ·⟩)) := by
  induction links generalizing console with
  | nil => simp
  | cons link links inductionHypothesis =>
      refine (inductionHypothesis _).trans ?_
      rw [spawn_questions, Task.question?, if_pos rfl, Option.toList_some, questions, List.map_cons,
        List.append_assoc, List.append_assoc, List.append_assoc]
      refine List.Perm.append_left _ ?_
      rw [← List.append_assoc]
      refine (List.Perm.append_right _ List.perm_append_comm).trans ?_
      rw [List.append_assoc]
      exact .refl _

theorem resolverSeesLine_hears {console : Console} {id : Nat} {resolver : Resolver}
    (known : console.resolvers[id]? = some resolver) (change : LineChange) :
    (console.resolverSeesLine id change).resolvers[id]? =
        some (resolver.lineChanged change.row change.text).1 ∧
      ((console.resolverSeesLine id change).questions id).Perm
        (console.questions id ++
          if (resolver.lineChanged change.row change.text).1.validates then
            (resolver.lineChanged change.row change.text).2.2.map
              (⟨change.row, (resolver.lineChanged change.row change.text).2.1, ·⟩)
          else []) := by
  obtain ⟨inside, -⟩ := List.getElem?_eq_some_iff.mp known
  have place (next : Resolver) : (console.setResolver id next).resolvers[id]? = some next := by
    simp [setResolver, inside]
  unfold resolverSeesLine
  rw [known]
  dsimp only
  generalize resolver.lineChanged change.row change.text = heardOf
  obtain ⟨next, generation, candidates⟩ := heardOf
  dsimp only
  split
  · refine ⟨?_, foldl_spawn_questions candidates id change.row generation _⟩
    have spawned : Changes [.tasks] (console.setResolver id next)
        (candidates.foldl (fun console link =>
          console.spawn (.validate id change.row generation link)) (console.setResolver id next)) :=
      .foldl (fun console link => console.spawn_changes _ rfl) _ _
    have resolvers : _ = (console.setResolver id next).resolvers :=
      spawned.same .resolvers (by decide)
    exact (congrArg (·[id]?) resolvers).trans (place next)
  · exact ⟨place next, by simp [questions, setResolver]⟩

/-- Code of the embedding program that is told about rows has nothing to do with links. -/
theorem guestsSeeLine_changes {guests : List (Nat × LineListener)}
    (outside : ∀ entry ∈ guests, ∃ label, entry.2 = .guest label) (change : LineChange)
    (console : Console) :
    Changes [.trace] console
      (guests.foldl (fun console entry => console.listenerSeesLine change entry.2) console) := by
  refine .foldl_of_mem guests (fun entry member console => ?_) console
  obtain ⟨label, known⟩ := outside entry member
  rw [known]
  exact console.emit_changes _ rfl

theorem Listens.of_changes {before after : Console} {id : Nat} {aspects : List Aspect}
    (listens : before.Listens id) (step : Changes aspects before after)
    (apart : Aspect.listeners ∉ aspects) : after.Listens id := by
  have listeners := step.same .listeners apart
  simp only [look, Prod.mk.injEq] at listeners
  obtain ⟨guests, key, same, outside⟩ := listens
  exact ⟨guests, key, listeners.1.trans same, outside⟩

/-- A resolver that is told about rows one after the other, and others between, hears of
them in this order. -/
theorem foldl_hears {id : Nat} {tell : Console → LineChange → Console} (holds : Console → Prop)
    (each : ∀ console change, holds console → holds (tell console change) ∧
      ∃ told, Changes [.trace] console told ∧ tell console change = told.resolverSeesLine id change)
    {console : Console} {resolver : Resolver} (held : holds console)
    (known : console.resolvers[id]? = some resolver) (changes : List LineChange) :
    (changes.foldl tell console).resolvers[id]? = some (resolver.hear changes).1 ∧
      ((changes.foldl tell console).questions id).Perm
        (console.questions id ++ (resolver.hear changes).2) := by
  induction changes generalizing console resolver with
  | nil => exact ⟨known, by simp [Resolver.hear]⟩
  | cons change changes inductionHypothesis =>
      obtain ⟨heldAfter, told, seen, reached⟩ := each console change held
      have toldKnown : told.resolvers[id]? = some resolver :=
        (congrArg (·[id]?) (seen.same .resolvers (by decide))).trans known
      have toldQuestions := questions_of_changes seen (by decide) id
      obtain ⟨heard, asked⟩ := resolverSeesLine_hears toldKnown change
      rw [← reached] at heard asked
      obtain ⟨heardLast, askedLast⟩ := inductionHypothesis heldAfter heard
      rw [List.foldl_cons, Resolver.hear]
      refine ⟨heardLast, askedLast.trans ?_⟩
      rw [toldQuestions] at asked
      rw [← List.append_assoc]
      exact asked.append_right _

/-- The listeners are told about rows, and the resolver hears of them. -/
theorem notify_hears {console : Console} {id : Nat} {resolver : Resolver}
    (listens : console.Listens id) (known : console.resolvers[id]? = some resolver)
    (changes : List LineChange) :
    (console.notify changes).resolvers[id]? = some (resolver.hear changes).1 ∧
      ((console.notify changes).questions id).Perm
        (console.questions id ++ (resolver.hear changes).2) := by
  refine foldl_hears (·.Listens id) (fun console change listens => ?_) listens known changes
  have listening := listens
  obtain ⟨guests, key, listeners, outside⟩ := listening
  have seen := guestsSeeLine_changes outside change console
  have reached : console.terminal.listeners.foldl
      (fun console entry => console.listenerSeesLine change entry.2) console =
        (guests.foldl (fun console entry => console.listenerSeesLine change entry.2)
          console).resolverSeesLine id change := by
    rw [listeners, List.foldl_append]
    rfl
  have both := (seen.mono (by decide)).trans ((resolverSeesLine_changes _ id change).mono
    (by decide : _ ⊆ [.resolvers, .tasks, .trace]))
  exact ⟨reached ▸ listens.of_changes both (by decide), _, seen, reached⟩

/-- A new resolver hears of the rows that are not empty. -/
theorem addLineListener_hears {console : Console} {id : Nat} {resolver : Resolver}
    (known : console.resolvers[id]? = some resolver) :
    (console.addLineListener (.resolver id)).1.resolvers[id]? =
        some (resolver.hear (lineChanges 0 [] console.terminal.scanned)).1 ∧
      ((console.addLineListener (.resolver id)).1.questions id).Perm
        (console.questions id ++
          (resolver.hear (lineChanges 0 [] console.terminal.scanned)).2) := by
  have listening : ({ console with
      terminal := (console.terminal.addListener (.resolver id)).1 } : Console).resolvers[id]? =
        some resolver := known
  rw [← occupiedLines_eq]
  exact foldl_hears (fun _ => True)
    (fun console change _ => ⟨trivial, console, .refl _ console, rfl⟩) trivial listening
    (occupiedLines 0 console.terminal.scanned)

/-- The screen shows something else, and the listeners are told. -/
theorem withTerminal_linkStep {console : Console} {id : Nat} {resolver : Resolver}
    (listens : console.Listens id) (known : console.resolvers[id]? = some resolver)
    (given : List LinkVerdict) {terminal : Terminal}
    (scanned : terminal.scanned = console.terminal.scanned)
    (listeners : terminal.listeners = console.terminal.listeners) :
    LinkStep id given console (console.withTerminal terminal.rescan) := by
  have shownListens : ({ console with terminal := terminal.rescan.1 } : Console).Listens id := by
    obtain ⟨guests, key, same, outside⟩ := listens
    exact ⟨guests, key, listeners.trans same, outside⟩
  obtain ⟨heard, asked⟩ := notify_hears shownListens known terminal.rescan.2
  have told : Changes [.resolvers, .tasks, .trace] { console with terminal := terminal.rescan.1 }
      (console.withTerminal terminal.rescan) := notify_changes _ _
  have display : (console.withTerminal terminal.rescan).terminal.display = terminal.display :=
    told.same .display (by decide)
  refine .hears resolver known ?_ ?_
  · rw [changedRows, Terminal.grid, display, ← scanned]
    exact heard
  · rw [changedRows, Terminal.grid, display, ← scanned]
    exact asked

section

variable {console : Console} {id : Nat} {resolver : Resolver}

theorem write_linkStep (listens : console.Listens id)
    (known : console.resolvers[id]? = some resolver) (given : List LinkVerdict)
    (bytes : List UInt8) : LinkStep id given console (console.write bytes) :=
  withTerminal_linkStep listens known given rfl rfl

theorem clear_linkStep (listens : console.Listens id)
    (known : console.resolvers[id]? = some resolver) (given : List LinkVerdict) :
    LinkStep id given console console.clear :=
  withTerminal_linkStep listens known given rfl rfl

theorem resize_linkStep (listens : console.Listens id)
    (known : console.resolvers[id]? = some resolver) (given : List LinkVerdict) (size : Size) :
    LinkStep id given console (console.resize size).1 := by
  have reshaped : LinkStep id given console
      (console.withTerminal (console.terminal.resize size)) :=
    withTerminal_linkStep listens known given rfl rfl
  unfold resize
  dsimp only
  split
  · exact reshaped.followed (onStream_changes _ _ _) (by decide)
  · exact reshaped

theorem pump_linkStep (listens : console.Listens id)
    (known : console.resolvers[id]? = some resolver) (given : List LinkVerdict) :
    LinkStep id given console console.pump.1 := by
  unfold pump
  split
  next => exact .of_changes (.refl [] console) (by decide)
  next stream _ =>
      have read := console.readStream_changes stream
      split
      next reached bytes result =>
          rw [result] at read
          dsimp only at read ⊢
          split
          · exact .of_changes read (by decide)
          · have reachedKnown : reached.resolvers[id]? = some resolver :=
              (congrArg (·[id]?) (read.same .resolvers (by decide))).trans known
            have reachedListens := listens.of_changes read (by decide)
            have written := write_linkStep reachedListens reachedKnown given bytes
            exact .preceded read (by decide) written
      next reached failure result =>
          rw [result] at read
          exact .of_changes read (by decide)

/-! ### Calls -/

/-- A call of somebody else asks nothing on behalf of a resolver. -/
theorem call_linkStep (console : Console) (id : Nat) (given : List LinkVerdict) (name : String)
    (args : List Json) (waiter : Waiter) (other : waiter.question? id = none) :
    LinkStep id given console (console.call name args waiter) := by
  have step := console.call_changes name args waiter
  have resolvers : (console.call name args waiter).resolvers = console.resolvers :=
    step.same .resolvers (by decide)
  refine .still (by rw [resolvers]) (.of_eq ?_) (step.same .display (by decide))
  rw [call_questions, other]
  simp

theorem resetPending_linkStep (console : Console) (id : Nat) (given : List LinkVerdict) :
    LinkStep id given console console.resetPending := by
  have step := console.resetPending_changes
  have resolvers : console.resetPending.resolvers = console.resolvers :=
    step.same .resolvers (by decide)
  exact .still (by rw [resolvers]) (.of_eq (console.resetPending_questions id))
    (step.same .display (by decide))

/-- A call that is answered is in question until its caller hears of the answer. -/
theorem complete_linkStep
    (increasing : (console.client.pending.map PendingCall.id).Pairwise (· < ·)) (id : Nat)
    (given : List LinkVerdict) (call : Nat) (answer : PendingCall → Except Failure Json) :
    LinkStep id given console (console.complete call answer) := by
  have step := console.complete_changes call answer
  have resolvers : (console.complete call answer).resolvers = console.resolvers :=
    step.same .resolvers (by decide)
  refine .still (by rw [resolvers]) ?_ (step.same .display (by decide))
  unfold complete
  cases found : console.client.pendingCall? call with
  | none => exact .refl _
  | some entry =>
      have waits : entry ∈ console.client.pending := List.mem_of_find?_eq_some found
      obtain rfl : entry.id = call := by simpa using List.find?_some found
      have parted := List.filter_append_perm (fun other : PendingCall => other.id == entry.id)
        console.client.pending
      rw [filter_id_eq increasing waits] at parted
      have asked := (parted.filterMap fun call => call.waiter.question? id)
      rw [List.filterMap_append] at asked
      dsimp only
      rw [spawn_questions, questions, List.append_assoc]
      refine List.Perm.append_left _ ?_
      refine .trans ?_ asked
      refine List.Perm.append (.of_eq ?_) (.of_eq rfl)
      cases entry.waiter.question? id <;> rfl

/-! ### Requests of the runtime -/

theorem handle_linkStep (listens : console.Listens id)
    (known : console.resolvers[id]? = some resolver) (given : List LinkVerdict)
    (args : List Json) (handler : Handler) :
    LinkStep id given console (console.handle args handler).1 := by
  rcases console.handle_cases args handler with ⟨-, same⟩ | ⟨-, same⟩ | ⟨-, -, quiet⟩
  · rw [same]
    exact clear_linkStep listens known given
  · rw [same]
    exact write_linkStep listens known given _
  · exact .of_changes quiet (by decide)

theorem handleFrame_linkStep
    (increasing : (console.client.pending.map PendingCall.id).Pairwise (· < ·))
    (listens : console.Listens id) (known : console.resolvers[id]? = some resolver)
    (given : List LinkVerdict) (frame : Frame) :
    LinkStep id given console (console.handleFrame frame) := by
  have dispatched (name : String) (args : List Json) :
      LinkStep id given console (console.dispatch name args).1 := by
    unfold dispatch
    split
    · exact handle_linkStep listens known given args _
    · exact .of_changes (.refl [] console) (by decide)
  cases frame with
  | message name args => exact dispatched name args
  | call number name args =>
      exact (dispatched name args).followed (sendFrame_changes _ _) (by decide)
  | response number result => exact complete_linkStep increasing id given number _
  | error number text => exact complete_linkStep increasing id given number _

/-! ### Tasks -/

theorem questions_cons {task : Task} {rest : List Task} (waiting : console.tasks = task :: rest)
    (id : Nat) :
    console.questions id =
      (task.question? id).toList ++ ({ console with tasks := rest } : Console).questions id := by
  rw [questions, waiting, List.filterMap_cons]
  cases task.question? id <;> rfl

/-- A question that is put to the runtime is settled at once if the runtime cannot be
asked. -/
theorem runTask_validate_linkStep {rest : List Task} {asker : Nat} {row : UInt16}
    {generation : Nat} {link : LinkMatch}
    (waiting : console.tasks = .validate asker row generation link :: rest)
    (known : console.resolvers[id]? = some resolver) :
    LinkStep id (console.verdictsBy (.work .task)) console
      ({ console with tasks := rest }.runTask (.validate asker row generation link)) := by
  have step := call_changes { console with tasks := rest } "validatepath" [.str link.text]
    (.validation asker row generation link)
  have resolvers : ({ console with tasks := rest }.runTask
      (.validate asker row generation link)).resolvers = console.resolvers :=
    step.same .resolvers (by decide)
  have display : ({ console with tasks := rest }.runTask
      (.validate asker row generation link)).terminal.display = console.terminal.display :=
    step.same .display (by decide)
  have before := questions_cons waiting id
  have after : ({ console with tasks := rest }.runTask
      (.validate asker row generation link)).questions id = _ :=
    call_questions { console with tasks := rest } "validatepath" [.str link.text]
      (.validation asker row generation link) id
  change _ = _ ++ if console.takesFrames then
    ((Task.validate asker row generation link).question? id).toList else [] at after
  cases takes : console.takesFrames with
  | true =>
      rw [if_pos takes] at after
      refine .still (by rw [resolvers]) ?_ display
      rw [before, after]
      exact List.perm_append_comm
  | false =>
      rw [if_neg (by simp [takes]), List.append_nil] at after
      by_cases own : asker = id
      · subst own
        refine .settles resolver known ⟨row, generation, link⟩ false ?_
          ((congrArg (·[asker]?) resolvers).trans known) ?_ display
        · simp [verdictsBy, waiting, Task.verdicts, takes]
        · rw [before, after, Task.question?, if_pos rfl]
          exact .refl _
      · refine .still (by rw [resolvers]) (.of_eq ?_) display
        rw [before, after, Task.question?, if_neg own]
        rfl

/-- An answer to a question of a resolver concerns the resolver. -/
theorem deliver_of_asked {console : Console} (known : console.resolvers[id]? = some resolver)
    (row : UInt16) (generation : Nat) (link : LinkMatch) (answer : Except Failure Json) :
    (console.deliver answer (.validation id row generation link)).resolvers[id]? =
      some (if confirms answer then resolver.accept row generation link else resolver) := by
  obtain ⟨inside, here⟩ := List.getElem?_eq_some_iff.mp known
  cases confirmed : confirms answer with
  | true =>
      obtain rfl := eq_of_confirms confirmed
      simp [deliver, setResolver, inside, here]
  | false =>
      have unconfirmed : answer ≠ .ok (.bool true) := by
        rintro rfl
        cases confirmed
      unfold deliver
      dsimp only
      split
      next => exact absurd rfl unconfirmed
      next => exact known

/-- Any other answer does not. -/
theorem deliver_of_unasked (console : Console) (answer : Except Failure Json) {waiter : Waiter}
    (unasked : waiter.question? id = none) :
    (console.deliver answer waiter).resolvers[id]? = console.resolvers[id]? := by
  cases waiter with
  | validation asker row generation link =>
      have other : asker ≠ id := fun own => by simp [Waiter.question?, own] at unasked
      unfold deliver
      dsimp only
      split
      · exact List.getElem?_set_ne other
      · rfl
  | opening ticket opener link =>
      have step : Changes [.trace] console
          (console.deliver answer (.opening ticket opener link)) := by
        unfold deliver
        dsimp only
        split
        · exact console.openLinkFile_changes ..
        · exact console.finish_changes ..
        · exact console.finish_changes ..
      exact congrArg (·[id]?) (step.same .resolvers (by decide))
  | guest ticket expected =>
      have step : Changes [.trace] console (console.deliver answer (.guest ticket expected)) := by
        unfold deliver
        dsimp only
        split <;> exact console.finish_changes ..
      exact congrArg (·[id]?) (step.same .resolvers (by decide))

/-- An answer that is passed on settles the question it answers. -/
theorem runTask_resume_linkStep {rest : List Task} {call : PendingCall}
    {answer : Except Failure Json} (waiting : console.tasks = .resume call answer :: rest)
    (known : console.resolvers[id]? = some resolver) :
    LinkStep id (console.verdictsBy (.work .task)) console
      ({ console with tasks := rest }.runTask (.resume call answer)) := by
  have step := deliver_changes { console with tasks := rest } answer call.waiter
  have display : ({ console with tasks := rest }.runTask
      (.resume call answer)).terminal.display = console.terminal.display :=
    step.same .display (by decide)
  have before := questions_cons waiting id
  have after : ({ console with tasks := rest }.runTask (.resume call answer)).questions id =
      ({ console with tasks := rest } : Console).questions id :=
    questions_of_changes step (by decide) id
  cases asked : call.waiter.question? id with
  | none =>
      refine .still (deliver_of_unasked _ answer asked) (.of_eq ?_) display
      rw [before, after, Task.question?, asked]
      rfl
  | some question =>
      obtain ⟨row, generation, link⟩ := question
      have waiter := Waiter.question?_eq_some asked
      refine .settles resolver known ⟨row, generation, link⟩ (confirms answer) ?_ ?_ ?_ display
      · simp [verdictsBy, waiting, Task.verdicts, waiter, Waiter.verdicts]
      · rw [runTask, waiter]
        have left : ({ console with tasks := rest } : Console).resolvers[id]? = some resolver :=
          known
        exact deliver_of_asked left row generation link answer
      · rw [before, after, Task.question?, asked]
        exact .refl _

/-- The oldest task is carried out. -/
theorem runOldest_linkStep (known : console.resolvers[id]? = some resolver) :
    LinkStep id (console.verdictsBy (.work .task)) console console.runOldest := by
  unfold runOldest
  cases waiting : console.tasks with
  | nil => exact .of_changes (.refl [] console) (by decide)
  | cons task rest =>
      cases task with
      | validate asker row generation link => exact runTask_validate_linkStep waiting known
      | resume call answer => exact runTask_resume_linkStep waiting known
      | chosen errand choice =>
          have step := resumeErrand_changes { console with tasks := rest } choice errand
          have resolvers : ({ console with tasks := rest }.runTask
              (.chosen errand choice)).resolvers = console.resolvers :=
            step.same .resolvers (by decide)
          refine .still (by rw [resolvers]) (.of_eq ?_) (step.same .display (by decide))
          exact (questions_of_changes step (by decide) id).trans (questions_cons waiting id).symm

/-- An event that acts on the screen, or on what is asked of the runtime. -/
theorem direct_linkStep (listens : console.Listens id)
    (known : console.resolvers[id]? = some resolver) {event : Event}
    (direct : event.direct = true) :
    LinkStep id (console.verdictsBy event) console (console.apply event) := by
  cases event with
  | resetPending => exact console.resetPending_linkStep id _
  | call ticket expected name args => exact console.call_linkStep id _ name args _ rfl
  | openLink ticket position =>
      change LinkStep id _ console (console.openLink ticket position)
      unfold openLink
      split
      · unfold activateAt
        split
        · unfold activateLink
          split
          · exact call_linkStep _ _ _ _ _ _ rfl
          · exact .of_changes (finish_changes _ _ _) (by decide)
        · exact .of_changes (finish_changes _ _ _) (by decide)
      · exact .of_changes (finish_changes _ _ _) (by decide)
  | write bytes => exact write_linkStep listens known _ bytes
  | pump => exact pump_linkStep listens known _
  | clear => exact clear_linkStep listens known _
  | resize size => exact resize_linkStep listens known _ size
  | work step =>
      cases step with
      | task => exact runOldest_linkStep known
      | _ => cases direct
  | _ => cases direct

/-- An event that is of no concern to the session. -/
theorem Aside.linkStep (ordered : console.CallsInOrder) (listens : console.Listens id)
    (known : console.resolvers[id]? = some resolver) {event : Event}
    (aside : Aside console event (console.apply event)) :
    LinkStep id (console.verdictsBy event) console (console.apply event) := by
  cases aside with
  | quiet step apart => exact .of_changes step apart
  | hears ready frame readied reached =>
      rw [reached]
      have readyKnown : ready.resolvers[id]? = some resolver :=
        (congrArg (·[id]?) (readied.same .resolvers (by decide))).trans known
      have pending : ready.client.pending = console.client.pending :=
        readied.same .pending (by decide)
      exact .preceded readied (by decide) (handleFrame_linkStep (pending ▸ ordered.increasing)
        (listens.of_changes readied (by decide)) readyKnown _ frame)
  | acts direct => exact direct_linkStep listens known direct

end

end Console

end RuntimeConsole
