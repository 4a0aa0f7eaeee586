/-
Module: RuntimeConsole.Proofs.InterruptedLinks
Purpose: What comes of activations whose session ends: a link is ignored if the session ended
  before it was activated or after the answer came in, but a call that waits when the session ends
  fails, and with it the activation.
Main exports:
  outcomeAfterEnd, InquiryLost, LinksInterrupted, links_interrupted
-/
import RuntimeConsole.Proofs.LinkCourse

namespace RuntimeConsole

open Console

/-- What an activation comes to where it goes on after its session has ended. -/
def outcomeAfterEnd : Except Failure Json → Outcome
  | .ok (.str _) => .linkOpened false
  | .ok _ => .failed (.serialization "expected a path")
  | .error failure => .failed failure

/-- What becomes of an inquiry whose connection ends while its call waits. -/
structure InquiryLost (start : Console) (before : List LinkEvent) (inquiry : Inquiry)
    (rest : List LinkEvent) : Prop where
  ended : (start.useAll (before ++ rest)).works inquiry.activation.resolver = false
  /-- The call has failed, and it gets no other answer. -/
  failed : ∀ answer, (inquiry.call, answer) ∈ (start.useAll (before ++ rest)).answers →
    answer = .error (.disconnected "fullpath")
  /-- The activation waits to go on, or it has gone on and failed. -/
  finished : (inquiry.call, .error (.disconnected "fullpath")) ∈
      (start.useAll (before ++ rest)).answers ∨
    ∃ middle event later, rest = middle ++ event :: later ∧
      (start.useAll (before ++ middle ++ [event])).trace =
        (start.useAll (before ++ middle)).trace ++
          [.finished inquiry.activation.ticket (.failed (.disconnected "fullpath"))]

/-- What comes of links whose session ends, in a run in which links are activated while other
things happen. -/
structure LinksInterrupted (start : Console) (events : List LinkEvent) : Prop where
  /-- A link that is activated after its session has ended is ignored. -/
  late : ∀ earlier event later activation, events = earlier ++ event :: later →
    (start.useAll earlier).activation? event = some activation →
      (start.useAll earlier).works activation.resolver = false →
        start.useAll (earlier ++ [event]) =
          (start.useAll earlier).finish activation.ticket (.linkOpened false)
  lost : ∀ before activation waiting ending rest inquiry,
    events = before ++ activation :: (waiting ++ ending :: rest) →
      Awaited start before activation waiting inquiry →
        (start.useAll (before ++ activation :: (waiting ++ [ending]))).client.connection ≠
            (start.useAll (before ++ activation :: waiting)).client.connection →
          InquiryLost start (before ++ activation :: (waiting ++ [ending])) inquiry rest
  /-- An activation that goes on after its session has ended opens nothing. -/
  resumed : ∀ earlier event later (inquiry : Inquiry) answer,
    events = earlier ++ event :: later →
    (start.useAll earlier).resumed? event = some (.resume inquiry.call answer) →
      (start.useAll earlier).works inquiry.activation.resolver = false →
        (start.useAll (earlier ++ [event])).trace =
          (start.useAll earlier).trace ++
            [.finished inquiry.activation.ticket (outcomeAfterEnd answer)]

namespace Console

variable {base console : Console}

/-- An activation that goes on after its session has ended has an outcome, and nothing else is
done. -/
theorem resumed_trace {event : LinkEvent} {inquiry : Inquiry} {answer : Except Failure Json}
    (goesOn : console.resumed? event = some (.resume inquiry.call answer))
    (ended : console.works inquiry.activation.resolver = false) :
    (console.use event).trace =
      console.trace ++ [.finished inquiry.activation.ticket (outcomeAfterEnd answer)] := by
  obtain ⟨place, -, reached⟩ := use_of_resumed goesOn
  have delivered (reached : Console) (shut : reached.works inquiry.activation.resolver = false) :
      reached.runTask (.resume inquiry.call answer) =
        reached.finish inquiry.activation.ticket (outcomeAfterEnd answer) := by
    cases answer with
    | error failure => rfl
    | ok value =>
        cases value with
        | str path => exact if_neg (ne_true_of_eq_false shut)
        | _ => rfl
  rw [reached, delivered { console with tasks := console.tasks.eraseIdx place } ended]
  rfl

/-- An answer that waits goes on waiting until it is gone on with, and then nothing waits under
its number any more. -/
theorem answer_course (fresh : Fresh base) (settled : Settled base console)
    (reckoned : console.Reckoned) {call : PendingCall} {answer : Except Failure Json}
    (given : (call, answer) ∈ console.answers) (events : List LinkEvent) :
    (call, answer) ∈ (console.useAll events).answers ∨
      (console.useAll events).Spent call.id ∧ ∃ middle event later,
        events = middle ++ event :: later ∧
          (console.useAll middle).resumed? event = some (.resume call answer) := by
  induction events using List.reverseRecOn with
  | nil => exact .inl given
  | append_singleton events event inductionHypothesis =>
      obtain ⟨reached, reachedReckoned⟩ := useAll_settled fresh settled reckoned events
      obtain ⟨-, -, change⟩ := use_settled fresh reached reachedReckoned event
      rw [useAll_concat]
      rcases inductionHypothesis with waits | ⟨spent, middle, gone, later, rfl, goesOn⟩
      · rcases change.answers_kept reachedReckoned.ordered waits with still | goesOn
        · exact .inl still
        · refine .inr ⟨spent_of_taken (use_taken goesOn) reachedReckoned, events, event, [], rfl,
            goesOn⟩
      · refine .inr ⟨spent.use reachedReckoned.ordered change, middle, gone, later ++ [event], ?_,
          goesOn⟩
        simp

/-- The answers to a call are one. -/
theorem Reckoned.eq_of_answers (reckoned : console.Reckoned) {call : PendingCall}
    {first second : Except Failure Json} (given : (call, first) ∈ console.answers)
    (givenToo : (call, second) ∈ console.answers) : first = second :=
  (Prod.mk.inj (List.inj_on_of_nodup_map reckoned.distinct given givenToo rfl)).2

end Console

section

variable {base start : Console} {before waiting : List LinkEvent} {activation ending : LinkEvent}
  {inquiry : Inquiry}

/-- The resolver of an inquiry whose connection has ended works no more. -/
theorem ended_of_lost (fresh : Fresh base) (settled : Settled base start)
    (reckoned : start.Reckoned) (awaited : Awaited start before activation waiting inquiry)
    (lost : (start.useAll (before ++ activation :: (waiting ++ [ending]))).client.connection ≠
      (start.useAll (before ++ activation :: waiting)).client.connection)
    (rest : List LinkEvent) :
    (start.useAll (before ++ activation :: (waiting ++ [ending]) ++ rest)).works
      inquiry.activation.resolver = false := by
  obtain ⟨-, worked, -⟩ := inquiry?_eq_some_iff.mp awaited.made
  obtain ⟨asking, askingReckoned⟩ := useAll_settled fresh settled reckoned before
  rw [← Bool.not_eq_true]
  intro works
  rw [List.append_assoc, useAll_append] at works
  have throughout := worked_throughout fresh asking askingReckoned (lt_of_works worked) _ works
  rw [useAll_append, useAll_append] at lost
  have first := (throughout (activation :: waiting) ⟨[ending] ++ rest, by simp⟩).2
  have second := (throughout (activation :: (waiting ++ [ending])) ⟨rest, rfl⟩).2
  exact lost (second.trans first.symm)

theorem inquiry_lost (fresh : Fresh base) (settled : Settled base start)
    (reckoned : start.Reckoned) (awaited : Awaited start before activation waiting inquiry)
    (lost : (start.useAll (before ++ activation :: (waiting ++ [ending]))).client.connection ≠
      (start.useAll (before ++ activation :: waiting)).client.connection)
    (rest : List LinkEvent) :
    InquiryLost start (before ++ activation :: (waiting ++ [ending])) inquiry rest := by
  have ended := ended_of_lost fresh settled reckoned awaited lost
  have split : before ++ activation :: (waiting ++ [ending]) =
      before ++ activation :: waiting ++ [ending] := by simp
  obtain ⟨asked, askedReckoned⟩ :=
    useAll_settled fresh settled reckoned (before ++ activation :: waiting)
  obtain ⟨reached, reachedReckoned⟩ :=
    useAll_settled fresh settled reckoned (before ++ activation :: (waiting ++ [ending]))
  have given : inquiry.call.failed ∈
      (start.useAll (before ++ activation :: (waiting ++ [ending]))).answers := by
    rw [split, useAll_concat] at lost ⊢
    exact (use_settled fresh asked askedReckoned ending).2.2.failed_of_lost askedReckoned.ordered
      (awaited.waits waiting (List.prefix_refl _)) lost
  have course := answer_course fresh reached reachedReckoned given rest
  rw [← useAll_append] at course
  exact {
    ended := ended rest
    failed := fun answer found => by
      rcases course with waits | ⟨spent, -⟩
      · exact ((useAll_settled fresh settled reckoned _).2).eq_of_answers found waits
      · exact absurd rfl (spent.unanswered _ found)
    finished := by
      refine course.imp id ?_
      rintro ⟨-, middle, event, later, split, goesOn⟩
      refine ⟨middle, event, later, split, ?_⟩
      rw [← useAll_append] at goesOn
      rw [useAll_concat]
      exact resumed_trace goesOn (ended middle) }

end

/-- Links are ignored or fail where their session ends, and none is opened. -/
theorem links_interrupted (base : Console) (events : List LinkEvent) (fresh : Fresh base) :
    LinksInterrupted base.activateSession events := by
  obtain ⟨settled, -⟩ := activateSession_settled fresh
  have free := activateSession_callFree fresh
  exact {
    late := fun earlier event _ activation _ known ended => by
      rw [useAll_concat, use_of_activation known, activateLink_ended _ ended]
    lost := fun before activation waiting ending rest inquiry _ awaited lost =>
      inquiry_lost fresh settled free.reckoned awaited lost rest
    resumed := fun earlier event _ inquiry answer _ goesOn ended => by
      rw [useAll_concat]
      exact resumed_trace goesOn ended }

/-- Two links are activated, and the connection gives way to another when one of them has been
answered; then a third is activated through the resolver of the first connection. -/
def activationsCutShort : List LinkEvent :=
  [.happens (.connect .plain), .activates 1 0 ⟨"a.jl", "a.jl", none, 0, 4⟩,
    .activates 2 0 ⟨"b.jl", "b.jl", none, 0, 4⟩, .happens (.frame (.response 5 (.str "/b.jl"))),
    .happens (.connect .plain), .resumes 1, .resumes 0,
    .activates 3 0 ⟨"c.jl", "c.jl", none, 0, 4⟩]

/-- The activation whose call waited fails, and the others come to nothing. -/
theorem links_interrupted_replaced :
    let start := (Console.bare ⟨3, 20⟩).activateSession
    Fresh (Console.bare ⟨3, 20⟩) ∧ LinksInterrupted start activationsCutShort ∧
      (start.useAll activationsCutShort).trace.drop 4 =
        [.finished 1 (.failed (.disconnected "fullpath")), .finished 2 (.linkOpened false),
          .finished 3 (.linkOpened false)] :=
  ⟨bare_fresh _, links_interrupted _ activationsCutShort (bare_fresh _), by decide +kernel⟩

end RuntimeConsole
