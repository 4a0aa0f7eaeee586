/-
Module: RuntimeConsole.Proofs.LinkOpenings
Purpose: Links are opened safely and exactly, whatever else happens: at most once for an
  activation, with the path the runtime gave for that very link, and only while the session in
  which it was activated lasts.
Main exports:
  OpeningCourse, LinkMatch.OpensAt, LinksOpened, links_opened
-/
import RuntimeConsole.Proofs.LinkAnatomy
import RuntimeConsole.Proofs.LinkCourse
import RuntimeConsole.Proofs.OpenedFiles

namespace RuntimeConsole

open Console

/-! ### The line a link is opened at -/

/-- A link is opened at a line, counted from zero. -/
structure LinkMatch.OpensAt (link : LinkMatch) (line : UInt32) : Prop where
  named : ∀ n, link.line = some n → 1 ≤ n → line.toNat + 1 = n.toNat
  top : link.line = none → line = 0
  /-- A link that has been found in a row names its line by the digits behind its path. -/
  numbered : ∀ platform row, link ∈ linksInLine platform row → ∀ digits : List Char,
    link.text = link.path ++ ":" ++ String.ofList digits →
      digits ≠ [] → (∀ c ∈ digits, c.isDigit = true) →
        1 ≤ Nat.ofDigitChars 10 digits 0 → Nat.ofDigitChars 10 digits 0 < UInt32.size →
          line.toNat + 1 = Nat.ofDigitChars 10 digits 0
  plain : ∀ platform row, link ∈ linksInLine platform row → link.text = link.path → line = 0

theorem toNat_openLine {link : LinkMatch} {n : UInt32} (named : link.line = some n)
    (positive : 1 ≤ n) : link.openLine.toNat + 1 = n.toNat := by
  have first : 1 ≤ n.toNat := UInt32.le_iff_toNat_le.mp positive
  have other : n ≠ 0 := by
    rintro rfl
    exact absurd first (by decide)
  have line : link.openLine = n - 1 := by
    rw [LinkMatch.openLine, named]
    exact if_neg other
  rw [line, UInt32.toNat_sub_of_le n 1 positive]
  exact Nat.sub_add_cancel first

/-- What stands behind a path makes it longer. -/
theorem tailed_ne (path : String) (digits : List Char) :
    path ++ ":" ++ String.ofList digits ≠ path := by
  intro same
  simpa using congrArg (fun text => text.toList.length) same

theorem openLine_opensAt (link : LinkMatch) : link.OpensAt link.openLine where
  named n := toNat_openLine
  top none := by rw [LinkMatch.openLine, none]
  numbered platform row member digits text nonempty ascii positive bounded := by
    obtain ⟨found, -, shape, value⟩ := (linksInLine_cut member).numbered
    obtain rfl : found = digits := by
      rw [text] at shape
      rcases shape with ⟨bare, -⟩ | ⟨tailed, -⟩
      · exact absurd bare (tailed_ne _ _)
      · simpa using (congrArg String.toList tailed).symm
    have same : (UInt32.ofNat (Nat.ofDigitChars 10 found 0)).toNat =
        Nat.ofDigitChars 10 found 0 := UInt32.toNat_ofNat_of_lt' bounded
    have line := (value _).mpr ⟨nonempty, ascii, same.symm⟩
    rw [toNat_openLine line (UInt32.le_iff_toNat_le.mpr (same.symm ▸ positive)), same]
  plain platform row member text := by
    obtain ⟨found, -, shape, value⟩ := (linksInLine_cut member).numbered
    rw [text] at shape
    rcases shape with ⟨-, bare⟩ | ⟨tailed, -⟩
    · cases line : link.line with
      | none => rw [LinkMatch.openLine, line]
      | some n => exact absurd bare ((value n).mp line).1
    · exact absurd tailed.symm (tailed_ne _ _)

/-! ### How a link comes to be opened -/

/-- How a link comes to be opened.  The run that leads to it is cut where the link is activated
and where the answer comes in. -/
structure OpeningCourse (start : Console) (opened : OpenedLink) (before : List LinkEvent)
    (activation : LinkEvent) (waiting : List LinkEvent) (reply : LinkEvent)
    (rest : List LinkEvent) : Prop where
  activated : (start.useAll before).activation? activation = some opened.inquiry.activation
  /-- The runtime is asked for the full path of that very link. -/
  asked : (start.useAll before).inquiry? activation = some opened.inquiry ∧
    Says [opened.inquiry.frame] (start.useAll before) (start.useAll (before ++ [activation]))
  waited : ∀ first, first <+: waiting →
    opened.inquiry.call ∈ (start.useAll (before ++ activation :: first)).client.pending
  /-- The answer is a reply to that call, and gives the path. -/
  replied : (start.useAll (before ++ activation :: waiting)).inboundFrame? reply =
    some (opened.inquiry.reply (.str opened.path))
  connected : (start.useAll before).client.connection ≠ none
  /-- The resolver works from the activation on until the link is opened, and the connection is
  the same all the time. -/
  lasted : ∀ first, first <+: activation :: (waiting ++ reply :: rest) →
    (start.useAll (before ++ first)).works opened.inquiry.activation.resolver = true ∧
      (start.useAll (before ++ first)).client.connection = (start.useAll before).client.connection

/-- What is opened in a run in which links are activated while other things happen. -/
structure LinksOpened (start : Console) (events : List LinkEvent) : Prop where
  /-- The editor is asked to open the links that are opened, each as a preview, and nothing
  else. -/
  files : (start.useAll events).openedFiles =
    start.openedFiles ++ (start.notedIn openedLinks events).map fun opened =>
      (opened.path, opened.inquiry.activation.link.openLine, true)
  lines : ∀ opened ∈ start.notedIn openedLinks events,
    opened.inquiry.activation.link.OpensAt opened.inquiry.activation.link.openLine
  /-- Each activation asks under a number of its own. -/
  numbers : ((start.notedIn inquiries events).map Inquiry.number).Pairwise (· < ·)
  /-- What it asked for is opened at most once. -/
  once : ((start.notedIn openedLinks events).map fun opened => opened.inquiry.number).Nodup
  course : ∀ earlier event later, events = earlier ++ event :: later →
    ∀ opened ∈ (start.useAll earlier).openedLinks event,
      ∃ before activation waiting reply rest,
        earlier = before ++ activation :: (waiting ++ reply :: rest) ∧
          OpeningCourse start opened before activation waiting reply rest

/-- An answer that gives a path is a reply of the runtime. -/
theorem Replies.frame {console : Console} {event : LinkEvent} {inquiry : Inquiry} {path : String}
    (replies : Replies console event inquiry.call (.ok (.str path))) :
    console.inboundFrame? event = some (inquiry.reply (.str path)) := by
  rcases replies with ⟨frame, inbound, answers⟩ | ⟨lost, -⟩
  · rw [inbound, Frame.answer?_eq_ok_iff.mp answers]
    rfl
  · cases lost

theorem opening_course {base start : Console} (fresh : Fresh base) (settled : Settled base start)
    (reckoned : start.Reckoned) {earlier : List LinkEvent} (traced : Traced start earlier)
    {event : LinkEvent} {opened : OpenedLink}
    (member : opened ∈ (start.useAll earlier).openedLinks event) :
    ∃ before activation waiting reply rest,
      earlier = before ++ activation :: (waiting ++ reply :: rest) ∧
        OpeningCourse start opened before activation waiting reply rest := by
  obtain ⟨call, number, waiter, goesOn, works⟩ := mem_openedLinks member
  have given : (call, .ok (.str opened.path)) ∈ (start.useAll earlier).answers :=
    (use_taken goesOn).answers.mem_iff.mpr List.mem_cons_self
  obtain ⟨before, activation, waiting, reply, rest, inquiry, rfl, rfl, awaited, replies⟩ :=
    traced.answered call _ given (by rw [PendingCall.opens, waiter])
  obtain rfl : inquiry = opened.inquiry := by
    have same : opened.inquiry.call = ⟨inquiry.call.id, "fullpath", inquiry.call.waiter⟩ := by
      rw [number, waiter]
      rfl
    exact Inquiry.call_injective same.symm
  obtain ⟨activated, worked, -, -⟩ := inquiry?_eq_some_iff.mp awaited.made
  obtain ⟨asking, askingReckoned⟩ := useAll_settled fresh settled reckoned before
  refine ⟨before, activation, waiting, reply, rest, rfl, ?_⟩
  exact {
    activated := activated
    asked := ⟨awaited.made, by rw [useAll_concat]; exact (use_inquiry awaited.made).2⟩
    waited := awaited.waits
    replied := replies.frame
    connected := asking.connected_of_works worked
    lasted := fun first ahead => by
      rw [useAll_append] at works ⊢
      exact worked_throughout fresh asking askingReckoned (lt_of_works worked) _ works first ahead }

/-- Whatever happens while links are activated, they are opened safely and exactly. -/
theorem links_opened (base : Console) (events : List LinkEvent) (fresh : Fresh base) :
    LinksOpened base.activateSession events := by
  obtain ⟨settled, -⟩ := activateSession_settled fresh
  have free := activateSession_callFree fresh
  exact {
    files := base.activateSession.useAll_openedFiles events
    lines := fun opened _ => openLine_opensAt _
    numbers := (inquiries_increasing fresh settled free.reckoned events).1
    once := (openedLinks_once fresh settled free.reckoned events).1
    course := fun earlier event later _ opened member =>
      opening_course fresh settled free.reckoned
        (.of_run fresh settled free.reckoned free.pending free.answers earlier) member }

/-- Three links are activated, their answers come in out of turn and are gone on with out of turn,
and the connection ends before the last of them. -/
def activationsOutOfTurn : List LinkEvent :=
  [.happens (.connect .plain), .activates 1 0 ⟨"a.jl:12", "a.jl", some 12, 0, 7⟩,
    .activates 2 0 ⟨"b.jl", "b.jl", none, 0, 4⟩, .activates 3 0 ⟨"c.jl:1", "c.jl", some 1, 0, 6⟩,
    .happens (.frame (.response 6 (.str "/c.jl"))), .happens (.frame (.response 4 (.str "/a.jl"))),
    .happens (.frame (.response 5 (.str "/b.jl"))), .resumes 1, .happens (.work .task),
    .happens .disconnect, .resumes 0]

/-- The link whose answer had come in when the connection ended is not opened. -/
theorem links_opened_out_of_turn :
    let start := (Console.bare ⟨3, 20⟩).activateSession
    Fresh (Console.bare ⟨3, 20⟩) ∧ LinksOpened start activationsOutOfTurn ∧
      (start.useAll activationsOutOfTurn).openedFiles = [("/a.jl", 11, true), ("/c.jl", 0, true)] :=
  ⟨bare_fresh _, links_opened _ activationsOutOfTurn (bare_fresh _), by decide +kernel⟩

end RuntimeConsole
